import Mathlib.Data.List.Perm.Basic
import SketchSurvey.CommandLine.Arguments
import SketchSurvey.Proofs.CommandLine.Reading
import SketchSurvey.Proofs.Text.Decimal

/-! What a caller asks for is what is read, in whatever order the options stand. One text is no value of an
option: the mark that ends the options leaves it empty. -/

set_option autoImplicit false

namespace SketchSurvey.CommandLine

open SketchSurvey.Json
open SketchSurvey.Text (Decimal)

/-- An option as it is written: by its name, with its value behind an equals sign. -/
inductive Wish where
  | config (path : String)
  | useDefaults
  | dumpConfig
  | debug
  | logFile (path : String)
  | sketchFunctions (names : String)
  | maxFileBytes (size : Decimal)
  | json

def Wish.argument : Wish → String
  | config path => "--config" ++ "=" ++ path
  | useDefaults => "--use-defaults"
  | dumpConfig => "--dump-config"
  | debug => "--debug"
  | logFile path => "--log-file" ++ "=" ++ path
  | sketchFunctions names => "--sketch-functions" ++ "=" ++ names
  | maxFileBytes size => "--max-file-bytes" ++ "=" ++ size.text
  | json => "--json"

/-- The value that a text is for an option. -/
def Given.ofText (s : String) : Given String := if s = "--" then .emptied else .value s

def Wish.setting : Wish → Setting
  | config path => .text Spec.config (.ofText path)
  | useDefaults => .flag Spec.useDefaults
  | dumpConfig => .flag Spec.dumpConfig
  | debug => .flag Spec.debug
  | logFile path => .text Spec.logFile (.ofText path)
  | sketchFunctions names => .text Spec.sketchFunctions (.ofText names)
  | maxFileBytes size => .number Spec.maxFileBytes (.value size.value)
  | json => .flag Spec.json

/-- What a caller asks for, each thing once or not at all. -/
structure Wishes where
  config : Option String := none
  useDefaults : Bool := false
  dumpConfig : Bool := false
  debug : Bool := false
  logFile : Option String := none
  sketchFunctions : Option String := none
  maxFileBytes : Option Decimal := none
  json : Bool := false

namespace Wishes

def list (w : Wishes) : List Wish :=
  w.config.toList.map .config ++ (if w.useDefaults then [.useDefaults] else []) ++
    (if w.dumpConfig then [.dumpConfig] else []) ++ (if w.debug then [.debug] else []) ++
    w.logFile.toList.map .logFile ++ w.sketchFunctions.toList.map .sketchFunctions ++
    w.maxFileBytes.toList.map .maxFileBytes ++ (if w.json then [.json] else [])

/-- The options that answer to the wishes. -/
def options (w : Wishes) : Options where
  config := w.config.elim .absent .ofText
  useDefaults := w.useDefaults
  dumpConfig := w.dumpConfig
  debug := w.debug
  logFile := w.logFile.elim .absent .ofText
  sketchFunctions := w.sketchFunctions.elim .absent .ofText
  maxFileBytes := w.maxFileBytes.elim .absent fun size => .value size.value
  json := w.json

end Wishes

section Settings

theorem noEquals_program : ∀ o ∈ Spec.program.options, ∀ n ∈ o.names, '=' ∉ n.toList := by decide

theorem beq_dashes (s : String) : (if s == "--" then Given.emptied else .value s) = Given.ofText s := by
  simp [Given.ofText]

theorem valued_ne_dashes (name value : String) : name ++ "=" ++ value ≠ "--" := by
  intro same
  have member : '=' ∈ "--".toList := by
    rw [← same, String.toList_append, String.toList_append]
    simp
  exact absurd member (by decide)

/-- An option with a text for its value. -/
theorem sets_text {c : CommandSpec} {o : OptionSpec} {name metavar : String} {more : List Char}
    (known : byName? c.options name = some o) (starts : name.toList = '-' :: '-' :: more)
    (plain : '=' ∉ name.toList) (others : ∀ o ∈ c.options, ∀ n ∈ o.names, '=' ∉ n.toList)
    (takesText : o.arity = .text metavar) (value : String) :
    Sets c (name ++ "=" ++ value) (.text o (.ofText value)) where
  notDashes := valued_ne_dashes name value
  found := by
    refine ⟨_, kindOf_value starts plain others value known, fun rest => ?_⟩
    unfold CommandSpec.takeOption CommandSpec.settingOf
    simp only [takesText, beq_dashes]
    rfl

theorem text_ne_dashes (d : Decimal) : d.text ≠ "--" := by
  intro same
  have read := Text.parseInt_text d
  have malformed : Text.parseInt "--" = .error .malformed := by rfl
  rw [same, malformed] at read
  cases read

/-- An option with a number for its value. -/
theorem sets_number (size : Decimal) :
    Sets Spec.program (Wish.argument (.maxFileBytes size)) (.number Spec.maxFileBytes (.value size.value)) where
  notDashes := valued_ne_dashes _ _
  found := by
    have known : byName? Spec.program.options "--max-file-bytes" = some Spec.maxFileBytes := by decide
    refine ⟨_, kindOf_value rfl (by decide) noEquals_program size.text known, fun rest => ?_⟩
    have noDashes : ¬ (size.text == "--") = true := by simpa using text_ne_dashes size
    have number : Spec.maxFileBytes.arity = .number "MAX_FILE_BYTES" := rfl
    unfold CommandSpec.takeOption CommandSpec.settingOf
    simp only [number, if_neg noDashes, Text.parseInt_text]
    rfl

/-- Each option is read alone, as the setting that it is. -/
theorem sets_argument (x : Wish) : Sets Spec.program x.argument x.setting := by
  cases x with
  | config path => exact sets_text (by decide) rfl (by decide) noEquals_program rfl path
  | logFile path => exact sets_text (by decide) rfl (by decide) noEquals_program rfl path
  | sketchFunctions names => exact sets_text (by decide) rfl (by decide) noEquals_program rfl names
  | useDefaults | dumpConfig | debug | json => exact ⟨by decide, _, rfl, fun rest => rfl⟩
  | maxFileBytes size => exact sets_number size

end Settings

section Order

/-- A wish is among those of the caller. -/
def Wish.IsOf (w : Wishes) : Wish → Prop
  | config path => w.config = some path
  | useDefaults => w.useDefaults = true
  | dumpConfig => w.dumpConfig = true
  | debug => w.debug = true
  | logFile path => w.logFile = some path
  | sketchFunctions names => w.sketchFunctions = some names
  | maxFileBytes size => w.maxFileBytes = some size
  | json => w.json = true

theorem isOf_of_mem {w : Wishes} {x : Wish} (member : x ∈ w.list) : x.IsOf w := by
  have whether {b : Bool} {y : Wish} (member : x ∈ if b then [y] else []) : b = true ∧ x = y := by
    cases b with
    | true => exact ⟨rfl, List.mem_singleton.mp member⟩
    | false => cases member
  simp only [Wishes.list, List.mem_append, List.mem_map, Option.mem_toList] at member
  rcases member with ((((((⟨s, isGiven, rfl⟩ | flag) | flag) | flag) | ⟨s, isGiven, rfl⟩) | ⟨s, isGiven, rfl⟩) |
    ⟨s, isGiven, rfl⟩) | flag
  all_goals first | exact isGiven | (obtain ⟨given, rfl⟩ := whether flag; exact given)

/-- What two wishes of a caller set does not depend on which comes first. -/
theorem set_comm {w : Wishes} {x y : Wish} (first : x.IsOf w) (second : y.IsOf w) (o : Options) :
    (o.set x.setting).set y.setting = (o.set y.setting).set x.setting := by
  cases x <;> cases y <;> first
    | rfl
    | (have same := Option.some.inj (first.symm.trans second); rw [same])

theorem foldl_set_ite (b : Bool) (x : Wish) (o : Options) :
    (if b then [x] else []).foldl (fun o x => o.set x.setting) o = if b then o.set x.setting else o := by
  cases b <;> rfl

theorem foldl_set_option {α : Type} (v : Option α) (f : α → Wish) (o : Options) :
    (v.toList.map f).foldl (fun o x => o.set x.setting) o = v.elim o fun a => o.set (f a).setting := by
  cases v <;> rfl

/-- The wishes set what they are for. -/
theorem foldl_set (w : Wishes) : w.list.foldl (fun o x => o.set x.setting) {} = w.options := by
  obtain ⟨config, useDefaults, dumpConfig, debug, logFile, sketchFunctions, maxFileBytes, json⟩ := w
  simp only [Wishes.list, List.foldl_append, foldl_set_ite, foldl_set_option]
  have first : config.elim {} (fun a => Options.set {} (Wish.config a).setting) =
      { config := config.elim .absent .ofText } := by cases config <;> rfl
  rw [first]
  cases useDefaults <;> cases dumpConfig <;> cases debug <;> cases json <;> cases logFile <;>
    cases sketchFunctions <;> cases maxFileBytes <;> rfl

theorem foldl_set_perm {w : Wishes} {order : List Wish} (asked : order.Perm w.list) :
    (order.map Wish.setting).foldl Options.set {} = w.options := by
  rw [← foldl_set, List.foldl_map]
  refine asked.foldl_eq' (fun x inside y inside' o => ?_) _
  exact set_comm (isOf_of_mem (asked.mem_iff.mp inside)) (isOf_of_mem (asked.mem_iff.mp inside')) o

end Order

/-- A command as it is called. -/
inductive Call where
  | scan (path : String)
  | classify (paths : List String)
  | freeVars (path : String) (excludeGlobals : Bool)
  | members (path : String) (namespaceName : Option String)
  | check (path : String)
  | listing (path : String)

namespace Call

def command : Call → Command
  | scan path => .scan path
  | classify paths => .classify paths
  | freeVars path excludeGlobals => .freeVars path excludeGlobals
  | members path namespaceName => .members path (namespaceName.elim .absent .ofText)
  | check path => .check path
  | listing path => .listing path

/-- The options of the command itself. -/
def ownOptions : Call → List String
  | freeVars _ true => ["--exclude-globals"]
  | members _ (some name) => ["--namespace" ++ "=" ++ name]
  | _ => []

/-- A call is written with its options anywhere behind the name of the command. No path is empty or looks like
an option. -/
structure IsWritten (c : Call) (args : List String) : Prop where
  somePath : c.command.paths ≠ []
  properPaths : ∀ p ∈ c.command.paths, p ≠ "" ∧ p.toList.head? ≠ some '-'
  placed : ∃ before after, c.ownOptions = before ++ after ∧ args = before ++ (c.command.paths ++ after)

end Call

/-- The arguments that answer to the wishes and the call. -/
def Wishes.arguments (w : Wishes) (c : Call) : Arguments where
  options := w.options
  command := some c.command

section Calls

theorem noEquals_members : ∀ o ∈ Spec.members.options, ∀ n ∈ o.names, '=' ∉ n.toList := by decide

/-- What the options of a command itself set. -/
def Call.ownSettings : Call → List Setting
  | .freeVars _ true => [.flag Spec.excludeGlobals]
  | .members _ (some name) => [.text Spec.namespaceName (.ofText name)]
  | _ => []

theorem sets_ownOptions (c : Call) : List.Forall₂ (Sets c.command.spec) c.ownOptions c.ownSettings := by
  cases c with
  | scan | classify | check | listing => exact .nil
  | freeVars path excludeGlobals =>
      cases excludeGlobals with
      | false => exact .nil
      | true => exact .cons ⟨by decide, _, rfl, fun rest => rfl⟩ .nil
  | members path namespaceName =>
      cases namespaceName with
      | none => exact .nil
      | some name => exact .cons (sets_text (by decide) rfl (by decide) noEquals_members rfl name) .nil

/-- To the program as a whole the options of a command are nothing that it could mistake. -/
theorem kindOf_ownOption {c : Call} {text : String} (member : text ∈ c.ownOptions) :
    text ≠ "--" ∧ ∃ kind, Spec.program.kindOf text = .ok kind := by
  cases c with
  | scan | classify | check | listing => cases member
  | freeVars path excludeGlobals =>
      cases excludeGlobals with
      | false => cases member
      | true =>
          rw [List.mem_singleton.mp member]
          exact ⟨by decide, _, rfl⟩
  | members path namespaceName =>
      cases namespaceName with
      | none => cases member
      | some name =>
          rw [List.mem_singleton.mp member]
          exact ⟨valued_ne_dashes _ _, exists_kindOf_unnamed rfl (by decide) noEquals_program name (by decide)⟩

theorem commandOf_ownSettings (c : Call) :
    commandOf c.command.spec { settings := c.ownSettings, positional := some c.command.paths } =
      some c.command := by
  cases c with
  | scan | classify | check | listing => rfl
  | freeVars path excludeGlobals => cases excludeGlobals <;> rfl
  | members path namespaceName => cases namespaceName <;> rfl

theorem fits_paths (c : Call) (somePath : c.command.paths ≠ []) :
    c.command.spec.positional.Fits (c.command.paths.map fun text => ⟨text, .plain⟩) := by
  cases c with
  | classify paths => exact fun none' => somePath (List.map_eq_nil_iff.mp none')
  | scan | freeVars | members | check | listing => rfl

/-- A command is read as it is called. -/
theorem readCommand_call {c : Call} {args : List String} (written : c.IsWritten args) :
    readCommand (c.command.name :: args) = .ok (some c.command, []) := by
  obtain ⟨somePath, properPaths, before, after, own, rfl⟩ := written
  have sets := sets_ownOptions c
  rw [own] at sets
  have first := (List.forall₂_take_append _ before after sets.flip).flip
  have last := (List.forall₂_drop_append _ before after sets.flip).flip
  have known : Spec.commands.find? (·.name == c.command.name) = some c.command.spec := by
    cases c <;> rfl
  have taken : (pure c.command.paths : Except Stop (List String)) = .ok c.command.paths := rfl
  have read := readAll_positionals first last (fun p member => (properPaths p member).2)
    (fits_paths c somePath) taken
  rw [List.take_append_drop] at read
  unfold readCommand
  dsimp only
  rw [List.headD_cons, known, List.tail_cons]
  dsimp only
  rw [read]
  change Except.ok (commandOf c.command.spec { settings := c.ownSettings, positional := some c.command.paths },
    []) = _
  rw [commandOf_ownSettings]

end Calls

/-- A text that counts as given. -/
def Counts (s : String) : Prop := s ≠ "" ∧ s ≠ "--"

/-- What a caller says of the configuration. -/
inductive IsSaid (w : Wishes) (c : Call) : String → Value → Prop where
  | debug : w.debug = true → IsSaid w c "log_level" (.string "DEBUG")
  | logFile {path : String} : w.logFile = some path → Counts path → IsSaid w c "log_file" (.string path)
  | functions {names : String} : w.sketchFunctions = some names → Counts names →
      IsSaid w c "sketch_functions" (.ofStrings (Settings.splitCommas names))
  | size {size : Decimal} : w.maxFileBytes = some size → IsSaid w c "max_file_bytes" (.int size.value)
  | namespaceName {path name : String} : c = .members path (some name) → Counts name →
      IsSaid w c "namespace" (.string name)

section Overrides

theorem text?_ofText_eq_some_iff {given s : String} :
    (Given.ofText given).text? = some s ↔ given = s ∧ Counts given := by
  unfold Given.ofText
  split
  · next dashes => simp [Given.text?, Counts, dashes]
  · next notDashes => simp [Given.text?, Counts, notDashes, and_comm]

theorem text?_elim_eq_some_iff {given : Option String} {s : String} :
    (given.elim .absent Given.ofText).text? = some s ↔ given = some s ∧ Counts s := by
  cases given with
  | none => simp [Given.text?]
  | some t =>
      rw [Option.elim_some, text?_ofText_eq_some_iff, Option.some.injEq]
      exact and_congr_right fun same => by rw [same]

/-- What is handed on of an option under a key. -/
theorem mem_given_iff {given : Option String} {name key : String} {f : String → Value} {v : Value} :
    (key, v) ∈ ((given.elim .absent Given.ofText).text?.toList.map fun s => (name, f s)) ↔
      key = name ∧ ∃ s, given = some s ∧ Counts s ∧ v = f s := by
  simp only [List.mem_map, Option.mem_toList, text?_elim_eq_some_iff, Prod.mk.injEq]
  constructor
  · rintro ⟨s, ⟨isGiven, counts⟩, rfl, rfl⟩
    exact ⟨rfl, s, isGiven, counts, rfl⟩
  · rintro ⟨rfl, s, isGiven, counts, rfl⟩
    exact ⟨s, ⟨isGiven, counts⟩, rfl, rfl⟩

variable {w : Wishes} {c : Call}

theorem mem_size_iff {given : Option Decimal} {key : String} {v : Value} :
    (key, v) ∈ (match given.elim Given.absent fun size => .value size.value with
      | .absent => []
      | .emptied => [("max_file_bytes", Value.array [])]
      | .value n => [("max_file_bytes", Value.int n)]) ↔
        key = "max_file_bytes" ∧ ∃ size, given = some size ∧ v = .int size.value := by
  cases given <;> simp

theorem mem_debug_iff {debug : Bool} {key : String} {v : Value} :
    (key, v) ∈ (if debug then [("log_level", Value.string "DEBUG")] else []) ↔
      debug = true ∧ key = "log_level" ∧ v = .string "DEBUG" := by
  cases debug <;> simp

/-- The name that is handed on is that of a call for members. -/
theorem mem_namespace_iff {key : String} {v : Value} :
    (key, v) ∈ (match some c.command with
      | some (.members _ n) => n.text?.toList.map fun s => ("namespace", Value.string s)
      | _ => []) ↔ key = "namespace" ∧ ∃ path name, c = .members path (some name) ∧ Counts name ∧
        v = .string name := by
  cases c with
  | members path namespaceName =>
      refine mem_given_iff.trans (and_congr_right fun _ => ⟨?_, ?_⟩)
      · rintro ⟨s, rfl, counts, rfl⟩
        exact ⟨path, s, rfl, counts, rfl⟩
      · rintro ⟨path', s, same, counts, rfl⟩
        cases same
        exact ⟨s, rfl, counts, rfl⟩
  | scan | classify | freeVars | check | listing => simp [Call.command]

theorem mem_overrides_iff {key : String} {v : Value} :
    (key, v) ∈ (w.arguments c).overrides ↔ IsSaid w c key v := by
  unfold Arguments.overrides
  simp only [List.mem_append]
  refine (or_congr (or_congr (or_congr (or_congr mem_debug_iff mem_given_iff) mem_given_iff) mem_size_iff)
    mem_namespace_iff).trans ?_
  constructor
  · rintro ((((⟨given, rfl, rfl⟩ | ⟨rfl, s, given, counts, rfl⟩) | ⟨rfl, s, given, counts, rfl⟩) |
      ⟨rfl, size, given, rfl⟩) | ⟨rfl, path, name, given, counts, rfl⟩)
    · exact .debug given
    · exact .logFile given counts
    · exact .functions given counts
    · exact .size given
    · exact .namespaceName given counts
  · intro said
    cases said with
    | debug given => exact .inl (.inl (.inl (.inl ⟨given, rfl, rfl⟩)))
    | logFile given counts => exact .inl (.inl (.inl (.inr ⟨rfl, _, given, counts, rfl⟩)))
    | functions given counts => exact .inl (.inl (.inr ⟨rfl, _, given, counts, rfl⟩))
    | size given => exact .inl (.inr ⟨rfl, _, given, rfl⟩)
    | namespaceName given counts => exact .inr ⟨rfl, _, _, given, counts, rfl⟩

/-- No key is said twice. -/
theorem nodup_overrides (w : Wishes) (c : Call) : ((w.arguments c).overrides.map (·.1)).Nodup := by
  have given (text : Option String) (key : String) (f : String → Value) :
      ((text.toList.map fun s => (key, f s)).map (·.1)).Sublist [key] := by
    cases text with
    | none => exact List.nil_sublist _
    | some s => exact List.Sublist.refl _
  have keys : ((w.arguments c).overrides.map (·.1)).Sublist
      ((((["log_level"] ++ ["log_file"]) ++ ["sketch_functions"]) ++ ["max_file_bytes"]) ++ ["namespace"]) := by
    unfold Arguments.overrides
    simp only [List.map_append]
    refine .append (.append (.append (.append ?_ (given ..)) (given ..)) ?_) ?_
    · split
      · exact List.Sublist.refl _
      · exact List.nil_sublist _
    · split
      · exact List.nil_sublist _
      · exact List.Sublist.refl _
      · exact List.Sublist.refl _
    · split
      · exact given ..
      · exact List.nil_sublist _
  exact keys.nodup (by decide)

end Overrides

/-- The arguments are read in whatever order the options stand. -/
theorem read_order {w : Wishes} {c : Call} {order : List Wish} {args : List String}
    (asked : order.Perm w.list) (written : c.IsWritten args) :
    Arguments.read (order.map Wish.argument ++ c.command.name :: args) = .ok (w.arguments c) := by
  have sets : List.Forall₂ (Sets Spec.program) (order.map Wish.argument) (order.map Wish.setting) := by
    rw [List.forall₂_map_left_iff, List.forall₂_map_right_iff, List.forall₂_same]
    exact fun x _ => sets_argument x
  have noHyphen : c.command.name.toList.head? ≠ some '-' := by
    have each : ∀ spec ∈ Spec.commands, spec.name.toList.head? ≠ some '-' := by decide
    exact each _ (by cases c <;> simp [Call.command, Command.spec, Spec.commands])
  have kinds : ∀ text ∈ args, text ≠ "--" ∧ ∃ kind, Spec.program.kindOf text = .ok kind := by
    obtain ⟨-, properPaths, before, after, own, rfl⟩ := written
    intro text member
    have isOwn (inside : text ∈ before ∨ text ∈ after) : text ∈ c.ownOptions :=
      own ▸ List.mem_append.mpr inside
    simp only [List.mem_append] at member
    rcases member with inside | isPath | inside
    · exact kindOf_ownOption (isOwn (.inl inside))
    · have proper := (properPaths text isPath).2
      refine ⟨?_, .plain, kindOf_plain proper⟩
      rintro rfl
      exact proper rfl
    · exact kindOf_ownOption (isOwn (.inr inside))
  have read := readAll_command rfl sets noHyphen kinds (readCommand_call written)
  unfold Arguments.read
  rw [read]
  change Except.ok (Arguments.mk ((order.map Wish.setting).foldl Options.set {}) (some c.command)) = _
  rw [foldl_set_perm asked]
  rfl

/-- What a caller asks for is what is read, in whatever order the options stand; and it is all that is said of
the configuration. -/
theorem read_wishes (w : Wishes) (c : Call) {order : List Wish} {args : List String}
    (asked : order.Perm w.list) (written : c.IsWritten args) :
    Arguments.read (order.map Wish.argument ++ c.command.name :: args) = .ok (w.arguments c) ∧
      ((w.arguments c).overrides.map (·.1)).Nodup ∧
      ∀ key v, (key, v) ∈ (w.arguments c).overrides ↔ IsSaid w c key v :=
  ⟨read_order asked written, nodup_overrides w c, fun _ _ => mem_overrides_iff⟩

section Example

def mixedWishes : Wishes where
  debug := true
  sketchFunctions := some "go, draw"

def mixedCall : Call := .members "a.js" (some "q")

theorem perm_mixedWishes : [Wish.sketchFunctions "go, draw", .debug].Perm mixedWishes.list :=
  List.Perm.swap _ _ _

theorem isWritten_mixedCall : mixedCall.IsWritten ["--namespace=q", "a.js"] where
  somePath := List.cons_ne_nil _ _
  properPaths := List.forall_mem_singleton.mpr ⟨by decide, by decide⟩
  placed := ⟨["--namespace=q"], [], rfl, rfl⟩

theorem read_wishes_mixedWishes :
    [Wish.sketchFunctions "go, draw", .debug].Perm mixedWishes.list ∧
    mixedCall.IsWritten ["--namespace=q", "a.js"] ∧
    Arguments.read ["--sketch-functions=go, draw", "--debug", "members", "--namespace=q", "a.js"] =
      .ok (mixedWishes.arguments mixedCall) ∧
    ((mixedWishes.arguments mixedCall).overrides.map (·.1)).Nodup ∧
    ∀ key v, (key, v) ∈ (mixedWishes.arguments mixedCall).overrides ↔ IsSaid mixedWishes mixedCall key v :=
  ⟨perm_mixedWishes, isWritten_mixedCall, read_wishes mixedWishes mixedCall perm_mixedWishes isWritten_mixedCall⟩

/-- The mark that ends the options is not taken for a path. -/
theorem not_read_dashes : ¬ ∀ path : String, Arguments.read ["--config" ++ "=" ++ path, "scan", "a"] =
    .ok { options := { config := .value path }, command := some (.scan "a") } := by
  intro each
  have emptied : Arguments.read ["--config=--", "scan", "a"] =
      .ok { options := { config := .emptied }, command := some (.scan "a") } := by rfl
  cases emptied.symm.trans (each "--")

end Example

end SketchSurvey.CommandLine
