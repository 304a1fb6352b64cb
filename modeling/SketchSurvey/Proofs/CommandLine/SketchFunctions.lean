import SketchSurvey.Bundled
import SketchSurvey.Proofs.CommandLine.GivenConfig
import SketchSurvey.Proofs.CommandLine.Wishes
import SketchSurvey.Proofs.Json.RoundTrip
import SketchSurvey.Proofs.Settings.SketchFunctions

/-! The sketch functions of a run: a text of names means the same on the command line, where it is divided
before it is checked, and in a file, where the check divides it. -/

set_option autoImplicit false

namespace SketchSurvey.CommandLine

open SketchSurvey.Files SketchSurvey.Json SketchSurvey.Settings

/-- Below what the command line says there is the standard configuration: it is asked for, or no other one is
found. -/
def StartsStandard (homes : Path.Homes) (fs : FileSystem) (o : Options) : Prop :=
  o.useDefaults = true ∨ ∀ ms, ¬ HoldsObject fs (o.config.text?.getD (userFile homes)) ms

section OptionGiven

variable {homes : Path.Homes} {fs : FileSystem} {w : Wishes} {c : Call} {s : String}

theorem given_of_startsStandard {a : Arguments} (standard : StartsStandard homes fs a.options) :
    (givenConfig homes fs a).given = Given.over Config.standard.members a.overrides := by
  unfold givenConfig
  dsimp only
  split
  · rfl
  · next notAsked => rw [load_of_not_holdsObject (standard.resolve_left notAsked)]

theorem not_breaks_other [Host] {key : String} {v : Value}
    (other : key ∉ ["max_file_bytes", "library_script_pattern", "log_file"]) : ¬ Breaks key v := by
  intro breaks
  cases breaks <;> exact other (by decide)

theorem not_breaks_size [Host] (size : Text.Decimal) {key : String} (isSize : key = "max_file_bytes") :
    ¬ Breaks key (.int size.value) := by
  intro breaks
  cases breaks with
  | maxFileBytes noCount =>
      cases noCount with
      | negative _ long => exact long (Text.isShort_of_parseInt (Text.parseInt_text size))
  | libraryScriptPattern text _ | logFile text _ => cases text

/-- Of what the command line says only the path of a log file can break a check off. -/
theorem not_breaks_said [Host] (lookable : ∀ path, w.logFile = some path → ¬ Breaks "log_file" (.string path))
    {key : String} {v : Value} (said : IsSaid w c key v) : ¬ Breaks key v := by
  cases said with
  | debug | functions | namespaceName => exact not_breaks_other (by decide)
  | logFile given _ => exact lookable _ given
  | size => exact not_breaks_size _ rfl

theorem functionsAmong_standard :
    functionsAmong (textsIn (.ofStrings Config.standard.sketchFunctions)) = Config.standard.sketchFunctions := by
  decide

/-- In a text that does not count no name is found. -/
theorem functionsAmong_of_not_counts (missing : ¬ Counts s) :
    functionsAmong (splitCommas s) = Config.standard.sketchFunctions := by
  have either : s = "" ∨ s = "--" := by
    by_cases empty : s = ""
    · exact .inl empty
    · exact .inr (by_contra fun notDashes => missing ⟨empty, notDashes⟩)
  rcases either with rfl | rfl
  · decide
  · decide

theorem counts_of_said {key : String} {v : Value} (said : IsSaid w c key v) (isKey : key = "sketch_functions") :
    ∃ names, w.sketchFunctions = some names ∧ Counts names := by
  cases said with
  | functions given counts => exact ⟨_, given, counts⟩
  | debug | logFile | size | namespaceName => exact absurd isKey (by decide)

theorem functionsAmong_given (wished : w.sketchFunctions = some s) :
    functionsAmong (textsIn ((Given.over Config.standard.members (w.arguments c).overrides).field
      "sketch_functions")) = functionsAmong (splitCommas s) := by
  by_cases counts : Counts s
  · have last := lastValue_of_mem (nodup_overrides w c) (mem_overrides_iff.mpr (.functions wished counts))
    have given : (Given.over Config.standard.members (w.arguments c).overrides).get? "sketch_functions" = _ :=
      (Given.get?_eq_lookup _ _).trans (lookup_putAll_of_last last)
    rw [Given.field_eq given, textsIn_splitCommas]
    rfl
  · have unsaid : ∀ m ∈ (w.arguments c).overrides, m.1 ≠ "sketch_functions" := by
      rintro ⟨key, v⟩ member isKey
      obtain ⟨names, given, counts'⟩ := counts_of_said (mem_overrides_iff.mp member) isKey
      obtain rfl := Option.some.inj (wished.symm.trans given)
      exact counts counts'
    have standard : (Given.over Config.standard.members (w.arguments c).overrides).get? "sketch_functions" = _ :=
      Given.get?_over_of_ne unsaid
    rw [functionsAmong_of_not_counts counts, ← functionsAmong_standard, Given.field_eq standard]

end OptionGiven

section InFile

variable [Host] {ms : Members}

/-- Every field at which a check can break off is a known one. -/
theorem known_of_breaks {key : String} {v : Value} (breaks : Breaks key v) : '\uFFFD' ∉ key.toList := by
  cases breaks <;> decide

/-- Over the standard configuration a lenient check breaks off at nothing but what the command line says. -/
theorem not_breaks_over {given : Settings.Given} (unbroken : ∀ {key v}, LastValue given key v → ¬ Breaks key v)
    {key : String} {v : Value} (found : (Given.over Config.standard.members given).get? key = some v) :
    ¬ Breaks key v := by
  rw [Given.get?_eq_lookup] at found
  rcases lastValue_or_lookup found with last | standard
  · exact unbroken last
  · exact not_breaks_standard ((Given.get?_eq_lookup _ _).trans standard)

/-- Of what a file holds, too, it breaks off at nothing but what the file names. -/
theorem not_breaks_loaded {g : Members} (merged : IsMerged ms g)
    (unbroken : ∀ {key d}, LastValue ms (pointsOf key) d → ¬ Breaks key d.toValue)
    {key : String} {v : Value} (found : Given.get? (givenOf g) key = some v) : ¬ Breaks key v := by
  intro breaks
  have known := known_of_breaks breaks
  rw [get?_givenOf known] at found
  obtain ⟨d, isThere, rfl⟩ := Option.map_eq_some_iff.mp found
  rcases merged.lastValue_or_standard isThere with last | standard
  · exact unbroken last breaks
  · refine not_breaks_standard ?_ breaks
    have same := get?_givenOf known standardMembers
    rw [standard, standardMembers, givenOf_membersOf] at same
    exact same

end InFile

/-- Some text with the names of the sketch functions, over the standard configuration and in a file: wherever
nothing else breaks the checks off, both give the same functions. -/
theorem sketchFunctions_agree [Host] {homes : Path.Homes} {fs files : FileSystem} {w : Wishes} {c : Call}
    {order : List Wish} {args : List String} {s path : String} {ms : Members}
    (asked : order.Perm w.list) (written : c.IsWritten args) (wished : w.sketchFunctions = some s)
    (standard : StartsStandard homes fs w.options)
    (lookable : ∀ logFile, w.logFile = some logFile → ¬ Breaks "log_file" (.string logFile))
    (holds : HoldsObject files path ms)
    (stands : LastValue ms (pointsOf "sketch_functions") (.string (pointsOf s)))
    (unbroken : ∀ {key d}, LastValue ms (pointsOf key) d → ¬ Breaks key d.toValue) :
    ∃ a asOption inFile,
      Arguments.read (order.map Wish.argument ++ c.command.name :: args) = .ok a ∧
      validate homes (.object (givenConfig homes fs a).given) false = .ok asOption ∧
      validate homes (.object (load files path).given) false = .ok inFile ∧
      asOption.config.sketchFunctions = inFile.config.sketchFunctions := by
  have loaded : IsMerged ms (loadDocument files path).given := by
    rw [loadDocument_of_holdsObject holds]
    exact isMerged_of_object ms
  have unsaid {key : String} {v : Value} (last : LastValue (w.arguments c).overrides key v) : ¬ Breaks key v :=
    not_breaks_said lookable (mem_overrides_iff.mp last.mem)
  have given := given_of_startsStandard (a := w.arguments c) standard
  obtain ⟨asOption, passed, functions⟩ := validate_of_unbroken homes (not_breaks_over unsaid)
  obtain ⟨inFile, passed', functions'⟩ := validate_of_unbroken homes (not_breaks_loaded loaded unbroken)
  refine ⟨_, asOption, inFile, read_order asked written, ?_, passed', ?_⟩
  · rwa [given]
  · have found : Given.field (load files path).given "sketch_functions" = .string s := by
      refine Given.field_eq ((get?_givenOf (by decide) _).trans ?_)
      rw [loaded.named (by decide) stands]
      exact congrArg (fun text => some (Value.string text)) (textOf_pointsOf s)
    rw [functions, functions', functionsAmong_given wished]
    exact congrArg (fun v => functionsAmong (textsIn v)) found.symm

section Example

/-- An object with nothing but a text for the names. -/
def functionsText (s : String) : String :=
  "\x7b" ++ quote false "sketch_functions" ++ ":" ++ quote false s ++ "\x7d"

def functionsMembers (s : String) : Members := [(pointsOf "sketch_functions", .string (pointsOf s))]

/-- Any text can stand in a file. -/
theorem holdsObject_functionsText (s : String) :
    HoldsObject (oneFile (functionsText s)) "/o.json" (functionsMembers s) := by
  refine ⟨functionsText s, read_oneFile _, ?_⟩
  have chars : (functionsText s).toList = '\x7b' :: '"' :: ("sketch_functions".toList.flatMap (escapeChar false) ++
      '"' :: ':' :: '"' :: (s.toList.flatMap (escapeChar false) ++ '"' :: ['\x7d'])) := by
    simp [functionsText, toList_quote]
  have key (rest : List Char) : SpellsKey ('"' :: ("sketch_functions".toList.flatMap (escapeChar false) ++
      '"' :: ':' :: '"' :: rest)) (pointsOf "sketch_functions") ('"' :: rest) :=
    ⟨_, ':' :: '"' :: rest, '"' :: rest, blanks_refl _, spellsText_flatMap false _, blanks_refl _,
      blanks_refl _⟩
  have text : Spells _ (.value (.string (pointsOf s))) ['\x7d'] := .text (spellsText_flatMap false s.toList)
  rw [chars]
  exact .filled (blanks_refl _) (.lastMember (key _) text (blanks_refl _)) (blanks_refl _)

/-- Blanks, an item that is empty, one that is no name, and one that is repeated. -/
def mixedNames : String := " go,, 9x,draw\t, go"

def namesWishes : Wishes where
  useDefaults := true
  sketchFunctions := some mixedNames

theorem sketchFunctions_agree_mixedNames :
    [Wish.sketchFunctions mixedNames, .useDefaults].Perm namesWishes.list ∧
    (Call.listing "p").IsWritten ["p"] ∧
    StartsStandard { own := "/home/me" } {} namesWishes.options ∧
    HoldsObject (oneFile (functionsText mixedNames)) "/o.json" (functionsMembers mixedNames) ∧
    ∃ a asOption inFile,
      Arguments.read ["--sketch-functions" ++ "=" ++ mixedNames, "--use-defaults", "listing", "p"] = .ok a ∧
      @validate .bundled { own := "/home/me" } (.object (givenConfig { own := "/home/me" } {} a).given) false =
        .ok asOption ∧
      @validate .bundled { own := "/home/me" }
        (.object (load (oneFile (functionsText mixedNames)) "/o.json").given) false = .ok inFile ∧
      asOption.config.sketchFunctions = inFile.config.sketchFunctions := by
  have asked : [Wish.sketchFunctions mixedNames, .useDefaults].Perm namesWishes.list := List.Perm.swap _ _ _
  have written : (Call.listing "p").IsWritten ["p"] :=
    ⟨List.cons_ne_nil _ _, List.forall_mem_singleton.mpr ⟨by decide, by decide⟩, [], [], rfl, rfl⟩
  have standard : StartsStandard { own := "/home/me" } {} namesWishes.options := .inl rfl
  have holds := holdsObject_functionsText mixedNames
  have stands : LastValue (functionsMembers mixedNames) (pointsOf "sketch_functions")
      (.string (pointsOf mixedNames)) := ⟨[], [], rfl, List.forall_mem_nil _⟩
  have unbroken {key : String} {d : Document}
      (last : LastValue (functionsMembers mixedNames) (pointsOf key) d) : ¬ @Breaks .bundled key d.toValue := by
    obtain ⟨isKey, rfl⟩ := Prod.mk.inj (List.mem_singleton.mp last.mem)
    obtain rfl := pointsOf_inj isKey
    exact @not_breaks_other .bundled _ _ (by decide)
  exact ⟨asked, written, standard, holds,
    @sketchFunctions_agree .bundled _ _ _ _ _ _ _ _ _ _ asked written rfl standard nofun holds stands
      unbroken⟩

end Example

end SketchSurvey.CommandLine
