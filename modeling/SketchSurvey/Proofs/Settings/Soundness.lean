import SketchSurvey.Bundled
import SketchSurvey.Proofs.Settings.LibraryPattern
import SketchSurvey.Proofs.Settings.Strictness
import SketchSurvey.Proofs.Text.Trimmed

/-! What the analyses can rely on in a configuration that passed a check, strict or not: which members
it has, the kind and the form of each of them, and that settings and patterns can be made of it. -/

set_option autoImplicit false

namespace SketchSurvey.Settings

open SketchSurvey.Json

def IsNameStart (c : Char) : Prop := ('A' ≤ c ∧ c ≤ 'Z') ∨ ('a' ≤ c ∧ c ≤ 'z') ∨ c = '_' ∨ c = '$'

def IsNameLetter (c : Char) : Prop := IsNameStart c ∨ ('0' ≤ c ∧ c ≤ '9')

/-- A name in the letters of the first block, from the first character to the last. -/
def IsPlainName (s : String) : Prop :=
  ∃ first rest, s.toList = first :: rest ∧ IsNameStart first ∧ ∀ c ∈ rest, IsNameLetter c

/-- A text with something in it and without white space at its ends. -/
structure IsTidy (s : String) : Prop where
  nonempty : s ≠ ""
  trimmed : Text.IsTrimmed s

/-- A list of texts that may be empty only where that is allowed. -/
structure AreTexts (mayBeEmpty : Bool) (texts : List String) : Prop where
  nonempty : mayBeEmpty = false → texts ≠ []
  tidy : ∀ s ∈ texts, IsTidy s

/-- A list of names of which none occurs twice. -/
structure AreNames (names : List String) : Prop where
  nodup : names.Nodup
  plain : ∀ name ∈ names, IsPlainName name

/-- A configuration as it is written, with what is promised of each member. -/
structure Given.Sound [Host] (g : Given) : Prop where
  keys : g.map (·.1) = fieldNames
  count : g.length = 8
  version : ∃ s, g.get? "version" = some (.string s) ∧ s ≠ ""
  namespaceName : ∃ s, g.get? "namespace" = some (.string s) ∧ IsPlainName s
  sketchFunctions : ∃ names, g.get? "sketch_functions" = some (.ofStrings names) ∧ names ≠ [] ∧
    names.Nodup ∧ ∀ name ∈ names, IsPlainName name
  libraryScriptPattern : ∃ pattern regex,
    g.get? "library_script_pattern" = some (.string pattern) ∧ Regex.compile pattern = .ok regex
  maxFileBytes : ∃ n, g.get? "max_file_bytes" = some (.int n) ∧ 0 ≤ n
  listingExclusions : ∃ globs, g.get? "listing_exclusions" = some (.ofStrings globs) ∧
    ∀ glob ∈ globs, IsTidy glob
  logLevel : ∃ level, g.get? "log_level" = some (.string level) ∧
    level ∈ ["DEBUG", "INFO", "WARNING", "ERROR", "CRITICAL"]
  logFile : ∃ path, g.get? "log_file" = some (.string path)

/-- What is promised of the fields of a configuration. -/
structure Config.Sound [Host] (c : Config) : Prop where
  version : c.version ≠ ""
  namespaceName : IsPlainName c.namespaceName
  nonempty : c.sketchFunctions ≠ []
  areNames : AreNames c.sketchFunctions
  pattern : ∃ regex, Regex.compile c.libraryScriptPattern = .ok regex
  maxFileBytes : 0 ≤ c.maxFileBytes
  exclusions : ∀ glob ∈ c.listingExclusions, IsTidy glob
  logLevel : c.logLevel ∈ logLevels

section Names

theorem isNameStart_of_isIdentifierStart {c : Char} (start : isIdentifierStart c = true) :
    IsNameStart c := by
  simp only [isIdentifierStart, Bool.or_eq_true, beq_iff_eq] at start
  rcases start with (letter | underscore) | dollar
  · rcases Bool.or_eq_true _ _ |>.mp letter with upper | lower
    · exact .inl (of_decide_eq_true upper)
    · obtain ⟨low, high⟩ := Bool.and_eq_true _ _ |>.mp lower
      exact .inr (.inl ⟨of_decide_eq_true low, of_decide_eq_true high⟩)
  · exact .inr (.inr (.inl underscore))
  · exact .inr (.inr (.inr dollar))

theorem isNameLetter_of_part {c : Char} (part : (isIdentifierStart c || c.isDigit) = true) :
    IsNameLetter c := by
  rcases Bool.or_eq_true _ _ |>.mp part with start | digit
  · exact .inl (isNameStart_of_isIdentifierStart start)
  · simp only [Char.isDigit, Bool.and_eq_true, decide_eq_true_eq] at digit
    exact .inr digit

/-- What is overlooked at the end of a name is white space, which tidying has cut off. -/
theorem dropLineFeed_of_isTrimmed {s : String} {first : Char} {rest : List Char}
    (trimmed : Text.IsTrimmed s) (chars : s.toList = first :: rest) : dropLineFeed rest = rest := by
  rw [dropLineFeed, if_neg]
  intro last
  have lastOfAll : s.toList.getLast? = some '\n' := by
    rw [chars, List.getLast?_cons, last]
    rfl
  exact absurd (trimmed.last _ lastOfAll) (by decide)

theorem isPlainName_of_isIdentifier {s : String} (trimmed : Text.IsTrimmed s)
    (identifier : isIdentifier s = true) : IsPlainName s := by
  unfold isIdentifier at identifier
  split at identifier
  · next first rest chars =>
      rw [dropLineFeed_of_isTrimmed trimmed chars, Bool.and_eq_true, List.all_eq_true] at identifier
      obtain ⟨start, letters⟩ := identifier
      refine ⟨first, rest, chars, isNameStart_of_isIdentifierStart start, ?_⟩
      intro c member
      exact isNameLetter_of_part (letters c member)
  · cases identifier

theorem isBlank_eq_false_of_isNameLetter {c : Char} (letter : IsNameLetter c) :
    Text.isBlank c = false := by
  rcases letter with (⟨low, high⟩ | ⟨low, high⟩ | rfl | rfl) | ⟨low, high⟩
  · exact Text.isBlank_eq_false_of_bounds (Nat.le_trans (by decide) low) (Nat.le_trans high (by decide))
  · exact Text.isBlank_eq_false_of_bounds (Nat.le_trans (by decide) low) (Nat.le_trans high (by decide))
  · decide
  · decide
  · exact Text.isBlank_eq_false_of_bounds (Nat.le_trans (by decide) low) (Nat.le_trans high (by decide))

theorem IsPlainName.isTidy {s : String} (name : IsPlainName s) : IsTidy s := by
  obtain ⟨first, rest, chars, start, letters⟩ := name
  have each : ∀ c ∈ s.toList, Text.isBlank c = false := by
    intro c member
    rw [chars] at member
    rcases List.mem_cons.mp member with rfl | inside
    · exact isBlank_eq_false_of_isNameLetter (.inl start)
    · exact isBlank_eq_false_of_isNameLetter (letters c inside)
  refine ⟨?_, fun c first => each c (List.mem_of_mem_head? first),
    fun c last => each c (List.mem_of_mem_getLast? last)⟩
  rintro rfl
  cases chars

theorem isTidy_of_trim {s : String} (filled : (Text.trim s).isEmpty = false) :
    IsTidy (Text.trim s) where
  nonempty := by
    intro same
    rw [same] at filled
    cases filled
  trimmed := Text.isTrimmed_trim s

end Names

theorem AreNames.add {names : List String} {name : String} (known : AreNames names)
    (plain : IsPlainName name) :
    AreNames (if names.contains name then names else names ++ [name]) := by
  split
  · exact known
  · next missing =>
      rw [List.contains_iff_mem] at missing
      constructor
      · rw [List.nodup_append]
        refine ⟨known.nodup, by simp, ?_⟩
        intro other inside last same equal
        rw [List.mem_singleton.mp same] at equal
        exact missing (equal ▸ inside)
      · intro other member
        rcases List.mem_append.mp member with inside | last
        · exact known.plain other inside
        · exact List.mem_singleton.mp last ▸ plain

theorem compile_standard_pattern [Host] :
    ∃ regex, Regex.compile Config.standard.libraryScriptPattern = .ok regex :=
  ⟨_, compile_libraryPattern⟩

theorem areNames_standard : AreNames Config.standard.sketchFunctions where
  nodup := by decide
  plain := by
    intro name member
    simp only [Config.standard, List.mem_cons, List.not_mem_nil, or_false] at member
    rcases member with rfl | rfl <;>
      exact isPlainName_of_isIdentifier (Text.isTrimmed_of_ends rfl rfl rfl rfl) (by decide)

/-- What holds where nothing is configured passes every check. -/
theorem Config.sound_standard [Host] : Config.standard.Sound where
  version := by decide
  namespaceName := isPlainName_of_isIdentifier (Text.isTrimmed_of_ends rfl rfl rfl rfl) (by decide)
  nonempty := nofun
  areNames := areNames_standard
  pattern := compile_standard_pattern
  maxFileBytes := Int.le_refl 0
  exclusions := by
    intro glob member
    simp only [Config.standard, List.mem_cons, List.not_mem_nil, or_false] at member
    rcases member with rfl | rfl | rfl <;>
      exact ⟨by decide, Text.isTrimmed_of_ends rfl rfl rfl rfl⟩
  logLevel := by decide

namespace Check

variable {α β : Type} {P : α → Prop} {Q : β → Prop}

/-- Whatever a check gives is of some form. -/
structure Gives (check : Check α) (P : α → Prop) : Prop where
  holds : ∀ {strict before a after}, check.result strict before = .ok (a, after) → P a

theorem gives_pure {a : α} (holds : P a) : Gives (pure a : Check α) P where
  holds := by
    intro strict before b after done
    cases done
    exact holds

theorem gives_throw (p : Problem) : Gives (throw p : Check α) P := ⟨nofun⟩

theorem gives_reject (issue : Issue) {instead : α} (holds : P instead) :
    Gives (reject issue instead) P where
  holds := by
    intro strict before a after done
    cases strict with
    | true => cases done
    | false =>
        cases done
        exact holds

theorem Gives.bind {check : Check α} {next : α → Check β} (first : Gives check P)
    (second : ∀ a, P a → Gives (next a) Q) : Gives (check >>= next) Q where
  holds := by
    intro strict before b after done
    obtain ⟨a, middle, early, late⟩ := result_bind_eq_ok_iff.mp done
    exact (second a (first.holds early)).holds late

theorem gives_anything (check : Check α) : Gives check fun _ => True := ⟨fun _ => trivial⟩

/-- Checks that run alike give the same. -/
theorem Gives.congr {check other : Check α} (gives : Gives other P)
    (alike : ∀ strict before, check.result strict before = other.result strict before) :
    Gives check P :=
  ⟨fun done => gives.holds (alike .. ▸ done)⟩

theorem gives_asText (field fallback : String) (v : Value) :
    Gives (asText field fallback v) fun s => s = fallback ∨ IsTidy s := by
  cases v with
  | null => exact gives_pure (.inl rfl)
  | string s =>
      refine gives_pure ?_
      split
      · exact .inl rfl
      · next filled => exact .inr (isTidy_of_trim (Bool.eq_false_iff.mpr filled))
  | bool | int | float | array | object => exact gives_reject _ (.inl rfl)

theorem gives_asItems (field : String) (index : Nat) (items : List Value) :
    Gives (asItems field index items) fun texts => ∀ s ∈ texts, IsTidy s := by
  induction items generalizing index with
  | nil => exact gives_pure (List.forall_mem_nil _)
  | cons item rest ih =>
      have discarded {issue : Issue} : Gives (do reject issue (); asItems field (index + 1) rest)
          fun texts => ∀ s ∈ texts, IsTidy s :=
        (gives_anything _).bind fun _ _ => ih (index + 1)
      cases item with
      | string s =>
          refine (ih (index + 1)).bind fun more tidy => gives_pure ?_
          split
          · exact tidy
          · next filled =>
              intro text member
              rcases List.mem_cons.mp member with rfl | inside
              · exact isTidy_of_trim (Bool.eq_false_iff.mpr filled)
              · exact tidy text inside
      | null | bool | int | float | array | object => exact discarded

theorem isTidy_of_mem_splitCommas {s item : String} (member : item ∈ splitCommas s) :
    IsTidy item := by
  rw [splitCommas, List.mem_filter, List.mem_map] at member
  obtain ⟨⟨piece, _, rfl⟩, filled⟩ := member
  exact isTidy_of_trim (by simpa using filled)

theorem areTexts_orFallback {mayBeEmpty : Bool} {fallback items : List String}
    (usable : AreTexts mayBeEmpty fallback) (tidy : ∀ s ∈ items, IsTidy s) :
    AreTexts mayBeEmpty (orFallback mayBeEmpty fallback items) := by
  unfold orFallback
  split
  · exact usable
  · next kept =>
      refine ⟨?_, tidy⟩
      rintro never rfl
      exact kept (by simp [never])

theorem gives_asTexts (field : String) {fallback : List String} {mayBeEmpty : Bool} (v : Value)
    (usable : AreTexts mayBeEmpty fallback) :
    Gives (asTexts field fallback mayBeEmpty v) (AreTexts mayBeEmpty) := by
  cases v with
  | null => exact (gives_pure usable).congr fun strict _ => by cases strict <;> rfl
  | string s =>
      constructor
      intro strict before a after done
      cases strict with
      | true => cases done
      | false =>
          cases done
          exact areTexts_orFallback usable fun item member => isTidy_of_mem_splitCommas member
  | array items =>
      have listed := (gives_asItems field 0 items).bind fun found tidy =>
        gives_pure (areTexts_orFallback usable tidy)
      exact listed.congr fun strict _ => by cases strict <;> rfl
  | bool | int | float | object =>
      exact (gives_reject _ usable).congr fun strict _ => by cases strict <;> rfl

theorem gives_notNegative (field : String) {fallback number : Int} {P : Int → Prop} (usable : P fallback)
    (kept : 0 ≤ number → P number) : Gives (notNegative field fallback number) P := by
  unfold notNegative
  split
  · split
    · exact gives_reject _ usable
    · exact gives_throw _
  · exact gives_pure (kept (by omega))

/-- A count is the fallback, or the number or the text of digits that was found. -/
theorem gives_asCount (field : String) {fallback : Int} {v : Value} {P : Int → Prop} (usable : P fallback)
    (number : ∀ n, v = .int n → 0 ≤ n → P n)
    (text : ∀ s n, v = .string s → Text.parseInt (Text.trim s) = .ok n → 0 ≤ n → P n) :
    Gives (asCount field fallback v) P := by
  constructor
  intro strict before a after done
  rw [asCount, result_read_bind] at done
  split at done
  · exact (gives_pure usable).holds done
  · exact (gives_notNegative field usable (number _ rfl)).holds done
  · split at done
    · split at done
      · next read =>
          have gives := gives_notNegative field usable (text _ _ rfl read)
          exact ((gives_anything _).bind fun _ _ => gives).holds done
      · cases done
      · cases done
    · exact (gives_reject _ usable).holds done
  · exact (gives_reject _ usable).holds done

theorem gives_asIdentifier (field : String) {fallback : String} (v : Value)
    (usable : IsPlainName fallback) : Gives (asIdentifier field fallback v) IsPlainName := by
  refine (gives_asText field fallback v).bind fun name found => ?_
  split
  · next identifier =>
      refine gives_pure (isPlainName_of_isIdentifier ?_ identifier)
      rcases found with rfl | tidy
      · exact usable.isTidy.trimmed
      · exact tidy.trimmed
  · exact gives_reject _ usable

theorem gives_keepIdentifiers (field : String) {found : List String} (names : List String)
    (known : AreNames found) (tidy : ∀ name ∈ names, IsTidy name) :
    Gives (keepIdentifiers field found names) AreNames := by
  induction names generalizing found with
  | nil => exact gives_pure known
  | cons name rest ih =>
      have others : ∀ other ∈ rest, IsTidy other := fun other member => tidy other (.tail _ member)
      rw [keepIdentifiers]
      split
      · next identifier =>
          have plain := isPlainName_of_isIdentifier (tidy name (.head _)).trimmed identifier
          exact ih (known.add plain) others
      · exact (gives_anything _).bind fun _ _ => ih known others

theorem gives_asIdentifiers (field : String) {fallback : List String} (v : Value)
    (usable : fallback ≠ []) (names : AreNames fallback) :
    Gives (asIdentifiers field fallback v) fun found => found ≠ [] ∧ AreNames found := by
  have texts : AreTexts false fallback := ⟨fun _ => usable, fun s member => (names.plain s member).isTidy⟩
  refine (gives_asTexts field v texts).bind fun found areTexts => ?_
  refine (gives_keepIdentifiers field found ⟨.nil, List.forall_mem_nil _⟩ areTexts.tidy).bind fun kept areNames =>
    gives_pure ?_
  unfold orFallback
  split
  · exact ⟨usable, names⟩
  · next filled =>
      refine ⟨?_, areNames⟩
      rintro rfl
      exact filled rfl

theorem gives_asPattern [Host] (field : String) {fallback : String} (v : Value)
    (usable : ∃ regex, Regex.compile fallback = .ok regex) :
    Gives (asPattern field fallback v) fun pattern => ∃ regex, Regex.compile pattern = .ok regex := by
  refine (gives_anything (asText field fallback v)).bind fun pattern _ => ?_
  split
  · next regex compiled => exact gives_pure ⟨regex, compiled⟩
  · exact gives_throw _
  · exact gives_throw _
  · exact gives_throw _
  · exact gives_throw _
  · exact gives_throw _
  · exact gives_reject _ usable

theorem gives_asLevel {fallback : String} (v : Value) (usable : fallback ∈ logLevels) :
    Gives (asLevel fallback v) (· ∈ logLevels) := by
  refine (gives_anything (asText "log_level" fallback v)).bind fun text _ => ?_
  dsimp only
  split
  · next known => exact gives_pure (List.contains_iff_mem.mp known)
  · exact gives_reject _ usable

theorem gives_checkFields [Host] (homes : Files.Path.Homes) (given : Given) :
    Gives (checkFields homes given) Config.Sound := by
  have standard := Config.sound_standard
  have exclusions : AreTexts true Config.standard.listingExclusions := ⟨nofun, standard.exclusions⟩
  refine (gives_anything _).bind fun _ _ => ?_
  refine (gives_asText ..).bind fun version someVersion => ?_
  refine (gives_asIdentifier _ _ standard.namespaceName).bind fun namespaceName isName => ?_
  refine (gives_asIdentifiers _ _ standard.nonempty standard.areNames).bind fun functions areNames => ?_
  refine (gives_asPattern _ _ standard.pattern).bind fun pattern compiles => ?_
  refine (gives_asCount _ (P := (0 ≤ ·)) standard.maxFileBytes (fun _ _ atLeast => atLeast)
    fun _ _ _ _ atLeast => atLeast).bind fun size atLeast => ?_
  refine (gives_asTexts _ _ exclusions).bind fun globs areTexts => ?_
  refine (gives_asLevel _ standard.logLevel).bind fun level known => ?_
  refine (gives_anything _).bind fun path _ => gives_pure ?_
  exact {
    version := someVersion.elim (fun same => same ▸ standard.version) IsTidy.nonempty
    namespaceName := isName
    nonempty := areNames.1
    areNames := areNames.2
    pattern := compiles
    maxFileBytes := atLeast
    exclusions := areTexts.tidy
    logLevel := known }

theorem gives_checkConfig [Host] (homes : Files.Path.Homes) (v : Value) :
    Gives (checkConfig homes v) Config.Sound := by
  cases v with
  | object given => exact gives_checkFields homes given
  | null | bool | int | float | string | array => exact gives_reject _ Config.sound_standard

end Check

section Members

theorem Given.over_members (c : Config) :
    Given.over Config.standard.members c.members = c.members := by
  simp [Given.over, Config.members, putAll, put]

/-- The members of a configuration are as sound as its fields. -/
theorem Config.Sound.members [Host] {c : Config} (sound : c.Sound) : Given.Sound c.members where
  keys := rfl
  count := rfl
  version := ⟨c.version, by simp [Given.get?, Config.members], sound.version⟩
  namespaceName := ⟨c.namespaceName, by simp [Given.get?, Config.members], sound.namespaceName⟩
  sketchFunctions := ⟨c.sketchFunctions, by simp [Given.get?, Config.members], sound.nonempty,
    sound.areNames.nodup, sound.areNames.plain⟩
  libraryScriptPattern := by
    obtain ⟨regex, compiled⟩ := sound.pattern
    exact ⟨c.libraryScriptPattern, regex, by simp [Given.get?, Config.members], compiled⟩
  maxFileBytes := ⟨c.maxFileBytes, by simp [Given.get?, Config.members], sound.maxFileBytes⟩
  listingExclusions :=
    ⟨c.listingExclusions, by simp [Given.get?, Config.members], sound.exclusions⟩
  logLevel := ⟨c.logLevel, by simp [Given.get?, Config.members], sound.logLevel⟩
  logFile := ⟨c.logFile, by simp [Given.get?, Config.members]⟩

/-- The settings that a checked configuration gives without a second look. -/
def Config.settings (c : Config) : LooseSettings where
  namespaceName := .string c.namespaceName
  sketchFunctions := c.sketchFunctions.map .string
  libraryScriptPattern := .string c.libraryScriptPattern
  maxFileBytes := c.maxFileBytes
  listingExclusions := c.listingExclusions.map .string

theorem LooseSettings.ofGiven_members (c : Config) :
    LooseSettings.ofGiven c.members = .ok c.settings := by
  rw [LooseSettings.ofGiven, Given.over_members]
  simp [Given.get?, Config.members, Value.ofStrings, looseItems, looseInt, Config.settings]
  rfl

theorem mapM_textOf (texts : List String) : (texts.map Value.string).mapM textOf = .ok texts := by
  induction texts with
  | nil => rfl
  | cons s rest ih =>
      rw [List.map_cons, List.mapM_cons, ih]
      rfl

/-- Both patterns can be read, as soon as the one that the configuration names can be. -/
theorem Config.settings_patterns [Host] {c : Config}
    (compiles : ∃ regex, Regex.compile c.libraryScriptPattern = .ok regex) :
    c.settings.patterns = .ok (c.libraryScriptPattern, fallbackPattern c.sketchFunctions) := by
  obtain ⟨regex, compiled⟩ := compiles
  simp only [LooseSettings.patterns, Config.settings, textOf, mapM_textOf]
  simp [compiled, compile_fallbackPattern, bind, Except.bind]
  rfl

end Members

theorem sound_of_validate [Host] {homes : Files.Path.Homes} {v : Value} {strict : Bool} {validated : Validated}
    (passed : validate homes v strict = .ok validated) : validated.config.Sound :=
  (Check.gives_checkConfig homes v).holds (validate_eq_ok_iff.mp passed)

/-- Whatever is checked, and however strictly, a configuration that passes has the standard members and
no others, each of the kind and form that is relied on; settings can be made of it, and both of their
patterns can be read. -/
theorem validate_sound [Host] {homes : Files.Path.Homes} {v : Value} {strict : Bool} {validated : Validated}
    (passed : validate homes v strict = .ok validated) :
    Given.Sound validated.config.members ∧
    ∃ settings library fallback, LooseSettings.ofGiven validated.config.members = .ok settings ∧
      settings.patterns = .ok (library, fallback) := by
  have sound := (Check.gives_checkConfig homes v).holds (validate_eq_ok_iff.mp passed)
  exact ⟨sound.members, _, _, _, LooseSettings.ofGiven_members _,
    Config.settings_patterns sound.pattern⟩

section Untidy

/-- A configuration that needs every kind of repair: white space, a list in one text, names that occur
twice or are none, a number in words, small letters, an unknown field. -/
def untidyConfig : Value := .object [
  ("version", .int 2),
  ("namespace", .string " q5\n"),
  ("sketch_functions", .string "draw, ,draw,9x,\n"),
  ("library_script_pattern", .string "q5(\\.min)?\\.js$"),
  ("max_file_bytes", .string " 12 "),
  ("listing_exclusions", .array [.string " ", .null, .string "*.bak "]),
  ("log_level", .string "debug"),
  ("log_file", .string "~/q5.log"),
  ("theme", .bool true)]

def tidyConfig : Config where
  version := "1.0.0"
  namespaceName := "q5"
  sketchFunctions := ["draw"]
  libraryScriptPattern := "q5(\\.min)?\\.js$"
  maxFileBytes := 12
  listingExclusions := ["*.bak"]
  logLevel := "DEBUG"
  logFile := "/home/me/q5.log"

/-- The check of that configuration. -/
def checkUntidy : Except Problem Validated :=
  @validate Host.bundled { own := "/home/me" } untidyConfig false

theorem validate_untidyConfig : ∃ validated, checkUntidy = .ok validated ∧ validated.config = tidyConfig := by
  have given : checkUntidy.toOption.map (·.config) = some tidyConfig := by decide +kernel
  cases checked : checkUntidy with
  | ok validated =>
      rw [checked] at given
      exact ⟨validated, rfl, Option.some.inj given⟩
  | error =>
      rw [checked] at given
      cases given

theorem validate_sound_untidyConfig :
    ∃ validated, @validate Host.bundled { own := "/home/me" } untidyConfig false = .ok validated ∧
      @Given.Sound Host.bundled validated.config.members ∧
      ∃ settings library fallback, LooseSettings.ofGiven validated.config.members = .ok settings ∧
        @LooseSettings.patterns Host.bundled settings = .ok (library, fallback) := by
  obtain ⟨validated, passed, _⟩ := validate_untidyConfig
  exact ⟨validated, passed, @validate_sound Host.bundled _ _ _ _ passed⟩

/-- A configuration has eight members: it is not so that one that passed always has nine. -/
theorem not_validate_members_length_nine :
    ¬ ∀ (host : Host) homes v strict validated, @validate host homes v strict = .ok validated →
      validated.config.members.length = 9 := by
  intro nine
  obtain ⟨validated, passed, _⟩ := validate_untidyConfig
  have eight : validated.config.members.length = 8 := rfl
  have same := nine _ _ _ _ _ passed
  omega

end Untidy

end SketchSurvey.Settings
