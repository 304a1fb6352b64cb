import SketchSurvey.Proofs.Files.AbsolutePath
import SketchSurvey.Proofs.Settings.Soundness

/-! A configuration that passed a check passes every further one as it is, and nothing is said about it. -/

set_option autoImplicit false

namespace SketchSurvey.Files.Path

/-- The path of a home directory: no white space is around it, and it does not start in a home directory
itself. -/
structure IsHome (home : String) : Prop where
  first : ∀ c ∈ home.toList.head?, c ≠ '~' ∧ Text.isBlank c = false
  last : ∀ c ∈ (dropSlashes home.toList).getLast?, Text.isBlank c = false

/-- All home directories have such paths. -/
structure Homes.Proper (homes : Homes) : Prop where
  own : IsHome homes.own
  others : ∀ {user home}, (user, home) ∈ homes.others → IsHome home

section Expansion

variable {homes : Homes} {p : String}

theorem userOf?_of_head {c : Char} {cs : List Char} (chars : p.toList = c :: cs) (other : c ≠ '~') :
    userOf? p = none := by
  unfold userOf?
  split
  · next same => exact absurd (List.cons.inj (chars.symm.trans same)).1 other
  · rfl

theorem IsHome.head_dropSlashes {home : String} (isHome : IsHome home) :
    ∀ c ∈ (dropSlashes home.toList).head?, c ≠ '~' ∧ Text.isBlank c = false := by
  intro c first
  obtain ⟨rest, whole⟩ := prefix_dropSlashes home.toList
  refine isHome.first c ?_
  rw [← whole, List.head?_append, first]
  rfl

/-- What a home directory is put before is empty, or starts with a slash and ends as the path does. -/
theorem after_user {user : List Char} (hasUser : userOf? p = some user) :
    (∀ c ∈ (p.toList.drop (user.length + 1)).head?, c = '/') ∧
      ∀ c ∈ (p.toList.drop (user.length + 1)).getLast?, p.toList.getLast? = some c := by
  unfold userOf? at hasUser
  split at hasUser
  · next rest chars =>
      obtain rfl := Option.some.inj hasUser
      have after : p.toList.drop ((rest.takeWhile (· != '/')).length + 1) = rest.dropWhile (· != '/') := by
        rw [chars, List.drop_succ_cons]
        have whole := congrArg (List.drop (rest.takeWhile (· != '/')).length)
          (List.takeWhile_append_dropWhile (p := (· != '/')) (l := rest))
        rw [List.drop_left] at whole
        exact whole.symm
      rw [after]
      constructor
      · intro c first
        have stops := List.head?_dropWhile_not (· != '/') rest
        rw [first] at stops
        simpa using stops
      · intro c last
        obtain ⟨before, whole⟩ := List.dropWhile_suffix (l := rest) (· != '/')
        rw [chars, ← whole, ← List.cons_append, List.getLast?_append, last]
        rfl
  · cases hasUser

end Expansion

end SketchSurvey.Files.Path

namespace SketchSurvey.Settings

open SketchSurvey.Json SketchSurvey.Files.Path

/-- A path without a home directory to be replaced in it. -/
structure IsExpanded [Host] (homes : Homes) (p : String) : Prop where
  stays : expandHome homes p = p
  lookable : userProblem? p = none

theorem isExpanded_of_userOf? [Host] {homes : Homes} {p : String} (noUser : userOf? p = none) :
    IsExpanded homes p where
  stays := by rw [expandHome, noUser]
  lookable := by rw [userProblem?, noUser]

/-- A path that does not start in a home directory is expanded. -/
theorem isExpanded_of_cons [Host] {homes : Homes} {p : String} {c : Char} {cs : List Char}
    (chars : p.toList = c :: cs) (first : c ≠ '~' ∧ Text.isBlank c = false)
    (last : ∀ c ∈ p.toList.getLast?, Text.isBlank c = false) :
    IsTidy p ∧ IsExpanded homes p := by
  refine ⟨⟨?_, ?_, last⟩, isExpanded_of_userOf? (userOf?_of_head chars first.1)⟩
  · rintro rfl
    cases chars
  · rw [chars]
    rintro c ⟨⟩
    exact first.2

theorem isHome_of_mem {homes : Homes} (proper : homes.Proper) {user : List Char} {home : String}
    (known : (if user.isEmpty then some homes.own
      else (homes.others.find? (·.1 == String.ofList user)).map (·.2)) = some home) : IsHome home := by
  split at known
  · exact Option.some.inj known ▸ proper.own
  · obtain ⟨⟨name, other⟩, found, rfl⟩ := Option.map_eq_some_iff.mp known
    exact proper.others (List.mem_of_find?_eq_some found)

/-- A tidy path is tidy with the home directory in it, and there is none to be put into it any more. -/
theorem expandHome_spec [Host] {homes : Homes} (proper : homes.Proper) {p : String} (tidy : IsTidy p)
    (lookable : userProblem? p = none) :
    IsTidy (expandHome homes p) ∧ IsExpanded homes (expandHome homes p) := by
  have unchanged (stays : expandHome homes p = p) :
      IsTidy (expandHome homes p) ∧ IsExpanded homes (expandHome homes p) := by
    rw [stays]
    exact ⟨tidy, stays, lookable⟩
  cases hasUser : userOf? p with
  | none => exact unchanged (by rw [expandHome, hasUser])
  | some user =>
      obtain ⟨first, last⟩ := after_user hasUser
      cases known : (if user.isEmpty then some homes.own
          else (homes.others.find? (·.1 == String.ofList user)).map (·.2)) with
      | none => exact unchanged (by simp only [expandHome, hasUser, known])
      | some home =>
          have isHome := isHome_of_mem proper known
          have expanded : expandHome homes p =
              if (String.ofList (dropSlashes home.toList ++ p.toList.drop (user.length + 1))).isEmpty then "/"
              else String.ofList (dropSlashes home.toList ++ p.toList.drop (user.length + 1)) := by
            simp only [expandHome, hasUser, known]
          have begins := isHome.head_dropSlashes
          have ends := isHome.last
          rw [expanded]
          generalize dropSlashes home.toList = start at begins ends
          generalize p.toList.drop (user.length + 1) = after at first last
          cases joined : start ++ after with
          | nil => exact isExpanded_of_cons rfl (by decide) (by rintro c ⟨⟩; decide)
          | cons c cs =>
              have starts : c ≠ '~' ∧ Text.isBlank c = false := by
                have isFirst : (start ++ after).head? = some c := by rw [joined]; rfl
                cases start with
                | nil => rw [first c isFirst]; decide
                | cons d ds => exact begins c isFirst
              rw [if_neg (by simp)]
              refine isExpanded_of_cons String.toList_ofList starts ?_
              rw [String.toList_ofList, ← joined]
              intro c isLast
              rw [List.getLast?_append] at isLast
              cases lastOfAfter : after.getLast? with
              | none =>
                  rw [lastOfAfter] at isLast
                  exact ends c isLast
              | some d =>
                  rw [lastOfAfter] at isLast
                  obtain rfl := Option.some.inj isLast
                  exact tidy.trimmed.last _ (last _ lastOfAfter)

/-- What a check leaves is tidy, and its log file is a path without a home directory to be replaced. -/
structure Config.Settled [Host] (homes : Homes) (c : Config) : Prop extends c.Sound where
  tidyVersion : IsTidy c.version
  tidyPattern : IsTidy c.libraryScriptPattern
  tidyLogFile : c.logFile = "" ∨ IsTidy c.logFile
  expanded : IsExpanded homes c.logFile

namespace Check

variable {α : Type} {homes : Homes}

theorem gives_tidy (field : String) {fallback : String} (v : Value) (tidy : IsTidy fallback) :
    Gives (asText field fallback v) IsTidy :=
  ⟨fun done => ((gives_asText field fallback v).holds done).elim (fun same => same ▸ tidy) id⟩

theorem gives_asPattern_tidy [Host] (field : String) {fallback : String} (v : Value) (tidy : IsTidy fallback) :
    Gives (asPattern field fallback v) IsTidy := by
  refine (gives_tidy field v tidy).bind fun pattern isTidy => ?_
  split
  · exact gives_pure isTidy
  · exact gives_throw _
  · exact gives_throw _
  · exact gives_throw _
  · exact gives_throw _
  · exact gives_throw _
  · exact gives_reject _ tidy

theorem gives_asLogFile [Host] (proper : homes.Proper) (v : Value) :
    Gives (asLogFile homes "" v) fun path => (path = "" ∨ IsTidy path) ∧ IsExpanded homes path := by
  refine (gives_asText "log_file" "" v).bind fun path found => ?_
  split
  · exact gives_throw _
  · next lookable =>
      refine gives_pure ?_
      rcases found with rfl | tidy
      · exact ⟨.inl rfl, isExpanded_of_userOf? rfl⟩
      · obtain ⟨tidy, expanded⟩ := expandHome_spec proper tidy lookable
        exact ⟨.inr tidy, expanded⟩

theorem gives_checkFields_settled [Host] (proper : homes.Proper) (given : Given) :
    Gives (checkFields homes given) fun c => IsTidy c.version ∧ IsTidy c.libraryScriptPattern ∧
      (c.logFile = "" ∨ IsTidy c.logFile) ∧ IsExpanded homes c.logFile := by
  have tidyVersion : IsTidy Config.standard.version := ⟨by decide, Text.isTrimmed_of_ends rfl rfl rfl rfl⟩
  have tidyPattern : IsTidy Config.standard.libraryScriptPattern :=
    ⟨by decide, Text.isTrimmed_of_ends rfl rfl rfl rfl⟩
  refine (gives_anything _).bind fun _ _ => ?_
  refine (gives_tidy _ _ tidyVersion).bind fun version isTidy => ?_
  refine (gives_anything _).bind fun _ _ => ?_
  refine (gives_anything _).bind fun _ _ => ?_
  refine (gives_asPattern_tidy _ _ tidyPattern).bind fun pattern isTidy' => ?_
  refine (gives_anything _).bind fun _ _ => ?_
  refine (gives_anything _).bind fun _ _ => ?_
  refine (gives_anything _).bind fun _ _ => ?_
  exact (gives_asLogFile proper _).bind fun path settled => gives_pure ⟨isTidy, isTidy', settled⟩

end Check

theorem Config.settled_standard [Host] (homes : Homes) : Config.standard.Settled homes where
  toSound := Config.sound_standard
  tidyVersion := ⟨by decide, Text.isTrimmed_of_ends rfl rfl rfl rfl⟩
  tidyPattern := ⟨by decide, Text.isTrimmed_of_ends rfl rfl rfl rfl⟩
  tidyLogFile := .inl rfl
  expanded := isExpanded_of_userOf? rfl

theorem validate_settled [Host] {homes : Homes} (proper : homes.Proper) {v : Value} {strict : Bool}
    {validated : Validated} (passed : validate homes v strict = .ok validated) :
    validated.config.Settled homes := by
  have sound := sound_of_validate passed
  have settled : Check.Gives (checkConfig homes v) fun c => IsTidy c.version ∧
      IsTidy c.libraryScriptPattern ∧ (c.logFile = "" ∨ IsTidy c.logFile) ∧ IsExpanded homes c.logFile := by
    have standard := Config.settled_standard homes
    cases v with
    | object given => exact Check.gives_checkFields_settled proper given
    | null | bool | int | float | string | array =>
        exact Check.gives_reject _ ⟨standard.tidyVersion, standard.tidyPattern, standard.tidyLogFile,
          standard.expanded⟩
  obtain ⟨version, pattern, logFile, expanded⟩ := settled.holds (validate_eq_ok_iff.mp passed)
  exact ⟨sound, version, pattern, logFile, expanded⟩

theorem isIdentifier_of_isPlainName {s : String} (plain : IsPlainName s) : isIdentifier s = true := by
  obtain ⟨first, rest, chars, start, letters⟩ := id plain
  have isStart {c : Char} (start : IsNameStart c) : isIdentifierStart c = true := by
    rw [isIdentifierStart, Bool.or_eq_true, Bool.or_eq_true, beq_iff_eq, beq_iff_eq]
    rcases start with upper | ⟨low, high⟩ | underscore | dollar
    · have isUpper : c.isUpper = true := decide_eq_true upper
      exact .inl (.inl (Bool.or_eq_true_iff.mpr (.inl isUpper)))
    · have isLower : c.isLower = true := Bool.and_eq_true_iff.mpr ⟨decide_eq_true low, decide_eq_true high⟩
      exact .inl (.inl (Bool.or_eq_true_iff.mpr (.inr isLower)))
    · exact .inl (.inr underscore)
    · exact .inr dollar
  unfold isIdentifier
  rw [chars]
  dsimp only
  rw [dropLineFeed_of_isTrimmed plain.isTidy.trimmed chars, Bool.and_eq_true, List.all_eq_true]
  refine ⟨isStart start, fun c member => ?_⟩
  rw [Bool.or_eq_true]
  refine (letters c member).imp isStart fun digit => ?_
  simp only [Char.isDigit, Bool.and_eq_true, decide_eq_true_eq]
  exact digit

namespace Check

/-- A check that gives a value, strict or not, and reports nothing. -/
def Passes {α : Type} (check : Check α) (a : α) : Prop :=
  ∀ strict before, check.result strict before = .ok (a, before)

section Passing

variable {α β : Type} {homes : Homes}

theorem passes_pure (a : α) : Passes (pure a) a := fun _ _ => rfl

theorem Passes.bind {check : Check α} {next : α → Check β} {a : α} {b : β} (first : Passes check a)
    (second : Passes (next a) b) : Passes (check >>= next) b :=
  fun strict before => result_bind_eq_ok_iff.mpr ⟨a, before, first strict before, second strict before⟩

theorem Passes.congr {check other : Check α} {a : α} (passes : Passes other a)
    (alike : ∀ strict before, check.result strict before = other.result strict before) : Passes check a :=
  fun strict before => (alike strict before).trans (passes strict before)

variable (field : String)

theorem passes_asText (fallback : String) {s : String} (tidy : IsTidy s) :
    Passes (asText field fallback (.string s)) s := by
  intro strict before
  have nonempty : ¬ s.isEmpty = true := by
    rw [String.isEmpty_iff]
    exact tidy.nonempty
  simp only [asText, Text.trim_of_isTrimmed tidy.trimmed, if_neg nonempty]
  rfl

theorem passes_asItems (index : Nat) {texts : List String} (tidy : ∀ s ∈ texts, IsTidy s) :
    Passes (asItems field index (texts.map .string)) texts := by
  induction texts generalizing index with
  | nil => exact passes_pure _
  | cons s rest ih =>
      have isTidy := tidy s List.mem_cons_self
      have nonempty : ¬ s.isEmpty = true := by
        rw [String.isEmpty_iff]
        exact isTidy.nonempty
      refine (ih (index + 1) fun t member => tidy t (List.mem_cons_of_mem _ member)).bind ?_
      rw [Text.trim_of_isTrimmed isTidy.trimmed]
      dsimp only
      rw [if_neg nonempty]
      exact passes_pure _

theorem passes_asTexts (fallback : List String) {mayBeEmpty : Bool} {texts : List String}
    (areTexts : AreTexts mayBeEmpty texts) :
    Passes (asTexts field fallback mayBeEmpty (.ofStrings texts)) texts := by
  have kept : orFallback mayBeEmpty fallback texts = texts := by
    rw [orFallback, if_neg]
    cases mayBeEmpty with
    | true => simp
    | false => simpa using areTexts.nonempty rfl
  have listed : Passes (do
      return orFallback mayBeEmpty fallback (← asItems field 0 (texts.map .string))) texts := by
    refine (passes_asItems field 0 areTexts.tidy).bind ?_
    rw [kept]
    exact passes_pure texts
  exact listed.congr fun strict _ => by cases strict <;> rfl

theorem passes_asCount (fallback : Int) {n : Int} (atLeast : 0 ≤ n) :
    Passes (asCount field fallback (.int n)) n := by
  have notNegative : Passes (notNegative field fallback n) n := by
    rw [Settings.notNegative, if_neg (by omega)]
    exact passes_pure n
  exact notNegative.congr fun strict _ => by cases strict <;> rfl

theorem passes_asIdentifier (fallback : String) {name : String} (plain : IsPlainName name) :
    Passes (asIdentifier field fallback (.string name)) name := by
  refine (passes_asText field fallback plain.isTidy).bind ?_
  rw [if_pos (isIdentifier_of_isPlainName plain)]
  exact passes_pure name

theorem passes_keepIdentifiers {found names : List String} (areNames : AreNames (found ++ names)) :
    Passes (keepIdentifiers field found names) (found ++ names) := by
  induction names generalizing found with
  | nil =>
      rw [List.append_nil]
      exact passes_pure found
  | cons name rest ih =>
      have plain := areNames.plain name (List.mem_append_right _ List.mem_cons_self)
      have new : ¬ found.contains name = true := by
        rw [List.contains_iff_mem]
        exact fun old => (List.nodup_append.mp areNames.nodup).2.2 name old name List.mem_cons_self rfl
      have whole : found ++ name :: rest = (found ++ [name]) ++ rest := by
        rw [List.append_assoc, List.singleton_append]
      rw [keepIdentifiers, if_pos (isIdentifier_of_isPlainName plain), if_neg new]
      rw [whole] at areNames ⊢
      exact ih areNames

theorem passes_asIdentifiers (fallback : List String) {names : List String} (nonempty : names ≠ [])
    (areNames : AreNames names) : Passes (asIdentifiers field fallback (.ofStrings names)) names := by
  have areTexts : AreTexts false names :=
    ⟨fun _ => nonempty, fun s member => (areNames.plain s member).isTidy⟩
  refine (passes_asTexts field fallback areTexts).bind ?_
  refine (@passes_keepIdentifiers field [] names areNames).bind ?_
  rw [List.nil_append, orFallback, if_neg (by simpa using nonempty)]
  exact passes_pure names

theorem passes_asPattern [Host] (fallback : String) {pattern : String} (tidy : IsTidy pattern)
    (compiles : ∃ regex, Regex.compile pattern = .ok regex) :
    Passes (asPattern field fallback (.string pattern)) pattern := by
  obtain ⟨regex, compiled⟩ := compiles
  refine (passes_asText field fallback tidy).bind ?_
  rw [compiled]
  exact passes_pure pattern

omit field

theorem passes_asLevel (fallback : String) {level : String} (known : level ∈ logLevels) :
    Passes (asLevel fallback (.string level)) level := by
  have form : IsTidy level ∧ Text.upper level = level := by
    simp only [logLevels, List.mem_cons, List.not_mem_nil, or_false] at known
    rcases known with rfl | rfl | rfl | rfl | rfl <;>
      exact ⟨⟨by decide, Text.isTrimmed_of_ends rfl rfl rfl rfl⟩, by decide⟩
  refine (passes_asText "log_level" fallback form.1).bind ?_
  rw [form.2]
  dsimp only
  rw [if_pos (List.contains_iff_mem.mpr known)]
  exact passes_pure level

theorem passes_asLogFile [Host] {path : String} (tidy : path = "" ∨ IsTidy path)
    (expanded : IsExpanded homes path) :
    Passes (asLogFile homes "" (.string path)) path := by
  have text : Passes (asText "log_file" "" (.string path)) path := by
    rcases tidy with rfl | tidy
    · exact fun _ _ => rfl
    · exact passes_asText _ _ tidy
  refine text.bind ?_
  simp only [expanded.lookable, expanded.stays]
  exact passes_pure path

theorem unknownKeys_members (c : Config) : unknownKeys c.members = [] := by
  have known : (c.members.map (·.1)).filter (fun k => !fieldNames.contains k) = [] := by
    rw [show c.members.map (·.1) = fieldNames from rfl, List.filter_eq_nil_iff]
    intro key member
    simp [member]
  rw [unknownKeys, known, List.mergeSort_nil]

theorem passes_checkFields [Host] {c : Config} (settled : c.Settled homes) :
    Passes (checkFields homes c.members) c := by
  have exclusions : AreTexts true c.listingExclusions := ⟨nofun, settled.exclusions⟩
  unfold checkFields
  dsimp only
  rw [unknownKeys_members]
  refine (passes_pure PUnit.unit).bind ?_
  refine (passes_asText _ _ settled.tidyVersion).bind ?_
  refine (passes_asIdentifier _ _ settled.namespaceName).bind ?_
  refine (passes_asIdentifiers _ _ settled.nonempty settled.areNames).bind ?_
  refine (passes_asPattern _ _ settled.tidyPattern settled.pattern).bind ?_
  refine (passes_asCount _ _ settled.maxFileBytes).bind ?_
  refine (passes_asTexts _ _ exclusions).bind ?_
  refine (passes_asLevel _ settled.logLevel).bind ?_
  exact (passes_asLogFile settled.tidyLogFile settled.expanded).bind (passes_pure c)

end Passing

end Check

/-- A settled configuration passes as it is, strict or not, and nothing is said about it. -/
theorem validate_members [Host] {homes : Homes} {c : Config} (settled : c.Settled homes) (strict : Bool) :
    validate homes c.toValue strict = .ok { config := c, warnings := [] } := by
  have passed := Check.passes_checkFields settled strict []
  exact validate_eq_ok_iff.mpr passed

/-- What a lenient check returns passes every further check as it is. -/
theorem validate_idempotent [Host] {homes : Homes} (proper : homes.Proper) {v : Value} {validated : Validated}
    (passed : validate homes v false = .ok validated) (strict : Bool) :
    validate homes validated.config.toValue strict = .ok { config := validated.config, warnings := [] } :=
  validate_members (validate_settled proper passed) strict

theorem validate_idempotent_untidyConfig :
    ∃ homes : Homes, homes.Proper ∧
      ∃ validated, @validate Host.bundled homes untidyConfig false = .ok validated ∧
        validated.config = tidyConfig ∧
        ∀ strict, @validate Host.bundled homes tidyConfig.toValue strict =
          .ok { config := tidyConfig, warnings := [] } := by
  have proper : ({ own := "/home/me" } : Homes).Proper := by
    constructor
    · constructor
      · rintro c ⟨⟩
        decide
      · rintro c ⟨⟩
        decide
    · nofun
  obtain ⟨validated, passed, same⟩ := validate_untidyConfig
  refine ⟨_, proper, validated, passed, same, fun strict => ?_⟩
  have again := @validate_idempotent Host.bundled _ proper _ _ passed strict
  rwa [same] at again

/-- A home directory with a blank at its end. -/
def blankHome : Homes := { own := "/home/me " }

/-- The standard configuration with a log file. -/
def loggingTo (path : String) : Config := { Config.standard with logFile := path }

/-- The path of the log file has the blank after the first check and is without it after the second. -/
theorem not_validate_idempotent :
    ¬ ∀ (host : Host) (homes : Homes) (v : Value) (validated : Validated),
      @validate host homes v false = .ok validated → ∀ strict,
        @validate host homes validated.config.toValue strict =
          .ok { config := validated.config, warnings := [] } := by
  intro idempotent
  have first : (@validate Host.bundled blankHome (.object [("log_file", .string "~")]) false).toOption.map
      (·.config) = some (loggingTo "/home/me ") := by decide +kernel
  have second : (@validate Host.bundled blankHome (loggingTo "/home/me ").toValue false).toOption.map (·.config) =
      some (loggingTo "/home/me") := by decide +kernel
  cases passed : @validate Host.bundled blankHome (.object [("log_file", .string "~")]) false with
  | error p =>
      rw [passed] at first
      cases first
  | ok validated =>
      rw [passed] at first
      have isConfig : validated.config = loggingTo "/home/me " := Option.some.inj first
      have again := idempotent _ _ _ _ passed false
      rw [isConfig] at again
      rw [again] at second
      exact absurd (congrArg Config.logFile (Option.some.inj second)) (by decide)

end SketchSurvey.Settings
