import SketchSurvey.Proofs.Settings.Soundness
import SketchSurvey.Proofs.Text.ShortNumber

/-! What can be wrong with the values of a configuration, and what a lenient check is to make of them: a report
for every fault, and the standard value where there is nothing to be used. -/

set_option autoImplicit false

namespace SketchSurvey.Settings

open SketchSurvey.Json SketchSurvey.Files.Path

/-- The text of a value, without white space around it; none if there is nothing in it. -/
def textIn? : Value → Option String
  | .string s => if (Text.trim s).isEmpty then none else some (Text.trim s)
  | _ => none

/-- The texts that a value for a list has in it. -/
def textsIn : Value → List String
  | .string s => splitCommas s
  | .array items => items.filterMap textIn?
  | _ => []

section Faults

variable (field : String)

/-- What is wrong with a value where a text belongs: it is none, or the text is bad. `null` and a blank text
are gaps and no faults. -/
inductive TextFault (bad : String → Issue → Prop) (v : Value) : Issue → Prop where
  | notText : kindName v ∉ ["NoneType", "str"] → TextFault bad v (.wrongKind field "str" (kindName v))
  | badText {text : String} {issue : Issue} : textIn? v = some text → bad text issue → TextFault bad v issue

/-- What is wrong with a value where a list of texts belongs: it is none, or there is another item in it, or a
bad text. -/
inductive ListFault (bad : String → Issue → Prop) (v : Value) : Issue → Prop where
  | notList : kindName v ∉ ["NoneType", "str", "list"] →
      ListFault bad v (.wrongKind field "list[str]" (kindName v))
  | itemNotText {items : List Value} {index : Nat} {item : Value} : v = .array items →
      items[index]? = some item → kindName item ≠ "str" → ListFault bad v (.itemNotText field index)
  | badText {text : String} {issue : Issue} : text ∈ textsIn v → bad text issue → ListFault bad v issue

/-- What is wrong with a value where a count belongs. -/
inductive CountFault : Value → Issue → Prop where
  | notACount {v : Value} : kindName v ∉ ["NoneType", "int", "str"] →
      CountFault v (.wrongKind field "int" (kindName v))
  | notDigits {s : String} : Text.allDigitLike (Text.trim s) = false →
      CountFault (.string s) (.wrongKind field "int" "str")
  | negative {n : Int} : n < 0 → CountFault (.int n) (.negative field n)

def NoFault (_ : String) (_ : Issue) : Prop := False

def NotAName (name : String) (issue : Issue) : Prop :=
  ¬ IsPlainName name ∧ issue = .notAnIdentifier field name

def ItemNotAName (name : String) (issue : Issue) : Prop :=
  ¬ IsPlainName name ∧ issue = .itemNotAnIdentifier field name

def BadPattern [Host] (pattern : String) (issue : Issue) : Prop :=
  ∃ cause position, Regex.compile pattern = .error (.malformed cause position) ∧
    issue = .badPattern field pattern ((Regex.Problem.malformed cause position).message pattern)

def UnknownLevel (text : String) (issue : Issue) : Prop :=
  Text.upper text ∉ logLevels ∧ issue = .unknownLevel (Text.upper text)

end Faults

/-- What is wrong with the value of a field. -/
inductive Faulty [Host] : String → Value → Issue → Prop where
  | version {v : Value} {issue : Issue} :
      TextFault "version" NoFault v issue → Faulty "version" v issue
  | namespaceName {v : Value} {issue : Issue} :
      TextFault "namespace" (NotAName "namespace") v issue → Faulty "namespace" v issue
  | sketchFunctions {v : Value} {issue : Issue} :
      ListFault "sketch_functions" (ItemNotAName "sketch_functions") v issue →
      Faulty "sketch_functions" v issue
  | libraryScriptPattern {v : Value} {issue : Issue} :
      TextFault "library_script_pattern" (BadPattern "library_script_pattern") v issue →
      Faulty "library_script_pattern" v issue
  | maxFileBytes {v : Value} {issue : Issue} :
      CountFault "max_file_bytes" v issue → Faulty "max_file_bytes" v issue
  | listingExclusions {v : Value} {issue : Issue} :
      ListFault "listing_exclusions" NoFault v issue → Faulty "listing_exclusions" v issue
  | logLevel {v : Value} {issue : Issue} :
      TextFault "log_level" UnknownLevel v issue → Faulty "log_level" v issue
  | logFile {v : Value} {issue : Issue} :
      TextFault "log_file" NoFault v issue → Faulty "log_file" v issue

/-- A faulty value in which there is nothing to be used. Of a list, single items may be. -/
inductive Unusable [Host] : String → Value → Prop where
  | single {field : String} {v : Value} {issue : Issue} :
      field ∉ ["sketch_functions", "listing_exclusions"] → Faulty field v issue → Unusable field v
  | names {v : Value} {issue : Issue} : Faulty "sketch_functions" v issue →
      (∀ name ∈ textsIn v, ¬ IsPlainName name) → Unusable "sketch_functions" v
  | exclusions {v : Value} :
      kindName v ∉ ["NoneType", "str", "list"] → Unusable "listing_exclusions" v

/-- A number that cannot be read from its digits, or, where it is negative, not be written in a report. -/
inductive NoCount : Value → Prop where
  | digits {s : String} :
      Text.allDigitLike (Text.trim s) = true → Text.HasNoNumber (Text.trim s) → NoCount (.string s)
  | negative {n : Int} : n < 0 → ¬ Text.IsShort n → NoCount (.int n)

/-- A pattern with a number beyond all bounds, with flags that exclude each other, or with more groups in one
another than there is room for. -/
def NoPattern [Host] (pattern : String) : Prop :=
  ∃ p, Regex.compile pattern = .error p ∧ ∀ cause position, p ≠ .malformed cause position

/-- A path with a user whose home directory cannot be looked up: the system has no code for the name, or the name
is broken off. -/
def NoUser [Host] (path : String) : Prop :=
  ∃ user, userOf? path = some user ∧ user ≠ [] ∧
    ((Host.unencodable? (String.ofList user)).isSome = true ∨ '\x00' ∈ user)

/-- The value of a field at which a lenient check breaks off. -/
inductive Breaks [Host] : String → Value → Prop where
  | maxFileBytes {v : Value} : NoCount v → Breaks "max_file_bytes" v
  | libraryScriptPattern {v : Value} {pattern : String} :
      textIn? v = some pattern → NoPattern pattern → Breaks "library_script_pattern" v
  | logFile {v : Value} {path : String} : textIn? v = some path → NoUser path → Breaks "log_file" v

/-- A value at which a lenient check breaks off. -/
def BreaksOff [Host] : Value → Prop
  | .object given => ∃ field v, Given.get? given field = some v ∧ Breaks field v
  | _ => False

/-- What a configuration is made into: what cannot be used is standard, and the lists hold what can be used of
those that were given. -/
structure Given.Mends [Host] (given : Given) (c : Config) : Prop where
  replaced : ∀ field v, given.get? field = some v → Unusable field v →
    Given.get? c.members field = Given.get? Config.standard.members field
  names : ∀ v, given.get? "sketch_functions" = some v → (∃ name ∈ textsIn v, IsPlainName name) →
    ∀ name, name ∈ c.sketchFunctions ↔ name ∈ textsIn v ∧ IsPlainName name
  exclusions : ∀ v, given.get? "listing_exclusions" = some v → kindName v ∈ ["str", "list"] →
    c.listingExclusions = textsIn v

/-- What comes of a configuration that is repaired: besides, there is a report of every fault, and of nothing
else. -/
structure Given.Repaired [Host] (given : Given) (r : Validated) : Prop extends given.Mends r.config where
  reported : ∀ issue, .replaced issue ∈ r.warnings ↔
    ∃ field v, given.get? field = some v ∧ Faulty field v issue

/-- What comes of a value that is repaired. What is no configuration at all is replaced by the standard one. -/
def Repaired [Host] : Value → Validated → Prop
  | .object given, r => Given.Repaired given r
  | v, r => r = { config := .standard, warnings := [.replaced (.notAnObject (kindName v))] }

section Forms

variable {field : String} {bad : String → Issue → Prop} {v : Value} {issue : Issue}

theorem textFault_iff : TextFault field bad v issue ↔
    (kindName v ∉ ["NoneType", "str"] ∧ issue = .wrongKind field "str" (kindName v)) ∨
      ∃ text, textIn? v = some text ∧ bad text issue := by
  constructor
  · intro fault
    cases fault with
    | notText other => exact .inl ⟨other, rfl⟩
    | badText given wrong => exact .inr ⟨_, given, wrong⟩
  · rintro (⟨other, rfl⟩ | ⟨text, given, wrong⟩)
    · exact .notText other
    · exact .badText given wrong

theorem listFault_iff : ListFault field bad v issue ↔
    (kindName v ∉ ["NoneType", "str", "list"] ∧ issue = .wrongKind field "list[str]" (kindName v)) ∨
      (∃ items, v = .array items ∧ ∃ index item, items[index]? = some item ∧ kindName item ≠ "str" ∧
        issue = .itemNotText field index) ∨
      ∃ text ∈ textsIn v, bad text issue := by
  constructor
  · intro fault
    cases fault with
    | notList other => exact .inl ⟨other, rfl⟩
    | itemNotText list found other => exact .inr (.inl ⟨_, list, _, _, found, other, rfl⟩)
    | badText member wrong => exact .inr (.inr ⟨_, member, wrong⟩)
  · rintro (⟨other, rfl⟩ | ⟨items, list, index, item, found, other, rfl⟩ | ⟨text, member, wrong⟩)
    · exact .notList other
    · exact .itemNotText list found other
    · exact .badText member wrong

theorem countFault_iff : CountFault field v issue ↔
    (kindName v ∉ ["NoneType", "int", "str"] ∧ issue = .wrongKind field "int" (kindName v)) ∨
      (∃ s, v = .string s ∧ Text.allDigitLike (Text.trim s) = false ∧ issue = .wrongKind field "int" "str") ∨
      ∃ n, v = .int n ∧ n < 0 ∧ issue = .negative field n := by
  constructor
  · intro fault
    cases fault with
    | notACount other => exact .inl ⟨other, rfl⟩
    | notDigits others => exact .inr (.inl ⟨_, rfl, others, rfl⟩)
    | negative less => exact .inr (.inr ⟨_, rfl, less, rfl⟩)
  · rintro (⟨other, rfl⟩ | ⟨s, rfl, others, rfl⟩ | ⟨n, rfl, less, rfl⟩)
    · exact .notACount other
    · exact .notDigits others
    · exact .negative less

theorem isTidy_of_textIn? {text : String} (given : textIn? v = some text) : IsTidy text := by
  cases v with
  | string s =>
      simp only [textIn?] at given
      split at given
      · cases given
      · next filled =>
          obtain rfl := Option.some.inj given
          exact isTidy_of_trim (Bool.eq_false_iff.mpr filled)
  | null | bool | int | float | array | object => cases given

theorem isTidy_of_mem_textsIn {text : String} (member : text ∈ textsIn v) : IsTidy text := by
  cases v with
  | string s => exact Check.isTidy_of_mem_splitCommas member
  | array items =>
      obtain ⟨item, -, given⟩ := List.mem_filterMap.mp member
      exact isTidy_of_textIn? given
  | null | bool | int | float | object => cases member

theorem noCount_string_iff {s : String} : NoCount (.string s) ↔
    Text.allDigitLike (Text.trim s) = true ∧ Text.HasNoNumber (Text.trim s) := by
  constructor
  · intro noCount
    cases noCount with
    | digits digits noNumber => exact ⟨digits, noNumber⟩
  · rintro ⟨digits, noNumber⟩
    exact .digits digits noNumber

theorem noCount_int_iff {n : Int} : NoCount (.int n) ↔ n < 0 ∧ ¬ Text.IsShort n := by
  constructor
  · intro noCount
    cases noCount with
    | negative less long => exact ⟨less, long⟩
  · rintro ⟨less, long⟩
    exact .negative less long

end Forms

section Fields

variable {given : Given} {issue : Issue}

/-- The value that is checked for a field. -/
def Given.field (given : Given) (name : String) : Value := (given.get? name).getD .null

theorem Given.field_eq {name : String} {v : Value} (found : given.get? name = some v) :
    given.field name = v := by
  rw [Given.field, found]
  rfl

theorem Given.get?_of_ne_null {name : String} (notNull : given.field name ≠ .null) :
    given.get? name = some (given.field name) := by
  cases found : given.get? name with
  | none =>
      rw [Given.field, found] at notNull
      exact absurd rfl notNull
  | some v => rw [Given.field_eq found]

theorem ne_null_of_textIn? {v : Value} {text : String} (given : textIn? v = some text) : v ≠ .null := by
  rintro rfl
  cases given

theorem TextFault.ne_null {field : String} {bad : String → Issue → Prop} {v : Value}
    (fault : TextFault field bad v issue) : v ≠ .null := by
  rintro rfl
  simp [textFault_iff, kindName, textIn?] at fault

theorem ListFault.ne_null {field : String} {bad : String → Issue → Prop} {v : Value}
    (fault : ListFault field bad v issue) : v ≠ .null := by
  rintro rfl
  simp [listFault_iff, kindName, textsIn] at fault

theorem CountFault.ne_null {field : String} {v : Value} (fault : CountFault field v issue) : v ≠ .null := by
  rintro rfl
  simp [countFault_iff, kindName] at fault

theorem noUser_iff [Host] {path : String} : NoUser path ↔ (userProblem? path).isSome = true := by
  unfold NoUser userProblem?
  cases userOf? path with
  | none => simp
  | some user =>
      cases user with
      | nil => simp
      | cons c cs =>
          simp only [Option.some.injEq, exists_eq_left', ne_eq, reduceCtorEq, not_false_eq_true, true_and]
          cases Host.unencodable? (String.ofList (c :: cs)) with
          | some reason => simp
          | none => split <;> simp_all

theorem NoCount.ne_null {v : Value} (noCount : NoCount v) : v ≠ .null := by
  rintro rfl
  cases noCount

/-- The faults of a configuration, field by field in the order in which they are checked. -/
theorem Given.faulty_iff [Host] : (∃ field v, given.get? field = some v ∧ Faulty field v issue) ↔
    TextFault "version" NoFault (given.field "version") issue ∨
    TextFault "namespace" (NotAName "namespace") (given.field "namespace") issue ∨
    ListFault "sketch_functions" (ItemNotAName "sketch_functions") (given.field "sketch_functions") issue ∨
    TextFault "library_script_pattern" (BadPattern "library_script_pattern")
      (given.field "library_script_pattern") issue ∨
    CountFault "max_file_bytes" (given.field "max_file_bytes") issue ∨
    ListFault "listing_exclusions" NoFault (given.field "listing_exclusions") issue ∨
    TextFault "log_level" UnknownLevel (given.field "log_level") issue ∨
    TextFault "log_file" NoFault (given.field "log_file") issue := by
  constructor
  · rintro ⟨field, v, found, faulty⟩
    have same := Given.field_eq found
    cases faulty with
    | version fault | namespaceName fault | sketchFunctions fault | libraryScriptPattern fault
    | maxFileBytes fault | listingExclusions fault | logLevel fault | logFile fault =>
        rw [← same] at fault
        simp only [fault, true_or, or_true]
  · rintro (fault | fault | fault | fault | fault | fault | fault | fault)
    · exact ⟨_, _, Given.get?_of_ne_null fault.ne_null, .version fault⟩
    · exact ⟨_, _, Given.get?_of_ne_null fault.ne_null, .namespaceName fault⟩
    · exact ⟨_, _, Given.get?_of_ne_null fault.ne_null, .sketchFunctions fault⟩
    · exact ⟨_, _, Given.get?_of_ne_null fault.ne_null, .libraryScriptPattern fault⟩
    · exact ⟨_, _, Given.get?_of_ne_null fault.ne_null, .maxFileBytes fault⟩
    · exact ⟨_, _, Given.get?_of_ne_null fault.ne_null, .listingExclusions fault⟩
    · exact ⟨_, _, Given.get?_of_ne_null fault.ne_null, .logLevel fault⟩
    · exact ⟨_, _, Given.get?_of_ne_null fault.ne_null, .logFile fault⟩

theorem Given.breaks_iff [Host] : (∃ field v, given.get? field = some v ∧ Breaks field v) ↔
    (∃ pattern, textIn? (given.field "library_script_pattern") = some pattern ∧ NoPattern pattern) ∨
    NoCount (given.field "max_file_bytes") ∨
    ∃ path, textIn? (given.field "log_file") = some path ∧ NoUser path := by
  constructor
  · rintro ⟨field, v, found, breaks⟩
    have same := Given.field_eq found
    cases breaks with
    | libraryScriptPattern text noPattern => exact .inl ⟨_, same ▸ text, noPattern⟩
    | maxFileBytes noCount => exact .inr (.inl (same ▸ noCount))
    | logFile text noUser => exact .inr (.inr ⟨_, same ▸ text, noUser⟩)
  · rintro (⟨pattern, text, noPattern⟩ | noCount | ⟨path, text, noUser⟩)
    · exact ⟨_, _, Given.get?_of_ne_null (ne_null_of_textIn? text), .libraryScriptPattern text noPattern⟩
    · exact ⟨_, _, Given.get?_of_ne_null noCount.ne_null, .maxFileBytes noCount⟩
    · exact ⟨_, _, Given.get?_of_ne_null (ne_null_of_textIn? text), .logFile text noUser⟩

end Fields

end SketchSurvey.Settings
