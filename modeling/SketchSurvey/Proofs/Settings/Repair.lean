import SketchSurvey.Proofs.Settings.Faults
import SketchSurvey.Proofs.Settings.Settled

/-! Lenient checks: at which values one breaks off, and that it repairs a configuration wherever there is none of
them. -/

set_option autoImplicit false

namespace SketchSurvey.Settings

open SketchSurvey.Json SketchSurvey.Files.Path

namespace Check

variable {α β : Type}

/-- How a lenient run of a check ends: it breaks off, or it gives something of a form and adds to the
warnings that some faults were repaired. -/
def Repairs (check : Check α) (breaks : Prop) (faults : Issue → Prop) (form : α → Prop) : Prop :=
  ∀ before,
    (breaks ∧ ∃ p, check.result false before = .error p) ∨
    (¬ breaks ∧ ∃ a after, check.result false before = .ok (a, after) ∧ form a ∧
      ∀ issue, .replaced issue ∈ after ↔ .replaced issue ∈ before ∨ faults issue)

/-- A check that gives something else where there is a fault. -/
def FallsBack (check : Check α) (breaks : Prop) (faults : Issue → Prop) (instead : α) : Prop :=
  Repairs check breaks faults fun a => (∃ issue, faults issue) → a = instead

section Repairing

variable {check other : Check α} {breaks breaks' : Prop} {faults faults' : Issue → Prop}
  {form form' : α → Prop} {goal : β → Prop}

theorem result_bind_of_ok {next : α → Check β} {before middle : List Warning} {a : α}
    (done : check.result false before = .ok (a, middle)) :
    (check >>= next).result false before = (next a).result false middle := by
  rw [result_bind, done]
  rfl

theorem result_bind_of_error {next : α → Check β} {before : List Warning} {p : Problem}
    (failed : check.result false before = .error p) :
    (check >>= next).result false before = .error p := by
  rw [result_bind, failed]
  rfl

theorem repairs_pure {a : α} (holds : form a) : Repairs (pure a) False (fun _ => False) form := by
  intro before
  exact .inr ⟨id, a, before, rfl, holds, by simp⟩

theorem repairs_throw (p : Problem) (faults : Issue → Prop) (form : α → Prop) :
    Repairs (throw p) True faults form := by
  intro before
  exact .inl ⟨trivial, p, rfl⟩

theorem repairs_reject (issue : Issue) {instead : α} (holds : form instead) :
    Repairs (reject issue instead) False (· = issue) form := by
  intro before
  refine .inr ⟨id, instead, before ++ [.replaced issue], rfl, holds, ?_⟩
  simp

theorem repairs_return (a : α) : Repairs (pure a) False (fun _ => False) (· = a) := repairs_pure rfl

theorem repairs_replace (issue : Issue) (instead : α) :
    Repairs (reject issue instead) False (· = issue) (· = instead) := repairs_reject issue rfl

theorem repairs_warn {w : Warning} (other : ∀ issue, w ≠ .replaced issue) :
    Repairs (warn w) False (fun _ => False) fun _ => True := by
  intro before
  refine .inr ⟨id, (), before ++ [w], rfl, trivial, fun issue => ?_⟩
  simp [(other issue).symm]

theorem Passes.repairs {a : α} (passes : Passes check a) :
    Repairs check False (fun _ => False) (· = a) := by
  intro before
  exact .inr ⟨id, a, before, passes false before, rfl, by simp⟩

theorem Repairs.bind {next : α → Check β} (first : Repairs check breaks faults form)
    (second : ∀ a, form a → Repairs (next a) breaks' faults' goal) :
    Repairs (check >>= next) (breaks ∨ breaks') (fun issue => faults issue ∨ faults' issue) goal := by
  intro before
  rcases first before with ⟨stops, p, failed⟩ | ⟨goes, a, middle, done, holds, early⟩
  · exact .inl ⟨.inl stops, p, result_bind_of_error failed⟩
  · rw [result_bind_of_ok done]
    rcases second a holds middle with ⟨stops, p, failed⟩ | ⟨goes', b, after, done', holds', late⟩
    · exact .inl ⟨.inr stops, p, failed⟩
    · refine .inr ⟨not_or.mpr ⟨goes, goes'⟩, b, after, done', holds', fun issue => ?_⟩
      rw [late, early, or_assoc]

theorem Repairs.weaken (repairs : Repairs check breaks faults form) (sameBreaks : breaks ↔ breaks')
    (sameFaults : ∀ issue, faults issue ↔ faults' issue) (weaker : ∀ a, form a → form' a) :
    Repairs check breaks' faults' form' := by
  intro before
  rcases repairs before with ⟨stops, failed⟩ | ⟨goes, a, after, done, holds, reported⟩
  · exact .inl ⟨sameBreaks.mp stops, failed⟩
  · refine .inr ⟨mt sameBreaks.mpr goes, a, after, done, weaker a holds, fun issue => ?_⟩
    rw [reported, sameFaults]

theorem Repairs.map {a : α} (repairs : Repairs check breaks faults (· = a)) (f : α → β) :
    Repairs (do return f (← check)) breaks faults (· = f a) := by
  have made (b : α) (same : b = a) : Repairs (pure (f b)) False (fun _ => False) (· = f a) :=
    repairs_pure (congrArg f same)
  exact (repairs.bind made).weaken (by simp) (by simp) fun _ => id

theorem Repairs.congr (repairs : Repairs other breaks faults form)
    (alike : ∀ before, check.result false before = other.result false before) :
    Repairs check breaks faults form := by
  intro before
  rw [alike]
  exact repairs before

theorem repairs_unknownFields (keys : List String) :
    Repairs (ForIn.forIn keys PUnit.unit fun key _ => do warn (.unknownField key); pure (.yield ⟨⟩))
      False (fun _ => False) fun _ => True := by
  induction keys with
  | nil => exact repairs_pure trivial
  | cons key rest ih =>
      rw [List.forIn_cons, bind_assoc]
      have both := (repairs_warn (w := .unknownField key) (by simp)).bind fun _ _ => ih
      exact both.weaken (by simp) (by simp) fun _ => id

theorem FallsBack.weaken {instead : α} (fallsBack : FallsBack check breaks faults instead)
    (sameBreaks : breaks ↔ breaks') (sameFaults : ∀ issue, faults issue ↔ faults' issue) :
    FallsBack check breaks' faults' instead := by
  refine Repairs.weaken fallsBack sameBreaks sameFaults ?_
  rintro a same ⟨issue, fault⟩
  exact same ⟨issue, (sameFaults issue).mpr fault⟩

theorem fallsBack_pure (a instead : α) : FallsBack (pure a) False (fun _ => False) instead :=
  repairs_pure (by simp)

theorem fallsBack_reject (issue : Issue) (instead : α) :
    FallsBack (reject issue instead) False (· = issue) instead :=
  repairs_reject issue fun _ => rfl

theorem fallsBack_ite (keep : Prop) [Decidable keep] (a : α) (issue : Issue) (instead : α) :
    FallsBack (if keep then pure a else reject issue instead) False (fun i => ¬ keep ∧ i = issue) instead := by
  split
  · next kept => exact (fallsBack_pure a instead).weaken .rfl (by simp [kept])
  · next spoilt => exact (fallsBack_reject issue instead).weaken .rfl (by simp [spoilt])

end Repairing

section Fields

variable {β : Type} (field : String)

/-- A gap is filled by the fallback, what is no text is replaced by it, and a text is checked further. -/
theorem fallsBack_asText_bind {fallback : String} {next : String → Check β} {breaks : String → Prop}
    {bad : String → Issue → Prop} {instead : β} (v : Value)
    (gap : Repairs (next fallback) False (fun _ => False) (· = instead))
    (filled : ∀ text, IsTidy text → FallsBack (next text) (breaks text) (bad text) instead) :
    FallsBack (asText field fallback v >>= next) (∃ text, textIn? v = some text ∧ breaks text)
      (TextFault field bad v) instead := by
  have missing (nothing : textIn? v = none) (noText : kindName v ∈ ["NoneType", "str"])
      (unsaid : asText field fallback v = pure fallback) :
      FallsBack (asText field fallback v >>= next) (∃ text, textIn? v = some text ∧ breaks text)
        (TextFault field bad v) instead := by
    rw [unsaid, pure_bind]
    exact gap.weaken (by simp [nothing]) (by simp [textFault_iff, nothing, noText]) fun _ same _ => same
  have replaced (found : String) : FallsBack (reject (.wrongKind field "str" found) fallback >>= next) False
      (· = .wrongKind field "str" found) instead := by
    have refused := repairs_replace (.wrongKind field "str" found) fallback
    have both := refused.bind fun text same => same ▸ gap
    exact both.weaken (by simp) (by simp) fun _ same _ => same
  cases v with
  | null => exact missing rfl (by simp [kindName]) rfl
  | string s =>
      by_cases blank : (Text.trim s).isEmpty = true
      · exact missing (by simp [textIn?, blank]) (by simp [kindName]) (by simp [asText, blank])
      · have given : textIn? (.string s) = some (Text.trim s) := by simp [textIn?, blank]
        have unsaid : asText field fallback (.string s) = pure (Text.trim s) := by simp [asText, blank]
        rw [unsaid, pure_bind]
        refine (filled _ (isTidy_of_textIn? given)).weaken (by simp [given]) ?_
        simp [textFault_iff, given, kindName]
  | bool | int | float | array | object =>
      refine (replaced (kindName _)).weaken (by simp [textIn?]) ?_
      simp [textFault_iff, textIn?, kindName]

theorem fallsBack_asText_bind_sure {fallback : String} {next : String → Check β}
    {bad : String → Issue → Prop} {instead : β} (v : Value)
    (gap : Repairs (next fallback) False (fun _ => False) (· = instead))
    (filled : ∀ text, IsTidy text → FallsBack (next text) False (bad text) instead) :
    FallsBack (asText field fallback v >>= next) False (TextFault field bad v) instead :=
  (fallsBack_asText_bind field v gap filled).weaken (by simp) fun _ => .rfl

theorem fallsBack_asText (fallback : String) (v : Value) :
    FallsBack (asText field fallback v) False (TextFault field NoFault v) fallback := by
  rw [← bind_pure (asText field fallback v)]
  exact fallsBack_asText_bind_sure field v (repairs_return fallback) fun text _ => fallsBack_pure text fallback

theorem isIdentifier_iff {name : String} (tidy : IsTidy name) :
    isIdentifier name = true ↔ IsPlainName name :=
  ⟨isPlainName_of_isIdentifier tidy.trimmed, isIdentifier_of_isPlainName⟩

theorem fallsBack_asIdentifier {fallback : String} (v : Value) (usable : IsPlainName fallback) :
    FallsBack (asIdentifier field fallback v) False (TextFault field (NotAName field) v) fallback := by
  refine fallsBack_asText_bind_sure field v ?_ fun name tidy => ?_
  · rw [if_pos (isIdentifier_of_isPlainName usable)]
    exact repairs_return fallback
  · refine (fallsBack_ite _ name _ fallback).weaken .rfl fun issue => ?_
    rw [isIdentifier_iff tidy]
    rfl

theorem fallsBack_asLevel {fallback : String} (v : Value) (usable : Text.upper fallback = fallback)
    (known : fallback ∈ logLevels) :
    FallsBack (asLevel fallback v) False (TextFault "log_level" UnknownLevel v) fallback := by
  refine fallsBack_asText_bind_sure "log_level" v ?_ fun text _ => ?_
  · dsimp only
    rw [usable, if_pos (List.contains_iff_mem.mpr known)]
    exact repairs_return fallback
  · refine (fallsBack_ite _ _ _ fallback).weaken .rfl fun issue => ?_
    rw [List.contains_iff_mem]
    rfl

theorem fallsBack_asPattern [Host] {fallback : String} (v : Value)
    (usable : ∃ regex, Regex.compile fallback = .ok regex) :
    FallsBack (asPattern field fallback v) (∃ pattern, textIn? v = some pattern ∧ NoPattern pattern)
      (TextFault field (BadPattern field) v) fallback := by
  obtain ⟨regex, compiled⟩ := usable
  refine fallsBack_asText_bind field v ?_ fun pattern _ => ?_
  · rw [compiled]
    exact repairs_return fallback
  · cases read : Regex.compile pattern with
    | ok regex =>
        refine (fallsBack_pure pattern fallback).weaken ?_ ?_
        · simp [NoPattern, read]
        · simp [BadPattern, read]
    | error p =>
        cases p with
        | malformed cause position =>
            refine (fallsBack_reject _ fallback).weaken (by simp [NoPattern, read]) fun issue => ?_
            simp [BadPattern, read]
        | tooManyDigits | incompatibleLetters | repeatOverflow | codeOverflow | stackExhausted =>
            exact Repairs.weaken (repairs_throw _ _ _) (by simp [NoPattern, read]) (fun _ => .rfl) fun _ => id

theorem fallsBack_asLogFile [Host] (homes : Homes) (v : Value) :
    FallsBack (asLogFile homes "" v) (∃ path, textIn? v = some path ∧ NoUser path)
      (TextFault "log_file" NoFault v) "" := by
  refine fallsBack_asText_bind "log_file" v (repairs_return "") fun path _ => ?_
  cases problem : userProblem? path with
  | some p => exact Repairs.weaken (repairs_throw _ _ _) (by simp [noUser_iff, problem]) (fun _ => .rfl) fun _ => id
  | none => exact (fallsBack_pure _ "").weaken (by simp [noUser_iff, problem]) fun _ => .rfl

end Fields

section Counts

variable (field : String) (fallback : Int)

theorem fallsBack_notNegative (n : Int) :
    FallsBack (notNegative field fallback n) (n < 0 ∧ ¬ Text.IsShort n)
      (fun issue => n < 0 ∧ issue = .negative field n) fallback := by
  unfold notNegative
  split
  · next less =>
      split
      · next few =>
          have short : Text.IsShort n := Text.isShort_iff.mpr few
          exact (fallsBack_reject _ fallback).weaken (by simp [short]) (by simp [less])
      · next many =>
          have long : ¬ Text.IsShort n := mt Text.isShort_iff.mp many
          exact Repairs.weaken (repairs_throw _ _ _) (by simp [less, long]) (fun _ => .rfl) fun _ => id
  · next atLeast => exact (fallsBack_pure n fallback).weaken (by simp [atLeast]) (by simp [atLeast])

/-- What is read from a text of digits is not negative, so there is no fault once it has been read. -/
theorem fallsBack_asCount_string (s : String) :
    FallsBack (asCount field fallback (.string s)) (NoCount (.string s)) (CountFault field (.string s))
      fallback := by
  have trimmed := Text.isTrimmed_trim s
  refine Repairs.congr ?_ fun before => result_read_bind _ false before
  dsimp only
  split
  · next digits =>
      have noFault (issue : Issue) : False ↔ CountFault field (.string s) issue := by
        simp [countFault_iff, digits, kindName]
      rcases Text.parseInt_of_digits trimmed digits with ⟨noNumber, p, failed⟩ | ⟨number, n, read⟩
      · have stops : True ↔ NoCount (.string s) := iff_of_true trivial (.digits digits noNumber)
        rw [failed]
        cases p with
        | malformed | tooManyDigits =>
            exact Repairs.weaken (repairs_throw _ _ _) stops noFault fun _ => id
      · have reported : Repairs (warn (.numberFromText field s n)) False (fun _ => False) fun _ => True :=
          repairs_warn (by simp)
        have atLeast : ¬ (n : Int) < 0 := Int.not_lt.mpr (Int.natCast_nonneg n)
        have kept : FallsBack (notNegative field fallback n) False (fun _ => False) fallback := by
          rw [notNegative, if_neg atLeast]
          exact fallsBack_pure _ fallback
        rw [read]
        refine Repairs.weaken (reported.bind fun _ _ => kept) ?_ ?_ ?_
        · simp [noCount_string_iff, number]
        · simpa using noFault
        · rintro a - ⟨issue, fault⟩
          exact ((noFault issue).mpr fault).elim
  · next others =>
      refine (fallsBack_reject _ fallback).weaken ?_ ?_
      · simp [noCount_string_iff, others]
      · simp [countFault_iff, others, kindName]

theorem fallsBack_asCount (v : Value) :
    FallsBack (asCount field fallback v) (NoCount v) (CountFault field v) fallback := by
  have noCount (other : kindName v ∉ ["int", "str"]) : False ↔ NoCount v := by
    refine iff_of_false id fun stops => ?_
    cases stops with
    | digits | negative => simp [kindName] at other
  cases v with
  | null =>
      refine Repairs.congr ?_ fun before => result_read_bind _ false before
      refine (fallsBack_pure fallback fallback).weaken (noCount (by simp [kindName])) ?_
      simp [countFault_iff, kindName]
  | int n =>
      refine Repairs.congr ?_ fun before => result_read_bind _ false before
      refine (fallsBack_notNegative field fallback n).weaken noCount_int_iff.symm ?_
      simp [countFault_iff, kindName]
  | string s => exact fallsBack_asCount_string field fallback s
  | bool | float | array | object =>
      refine Repairs.congr ?_ fun before => result_read_bind _ false before
      refine (fallsBack_reject _ fallback).weaken (noCount (by simp [kindName])) ?_
      simp [countFault_iff, kindName]

end Counts

section Lists

variable (field : String)

theorem exists_getElem?_cons {α : Type} {a : α} {l : List α} {P : Nat → α → Prop} :
    (∃ index x, (a :: l)[index]? = some x ∧ P index x) ↔
      P 0 a ∨ ∃ index x, l[index]? = some x ∧ P (index + 1) x := by
  constructor
  · rintro ⟨index, x, found, holds⟩
    cases index with
    | zero =>
        obtain rfl := Option.some.inj found
        exact .inl holds
    | succ index => exact .inr ⟨index, x, found, holds⟩
  · rintro (holds | ⟨index, x, found, holds⟩)
    · exact ⟨0, a, rfl, holds⟩
    · exact ⟨index + 1, x, found, holds⟩

theorem repairs_asItems (items : List Value) (index : Nat) :
    Repairs (asItems field index items) False
      (fun issue => ∃ later item, items[later]? = some item ∧ kindName item ≠ "str" ∧
        issue = .itemNotText field (index + later))
      (· = items.filterMap textIn?) := by
  -- The index of a later item counts from the first one of all, so one step shifts it.
  induction items generalizing index with
  | nil => exact (repairs_return []).weaken .rfl (by simp) fun _ => id
  | cons item rest ih =>
      have shift (later : Nat) : index + 1 + later = index + (later + 1) := by omega
      have discarded (other : kindName item ≠ "str") (noText : textIn? item = none) :
          Repairs (do reject (.itemNotText field index) (); asItems field (index + 1) rest) False
            (fun issue => ∃ later found, (item :: rest)[later]? = some found ∧ kindName found ≠ "str" ∧
              issue = .itemNotText field (index + later))
            (· = (item :: rest).filterMap textIn?) := by
        have reported := repairs_replace (.itemNotText field index) ()
        refine (reported.bind fun _ _ => ih (index + 1)).weaken (by simp) (fun issue => ?_) ?_
        · simp only [exists_getElem?_cons, shift]
          simp [other]
        · simp [noText]
      cases item with
      | string s =>
          have kept := (ih (index + 1)).map fun more =>
            if (Text.trim s).isEmpty then more else Text.trim s :: more
          refine kept.weaken .rfl (fun issue => ?_) ?_
          · simp only [exists_getElem?_cons, shift]
            simp [kindName]
          · intro texts same
            by_cases blank : (Text.trim s).isEmpty = true
            · simpa [textIn?, blank] using same
            · simpa [textIn?, blank] using same
      | null | bool | int | float | array | object => exact discarded (by simp [kindName]) rfl

/-- What a value for a list comes down to before its texts are looked at. -/
def textsOr (mayBeEmpty : Bool) (fallback : List String) (v : Value) : List String :=
  if kindName v ∈ ["str", "list"] then orFallback mayBeEmpty fallback (textsIn v) else fallback

theorem repairs_asTexts (fallback : List String) (mayBeEmpty : Bool) (v : Value) :
    Repairs (asTexts field fallback mayBeEmpty v) False (ListFault field NoFault v)
      (· = textsOr mayBeEmpty fallback v) := by
  refine Repairs.congr ?_ fun before => result_read_bind _ false before
  cases v with
  | null =>
      refine (repairs_return fallback).weaken .rfl ?_ ?_
      · simp [listFault_iff, kindName, NoFault]
      · simp [textsOr, kindName]
  | string s =>
      have reported : Repairs (warn (.listFromText field)) False (fun _ => False) fun _ => True :=
        repairs_warn (by simp)
      refine (reported.bind fun _ _ => repairs_return _).weaken (by simp) ?_ ?_
      · simp [listFault_iff, kindName, NoFault]
      · simp [textsOr, kindName, textsIn]
  | array items =>
      refine ((repairs_asItems field items 0).map (orFallback mayBeEmpty fallback)).weaken .rfl ?_ ?_
      · simp [listFault_iff, kindName, NoFault]
      · simp [textsOr, kindName, textsIn]
  | bool | int | float | object =>
      refine (repairs_replace _ fallback).weaken .rfl ?_ ?_
      · simp [listFault_iff, kindName, NoFault]
      · simp [textsOr, kindName]

theorem repairs_keepIdentifiers {names : List String} (tidy : ∀ name ∈ names, IsTidy name)
    (found : List String) :
    Repairs (keepIdentifiers field found names) False
      (fun issue => ∃ name ∈ names, ItemNotAName field name issue)
      fun kept => ∀ name, name ∈ kept ↔ name ∈ found ∨ name ∈ names ∧ IsPlainName name := by
  induction names generalizing found with
  | nil => exact (repairs_return found).weaken .rfl (by simp) (by simp)
  | cons first rest ih =>
      have isName := isIdentifier_iff (tidy first List.mem_cons_self)
      have others := ih fun name member => tidy name (List.mem_cons_of_mem _ member)
      rw [keepIdentifiers]
      split
      · next identifier =>
          have plain := isName.mp identifier
          refine (others _).weaken .rfl ?_ ?_
          · simp [ItemNotAName, plain]
          · intro kept same name
            have added : name ∈ (if found.contains first then found else found ++ [first]) ↔
                name ∈ found ∨ name = first := by
              split
              · next known =>
                  rw [List.contains_iff_mem] at known
                  constructor
                  · exact .inl
                  · rintro (old | rfl)
                    · exact old
                    · exact known
              · simp
            rw [same, added]
            by_cases isFirst : name = first
            · simp [isFirst, plain]
            · simp [isFirst]
      · next noIdentifier =>
          have noName : ¬ IsPlainName first := mt isName.mpr noIdentifier
          have reported := repairs_replace (.itemNotAnIdentifier field first) ()
          refine (reported.bind fun _ _ => others found).weaken (by simp) ?_ ?_
          · simp [ItemNotAName, noName]
          · intro kept same name
            rw [same]
            by_cases isFirst : name = first
            · simp [isFirst, noName]
            · simp [isFirst]

/-- Names that were found among some texts: exactly the plain ones, and others instead if there are none. -/
structure Finds (fallback texts names : List String) : Prop where
  missing : (∀ name ∈ texts, ¬ IsPlainName name) → names = fallback
  found : (∃ name ∈ texts, IsPlainName name) → ∀ name, name ∈ names ↔ name ∈ texts ∧ IsPlainName name

theorem finds_orFallback {fallback texts kept : List String}
    (same : ∀ name, name ∈ kept ↔ name ∈ [] ∨ name ∈ texts ∧ IsPlainName name) :
    Finds fallback texts (orFallback false fallback kept) := by
  constructor
  · intro noNames
    have nothing : kept = [] := by
      rw [List.eq_nil_iff_forall_not_mem]
      intro name member
      obtain ⟨inTexts, plain⟩ := ((same name).mp member).resolve_left List.not_mem_nil
      exact noNames name inTexts plain
    simp [orFallback, nothing]
  · rintro ⟨name, inTexts, plain⟩ other
    have something : kept ≠ [] := List.ne_nil_of_mem ((same name).mpr (.inr ⟨inTexts, plain⟩))
    simp [orFallback, something, same]

theorem textsOr_of_textsIn {fallback : List String} {v : Value} (some : textsIn v ≠ []) :
    textsOr false fallback v = textsIn v := by
  cases v with
  | string | array => simp [textsOr, kindName, orFallback, some]
  | null | bool | int | float | object => exact absurd rfl some

theorem repairs_asIdentifiers {fallback : List String} (v : Value) (usable : fallback ≠ [])
    (areNames : AreNames fallback) :
    Repairs (asIdentifiers field fallback v) False (ListFault field (ItemNotAName field) v)
      (Finds fallback (textsIn v)) := by
  have faults (issue : Issue) : ListFault field NoFault v issue ∨
      (∃ name ∈ textsIn v, ItemNotAName field name issue) ↔ ListFault field (ItemNotAName field) v issue := by
    simp [listFault_iff, NoFault, or_assoc]
  have kept (texts : List String) (same : texts = textsOr false fallback v) :
      Repairs (do return orFallback false fallback (← keepIdentifiers field [] texts)) False
        (fun issue => ∃ name ∈ textsIn v, ItemNotAName field name issue) (Finds fallback (textsIn v)) := by
    by_cases nothing : textsIn v = []
    · have whole : texts = fallback := by simp [same, textsOr, nothing, orFallback]
      have names := (@passes_keepIdentifiers field [] fallback areNames).repairs
      rw [whole, nothing]
      refine (names.map (orFallback false fallback)).weaken .rfl (by simp) ?_
      rintro _ rfl
      exact ⟨fun _ => by simp [orFallback, usable], by simp⟩
    · have tidy : ∀ name ∈ textsIn v, IsTidy name := fun name => isTidy_of_mem_textsIn
      have made (names : List String)
          (same : ∀ name, name ∈ names ↔ name ∈ [] ∨ name ∈ textsIn v ∧ IsPlainName name) :
          Repairs (pure (orFallback false fallback names)) False (fun _ => False)
            (Finds fallback (textsIn v)) := repairs_pure (finds_orFallback same)
      rw [same, textsOr_of_textsIn nothing]
      exact ((repairs_keepIdentifiers field tidy []).bind made).weaken (by simp) (by simp) fun _ => id
  exact ((repairs_asTexts field fallback false v).bind kept).weaken (by simp) faults fun _ => id

end Lists

section Whole

variable (given : Given)

/-- What the checks of the fields, one by one, make of the values given for them. -/
structure Mended [Host] (c : Config) : Prop where
  version : (∃ issue, TextFault "version" NoFault (given.field "version") issue) →
    c.version = Config.standard.version
  namespaceName : (∃ issue, TextFault "namespace" (NotAName "namespace") (given.field "namespace") issue) →
    c.namespaceName = Config.standard.namespaceName
  sketchFunctions : Finds Config.standard.sketchFunctions (textsIn (given.field "sketch_functions"))
    c.sketchFunctions
  libraryScriptPattern : (∃ issue, TextFault "library_script_pattern" (BadPattern "library_script_pattern")
      (given.field "library_script_pattern") issue) →
    c.libraryScriptPattern = Config.standard.libraryScriptPattern
  maxFileBytes : (∃ issue, CountFault "max_file_bytes" (given.field "max_file_bytes") issue) →
    c.maxFileBytes = Config.standard.maxFileBytes
  listingExclusions : c.listingExclusions =
    textsOr true Config.standard.listingExclusions (given.field "listing_exclusions")
  logLevel : (∃ issue, TextFault "log_level" UnknownLevel (given.field "log_level") issue) →
    c.logLevel = Config.standard.logLevel
  logFile : (∃ issue, TextFault "log_file" NoFault (given.field "log_file") issue) →
    c.logFile = Config.standard.logFile

variable {given}

theorem Mended.mends [Host] {c : Config} (mended : Mended given c) : given.Mends c where
  replaced := by
    intro field v found unusable
    have same := Given.field_eq found
    cases unusable with
    | @single _ _ issue single faulty =>
        cases faulty with
        | version fault => simp [Given.get?, Config.members, mended.version ⟨issue, same ▸ fault⟩]
        | namespaceName fault =>
            simp [Given.get?, Config.members, mended.namespaceName ⟨issue, same ▸ fault⟩]
        | libraryScriptPattern fault =>
            simp [Given.get?, Config.members, mended.libraryScriptPattern ⟨issue, same ▸ fault⟩]
        | maxFileBytes fault => simp [Given.get?, Config.members, mended.maxFileBytes ⟨issue, same ▸ fault⟩]
        | logLevel fault => simp [Given.get?, Config.members, mended.logLevel ⟨issue, same ▸ fault⟩]
        | logFile fault => simp [Given.get?, Config.members, mended.logFile ⟨issue, same ▸ fault⟩]
        | sketchFunctions | listingExclusions => simp at single
    | names _ noNames =>
        simp [Given.get?, Config.members, mended.sketchFunctions.missing (same ▸ noNames)]
    | exclusions other =>
        have noList : kindName v ∉ ["str", "list"] := fun list => other (List.mem_cons_of_mem _ list)
        simp [Given.get?, Config.members, mended.listingExclusions, same, textsOr, noList]
  names := by
    intro v found someName
    rw [← Given.field_eq found] at someName ⊢
    exact mended.sketchFunctions.found someName
  exclusions := by
    intro v found list
    rw [mended.listingExclusions, Given.field_eq found, textsOr, if_pos list]
    simp [orFallback]

theorem repairs_checkFields [Host] (homes : Homes) (given : Given) :
    Repairs (checkFields homes given) (∃ field v, given.get? field = some v ∧ Breaks field v)
      (fun issue => ∃ field v, given.get? field = some v ∧ Faulty field v issue) given.Mends := by
  have standard := Config.sound_standard
  have made {c : Config} (mended : Mended given c) : Repairs (pure c) False (fun _ => False) given.Mends :=
    repairs_pure mended.mends
  -- The fields in the order in which they are checked: what one check leaves is kept until the last is done.
  have checked := (repairs_unknownFields (unknownKeys given)).bind fun _ _ =>
    (fallsBack_asText "version" Config.standard.version (given.field "version")).bind fun version isVersion =>
    (fallsBack_asIdentifier "namespace" (given.field "namespace") standard.namespaceName).bind
      fun namespaceName isName =>
    (repairs_asIdentifiers "sketch_functions" (given.field "sketch_functions") standard.nonempty
      standard.areNames).bind fun sketchFunctions areNames =>
    (fallsBack_asPattern "library_script_pattern" (given.field "library_script_pattern")
      standard.pattern).bind fun libraryScriptPattern isPattern =>
    (fallsBack_asCount "max_file_bytes" Config.standard.maxFileBytes (given.field "max_file_bytes")).bind
      fun maxFileBytes isCount =>
    (repairs_asTexts "listing_exclusions" Config.standard.listingExclusions true
      (given.field "listing_exclusions")).bind fun listingExclusions areTexts =>
    (fallsBack_asLevel (given.field "log_level") (by decide) standard.logLevel).bind fun logLevel isLevel =>
    (fallsBack_asLogFile homes (given.field "log_file")).bind fun logFile isFile =>
    made (c := ⟨version, namespaceName, sketchFunctions, libraryScriptPattern, maxFileBytes, listingExclusions,
      logLevel, logFile⟩) ⟨isVersion, isName, areNames, isPattern, isCount, areTexts, isLevel, isFile⟩
  refine checked.weaken ?_ ?_ fun _ => id
  · simp [Given.breaks_iff]
  · simp [Given.faulty_iff]

end Whole

end Check

theorem validate_of_error [Host] {homes : Homes} {v : Value} {strict : Bool} {p : Problem}
    (failed : (checkConfig homes v).result strict [] = .error p) : validate homes v strict = .error p := by
  rw [Check.result] at failed
  rw [validate, failed]

/-- A lenient check breaks off at numbers that cannot be read or written, at patterns that are not so much wrong
as beyond reading, and at users who cannot be looked up. Wherever there is none of these it returns a
configuration, in which everything that could not be used is standard, and a report of each fault. -/
theorem validate_repairs [Host] (homes : Homes) (v : Value) :
    (BreaksOff v ∧ ∃ p, validate homes v false = .error p) ∨
    (¬ BreaksOff v ∧ ∃ r, validate homes v false = .ok r ∧ Repaired v r) := by
  cases v with
  | object given =>
      rcases Check.repairs_checkFields homes given [] with
        ⟨breaks, p, failed⟩ | ⟨goes, c, warnings, done, mends, reported⟩
      · exact .inl ⟨breaks, p, validate_of_error failed⟩
      · refine .inr ⟨goes, { config := c, warnings }, validate_eq_ok_iff.mpr done, mends, ?_⟩
        simpa using reported
  | null | bool | int | float | string | array => exact .inr ⟨id, _, rfl, rfl⟩

/-- A raised two is a digit for the test and none for the reading. -/
theorem not_validate_returns : ¬ ∀ (host : Host) homes v, ∃ r, @validate host homes v false = .ok r := by
  intro returns
  obtain ⟨r, done⟩ := returns Host.bundled { own := "/home/me" } (.object [("max_file_bytes", .string "²")])
  have fails : (@validate Host.bundled { own := "/home/me" } (.object [("max_file_bytes", .string "²")])
      false).toOption.isNone = true := by decide +kernel
  rw [done] at fails
  cases fails

end SketchSurvey.Settings
