import Mathlib.Algebra.Group.Nat.Defs
import SketchSurvey.Proofs.Text.Trimmed
import SketchSurvey.Text.Digit

/-! Whole numbers that can be written: those that are read have no more digits. Which texts of digits are
read. -/

set_option autoImplicit false

namespace SketchSurvey.Text

/-- A whole number with no more digits than are read and written. -/
def IsShort (n : Int) : Prop := n.natAbs < 10 ^ maxDigits

theorem isShort_iff {n : Int} : IsShort n ↔ n.natAbs < Nat.pow 10 maxDigits := by
  unfold IsShort
  -- the power is not to be evaluated
  generalize maxDigits = digits
  rfl

theorem foldl_digits_lt {ds : List Nat} (digits : ∀ d ∈ ds, d < 10) (n : Nat) :
    ds.foldl (fun n d => n * 10 + d) n < (n + 1) * 10 ^ ds.length := by
  induction ds generalizing n with
  | nil => simp
  | cons d ds ih =>
      have isDigit := digits d List.mem_cons_self
      rw [List.foldl_cons, List.length_cons]
      calc
        _ < (n * 10 + d + 1) * 10 ^ ds.length := ih (fun e member => digits e (List.mem_cons_of_mem _ member)) _
        _ ≤ ((n + 1) * 10) * 10 ^ ds.length := Nat.mul_le_mul_right _ (by omega)
        _ = (n + 1) * 10 ^ (ds.length + 1) := by rw [Nat.pow_succ, Nat.mul_assoc, Nat.mul_comm 10]

/-- A number is less than any with more digits. -/
theorem valueOf_lt {ds : List Nat} (digits : ∀ d ∈ ds, d < 10) : valueOf ds < 10 ^ ds.length := by
  have bound := foldl_digits_lt digits 0
  rwa [Nat.zero_add, Nat.one_mul] at bound

theorem isShort_valueOf {ds : List Nat} (digits : ∀ d ∈ ds, d < 10) (few : ds.length ≤ maxDigits)
    (negative : Bool) : IsShort (if negative then -(valueOf ds : Int) else valueOf ds) := by
  have size : (if negative then -(valueOf ds : Int) else valueOf ds).natAbs = valueOf ds := by
    cases negative <;> simp
  rw [IsShort, size]
  exact Nat.lt_of_lt_of_le (valueOf_lt digits) (Nat.pow_le_pow_right (by decide) few)

theorem digitValue?_lt {c : Char} {d : Nat} (value : digitValue? c = some d) : d < 10 := by
  obtain ⟨range, -, rfl⟩ := Option.map_eq_some_iff.mp value
  exact Nat.mod_lt _ (by decide)

theorem digitsOf?_lt {cs : List Char} {afterDigit : Bool} {ds : List Nat}
    (read : digitsOf? afterDigit cs = some ds) : ∀ d ∈ ds, d < 10 := by
  induction cs generalizing afterDigit ds with
  | nil =>
      rw [digitsOf?] at read
      split at read
      · obtain rfl := Option.some.inj read
        exact List.forall_mem_nil _
      · cases read
  | cons c cs ih =>
      rw [digitsOf?] at read
      split at read
      · exact ih read
      · simp only [Option.bind_eq_bind, Option.bind_eq_some_iff, Option.pure_def, Option.some.injEq] at read
        obtain ⟨d, value, more, others, rfl⟩ := read
        exact List.forall_mem_cons.mpr ⟨digitValue?_lt value, ih others⟩

/-- A number that is read can be written. -/
theorem isShort_of_parseInt {s : String} {n : Int} (read : parseInt s = .ok n) : IsShort n := by
  rw [parseInt] at read
  split at read
  next negative cs _ =>
    cases digits : digitsOf? false cs with
    | none =>
        rw [digits] at read
        cases read
    | some ds =>
        rw [digits] at read
        dsimp only at read
        split at read
        · cases read
        · next few =>
            obtain rfl := Except.ok.inj read
            exact isShort_valueOf (digitsOf?_lt digits) (Nat.not_lt.mp few) negative

/-- A text of digits that gives no number: one of them is no decimal digit, or there are more than are
read. -/
def HasNoNumber (s : String) : Prop :=
  (∃ c ∈ s.toList, digitValue? c = none) ∨ maxDigits < s.toList.length

theorem ne_of_isDigitLike {c mark : Char} (digit : isDigitLike c = true) (other : isDigitLike mark = false) :
    c ≠ mark := by
  rintro rfl
  rw [other] at digit
  cases digit

/-- Digits are read one for one, as long as each has a value. -/
theorem digitsOf?_of_digits {cs : List Char} (digits : ∀ c ∈ cs, isDigitLike c = true) (afterDigit : Bool) :
    ((∃ c ∈ cs, digitValue? c = none) → digitsOf? afterDigit cs = none) ∧
      ((¬ ∃ c ∈ cs, digitValue? c = none) → cs ≠ [] ∨ afterDigit = true →
        ∃ ds, digitsOf? afterDigit cs = some ds ∧ ds.length = cs.length) := by
  induction cs generalizing afterDigit with
  | nil =>
      constructor
      · simp
      · intro _ started
        exact ⟨[], by simp [digitsOf?, started.resolve_left (not_not_intro rfl)], rfl⟩
  | cons c cs ih =>
      have noUnderscore : c ≠ '_' := ne_of_isDigitLike (digits c List.mem_cons_self) (by decide)
      have split : digitsOf? afterDigit (c :: cs) = do
          let d ← digitValue? c
          let ds ← digitsOf? true cs
          return d :: ds := by
        simp [digitsOf?, noUnderscore]
      obtain ⟨fails, reads⟩ := ih (fun d member => digits d (List.mem_cons_of_mem _ member)) true
      rw [split]
      cases value : digitValue? c with
      | none =>
          constructor
          · intro _
            rfl
          · intro allValues
            exact absurd ⟨c, List.mem_cons_self, value⟩ allValues
      | some d =>
          simp only [List.mem_cons, exists_eq_or_imp, value, reduceCtorEq, false_or]
          constructor
          · intro someNone
            simp [fails someNone]
          · intro allValues _
            obtain ⟨ds, read, same⟩ := reads allValues (.inr rfl)
            exact ⟨d :: ds, by simp [read], by simp [same]⟩

theorem parseInt_of_unsigned {s : String} (trimmed : IsTrimmed s) {c : Char} {cs : List Char}
    (chars : s.toList = c :: cs) (noMinus : c ≠ '-') (noPlus : c ≠ '+') :
    parseInt s = match digitsOf? false s.toList with
      | none => .error .malformed
      | some ds =>
        if ds.length > maxDigits then .error (.tooManyDigits ds.length) else .ok (valueOf ds : Int) := by
  have whole : trimList s.toList = s.toList := by
    rw [← String.toList_ofList (l := trimList s.toList)]
    exact congrArg String.toList (trim_of_isTrimmed trimmed)
  rw [parseInt, whole, chars]
  split
  next negative rest sign =>
    simp [noMinus, noPlus] at sign
    obtain ⟨rfl, rfl⟩ := sign
    rfl

/-- A text of digits is read as a number just where it gives one. -/
theorem parseInt_of_digits {s : String} (trimmed : IsTrimmed s) (digits : allDigitLike s = true) :
    (HasNoNumber s ∧ ∃ p, parseInt s = .error p) ∨ (¬ HasNoNumber s ∧ ∃ n : Nat, parseInt s = .ok n) := by
  simp only [allDigitLike, Bool.and_eq_true, Bool.not_eq_true', List.all_eq_true] at digits
  obtain ⟨filled, digits⟩ := digits
  have nonempty : s.toList ≠ [] := by
    intro empty
    simp [← String.toList_inj, empty] at filled
  obtain ⟨c, cs, chars⟩ := List.exists_cons_of_ne_nil nonempty
  have first : isDigitLike c = true := digits c (chars ▸ List.mem_cons_self)
  have unsigned := parseInt_of_unsigned trimmed chars (ne_of_isDigitLike first (by decide))
    (ne_of_isDigitLike first (by decide))
  obtain ⟨fails, reads⟩ := digitsOf?_of_digits digits false
  rw [unsigned]
  by_cases someNone : ∃ c ∈ s.toList, digitValue? c = none
  · exact .inl ⟨.inl someNone, by simp [fails someNone]⟩
  · obtain ⟨ds, read, same⟩ := reads someNone (.inl nonempty)
    rw [read]
    by_cases long : maxDigits < s.toList.length
    · exact .inl ⟨.inr long, by simp [same, long]⟩
    · refine .inr ⟨not_or.mpr ⟨someNone, long⟩, valueOf ds, ?_⟩
      simp [same, long]

end SketchSurvey.Text
