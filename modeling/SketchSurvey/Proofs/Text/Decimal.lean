import SketchSurvey.Proofs.Text.ShortNumber

/-! Whole numbers as they are written in decimal digits are read as they are. -/

set_option autoImplicit false

namespace SketchSurvey.Text

/-- A whole number as it is written: a sign or none, and no more digits than are read. -/
structure Decimal where
  sign : List Char
  digits : List (Fin 10)
  known : sign ∈ [[], ['+'], ['-']]
  nonempty : digits ≠ []
  few : digits.length ≤ maxDigits

namespace Decimal

def text (d : Decimal) : String := String.ofList (d.sign ++ d.digits.map fun x => x.val.digitChar)

def value (d : Decimal) : Int :=
  let size : Nat := d.digits.foldl (fun n x => n * 10 + x.val) 0
  if d.sign = ['-'] then -size else size

end Decimal

theorem digitValue?_digitChar (x : Fin 10) : digitValue? x.val.digitChar = some x.val := by
  revert x
  decide

theorem digitsOf?_digitChars (digits : List (Fin 10)) (afterDigit : Bool)
    (started : digits ≠ [] ∨ afterDigit = true) :
    digitsOf? afterDigit (digits.map fun x => x.val.digitChar) = some (digits.map Fin.val) := by
  induction digits generalizing afterDigit with
  | nil =>
      have isStarted := started.resolve_left (not_not_intro rfl)
      simp [digitsOf?, isStarted]
  | cons x digits ih =>
      have noUnderscore : ∀ x : Fin 10, x.val.digitChar ≠ '_' := by decide
      simp [digitsOf?, noUnderscore x, digitValue?_digitChar, ih true (.inr rfl)]

/-- The parts of a text that start and end with no white space are kept. -/
theorem trimList_signed {sign cs : List Char} (known : sign ∈ [[], ['+'], ['-']])
    (digits : ∀ c ∈ cs, ∃ x : Fin 10, c = x.val.digitChar) : trimList (sign ++ cs) = sign ++ cs := by
  have noBlank : ∀ c ∈ sign ++ cs, isBlank c = false := by
    have each : ∀ x : Fin 10, isBlank x.val.digitChar = false := by decide
    intro c member
    rcases List.mem_append.mp member with isSign | isDigit
    · simp only [List.mem_cons, List.not_mem_nil, or_false] at known
      rcases known with rfl | rfl | rfl
      · cases isSign
      · rw [List.mem_singleton.mp isSign]
        decide
      · rw [List.mem_singleton.mp isSign]
        decide
    · obtain ⟨x, rfl⟩ := digits c isDigit
      exact each x
  rw [trimList, dropWhile_isBlank fun c isHead => noBlank c (List.mem_of_mem_head? isHead),
    dropWhile_isBlank fun c isHead => noBlank c (List.mem_reverse.mp (List.mem_of_mem_head? isHead)),
    List.reverse_reverse]

/-- A number is read from its text. -/
theorem parseInt_text (d : Decimal) : parseInt d.text = .ok d.value := by
  obtain ⟨sign, digits, known, nonempty, few⟩ := d
  have value : valueOf (digits.map Fin.val) = digits.foldl (fun n x => n * 10 + x.val) 0 := by
    rw [valueOf, List.foldl_map]
  have trimmed : trimList (sign ++ digits.map fun x => x.val.digitChar) =
      sign ++ digits.map fun x => x.val.digitChar := by
    refine trimList_signed known fun c member => ?_
    obtain ⟨x, -, rfl⟩ := List.mem_map.mp member
    exact ⟨x, rfl⟩
  have read := digitsOf?_digitChars digits false (.inl nonempty)
  have short : ¬ (digits.map Fin.val).length > maxDigits := by
    rw [List.length_map]
    exact Nat.not_lt.mpr few
  have noSign : ∀ x : Fin 10, x.val.digitChar ≠ '-' ∧ x.val.digitChar ≠ '+' := by decide
  rw [parseInt, Decimal.text, String.toList_ofList, trimmed, Decimal.value]
  split
  next negative cs signed =>
    obtain ⟨rfl, isNegative⟩ : cs = digits.map (fun x => x.val.digitChar) ∧
        (negative = true ↔ sign = ['-']) := by
      simp only [List.mem_cons, List.not_mem_nil, or_false] at known
      rcases known with rfl | rfl | rfl
      · obtain ⟨x, more, rfl⟩ := List.exists_cons_of_ne_nil nonempty
        simp [noSign x] at signed
        obtain ⟨rfl, rfl⟩ := signed
        simp
      · simp at signed
        obtain ⟨rfl, rfl⟩ := signed
        simp
      · simp at signed
        obtain ⟨rfl, rfl⟩ := signed
        simp
    simp only [read, if_neg short, value, isNegative]

end SketchSurvey.Text
