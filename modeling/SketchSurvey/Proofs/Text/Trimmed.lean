import SketchSurvey.Text.Blank

/-! Texts without white space at their ends. -/

set_option autoImplicit false

namespace SketchSurvey.Text

/-- No white space stands at either end of a text. -/
structure IsTrimmed (s : String) : Prop where
  first : ∀ c ∈ s.toList.head?, isBlank c = false
  last : ∀ c ∈ s.toList.getLast?, isBlank c = false

theorem isTrimmed_of_ends {s : String} {first last : Char} (isFirst : s.toList.head? = some first)
    (isLast : s.toList.getLast? = some last) (notBlank : isBlank first = false)
    (notBlank' : isBlank last = false) : IsTrimmed s := by
  constructor
  · intro c found
    cases isFirst.symm.trans found
    exact notBlank
  · intro c found
    cases isLast.symm.trans found
    exact notBlank'

theorem not_isBlank_of_head?_dropWhile {cs : List Char} {c : Char}
    (first : (cs.dropWhile isBlank).head? = some c) : isBlank c = false := by
  have stops := List.head?_dropWhile_not isBlank cs
  rw [first] at stops
  exact stops

theorem isPrefix_dropEnd (cs : List Char) : (cs.reverse.dropWhile isBlank).reverse <+: cs := by
  have suffix := List.dropWhile_suffix (l := cs.reverse) isBlank
  rw [← List.reverse_prefix, List.reverse_reverse] at suffix
  exact suffix

/-- What is left of a text without the white space around it stood in it. -/
theorem isInfix_trimList (cs : List Char) : trimList cs <:+: cs :=
  (isPrefix_dropEnd _).isInfix.trans (List.dropWhile_suffix isBlank).isInfix

theorem mem_dropWhile_isBlank {cs : List Char} {c : Char} (member : c ∈ cs) (notBlank : isBlank c = false) :
    c ∈ cs.dropWhile isBlank := by
  rw [← List.takeWhile_append_dropWhile (p := isBlank) (l := cs)] at member
  refine (List.mem_append.mp member).resolve_left fun taken => ?_
  rw [List.all_eq_true.mp List.all_takeWhile c taken] at notBlank
  cases notBlank

/-- Trimming a text takes nothing but white space. -/
theorem mem_trimList {cs : List Char} {c : Char} (member : c ∈ cs) (notBlank : isBlank c = false) :
    c ∈ trimList cs := by
  rw [trimList, List.mem_reverse]
  exact mem_dropWhile_isBlank (List.mem_reverse.mpr (mem_dropWhile_isBlank member notBlank)) notBlank

/-- Cutting white space off the end leaves the first character as it is. -/
theorem head?_of_head?_dropEnd {cs : List Char} {c : Char}
    (first : (cs.reverse.dropWhile isBlank).reverse.head? = some c) : cs.head? = some c := by
  obtain ⟨rest, same⟩ := isPrefix_dropEnd cs
  rw [← same, List.head?_append, first]
  rfl

theorem isTrimmed_trim (s : String) : IsTrimmed (trim s) where
  first := by
    intro c first
    rw [trim, String.toList_ofList, trimList] at first
    exact not_isBlank_of_head?_dropWhile (head?_of_head?_dropEnd first)
  last := by
    intro c last
    rw [trim, String.toList_ofList, trimList, List.getLast?_reverse] at last
    exact not_isBlank_of_head?_dropWhile last

/-- Between the blank and the first control character after the letters there is no white space. -/
theorem isBlank_eq_false_of_bounds {c : Char} (low : 33 ≤ c.toNat) (high : c.toNat ≤ 127) :
    isBlank c = false := by
  have outside : ∀ range ∈ blanks, range.2 < 33 ∨ 127 < range.1 := by decide
  rw [isBlank, Ranges.has, List.any_eq_false]
  rintro ⟨first, last⟩ member
  have apart := outside _ member
  simp only [Bool.and_eq_true, decide_eq_true_eq]
  omega

theorem dropWhile_isBlank {cs : List Char} (first : ∀ c ∈ cs.head?, isBlank c = false) :
    cs.dropWhile isBlank = cs := by
  cases cs with
  | nil => rfl
  | cons c cs => exact List.dropWhile_cons_of_neg (by simp [first c rfl])

theorem trim_of_isTrimmed {s : String} (trimmed : IsTrimmed s) : trim s = s := by
  have last : ∀ c ∈ s.toList.reverse.head?, isBlank c = false := by
    rw [List.head?_reverse]
    exact trimmed.last
  rw [trim, trimList, dropWhile_isBlank trimmed.first, dropWhile_isBlank last, List.reverse_reverse,
    String.ofList_toList]

end SketchSurvey.Text
