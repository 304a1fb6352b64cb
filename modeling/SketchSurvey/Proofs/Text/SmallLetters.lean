import SketchSurvey.Text.Case

/-! Which texts have a given text in small letters. If that text has only characters of the first block,
and no `i` or `k`, its letters come from letters of the first block alone: of the other letters only a
capital with a dot and the sign of a unit have small letters there. -/

set_option autoImplicit false

namespace SketchSurvey.Text

/-- A character that is outside the first block, or that a letter outside of it has as its small one. -/
def IsForeign (c : Char) : Prop := 128 ≤ c.toNat ∨ c ∈ ['\x00', 'i', 'k']

instance : DecidablePred IsForeign := fun _ => inferInstanceAs (Decidable (_ ∨ _))

/-- A text of letters of the first block that no letter outside of it has as its small one. -/
def IsDomestic (w : List Char) : Prop := ∀ c ∈ w, ¬ IsForeign c

instance : DecidablePred IsDomestic := fun w => List.decidableBAll (fun c => ¬ IsForeign c) w

theorem lowerShifts_bound : ∀ s ∈ lowerShifts,
    s.last < 128 ∨ 128 ≤ s.first + s.delta ∨ s.first = 0x212A ∧ s.last = 0x212A ∧ s.delta = -8383 := by
  decide +kernel

theorem toNat_ofNat_of_valid {n : Nat} (valid : n.isValidChar) : (Char.ofNat n).toNat = n := by
  rw [Char.ofNat, dif_pos valid]
  rfl

/-- No letter outside the first block has its counterpart there, but for one. -/
theorem isForeign_of_counterpart {s : Shift} {n m : Nat} (known : s ∈ lowerShifts) (outside : 128 ≤ n)
    (found : s.counterpart? n = some m) : IsForeign (Char.ofNat m) := by
  simp only [Shift.counterpart?, Option.ite_none_right_eq_some, Bool.and_eq_true,
    decide_eq_true_eq, Option.some.injEq] at found
  obtain ⟨⟨⟨low, high⟩, -⟩, rfl⟩ := found
  rcases lowerShifts_bound s known with below | above | ⟨first, last, delta⟩
  · omega
  · by_cases valid : ((n : Int) + s.delta).toNat.isValidChar
    · left
      rw [toNat_ofNat_of_valid valid]
      omega
    · right
      have none : Char.ofNat ((n : Int) + s.delta).toNat = '\x00' := by
        rw [Char.ofNat, dif_neg valid]
        rfl
      rw [none]
      decide
  · obtain rfl : n = 0x212A := by omega
    rw [delta]
    exact .inr (by decide)

theorem exists_foreign_of_lowerChar {c : Char} (outside : 128 ≤ c.toNat) :
    ∃ d ∈ lowerChar c, IsForeign d := by
  rw [lowerChar, if_neg (by omega), mapCase]
  split
  · next m found =>
      obtain ⟨s, known, found⟩ := List.exists_of_findSome?_eq_some found
      exact ⟨_, .head _, isForeign_of_counterpart known outside found⟩
  · split
    · next special found =>
        have known := List.mem_of_find?_eq_some found
        cases List.mem_singleton.mp known
        exact ⟨'i', by decide, .inr (by decide)⟩
    · exact ⟨c, .head _, .inl outside⟩

theorem toLower_of_outside {c : Char} (outside : 128 ≤ c.toNat) : c.toLower = c := by
  refine dif_neg fun capital => ?_
  have last : c.toNat ≤ 90 := UInt32.le_iff_toNat_le.mp capital.2
  omega

/-- What one character contributes to a text in small letters, wherever it stands. -/
theorem lowerFrom_cons (before : List Char) (c : Char) (rest : List Char) :
    ∃ small, lowerFrom before (c :: rest) = small ++ lowerFrom (c :: before) rest ∧
      (c.toNat < 128 → small = [c.toLower]) ∧ (128 ≤ c.toNat → ∃ d ∈ small, IsForeign d) := by
  refine ⟨_, rfl, fun inside => ?_, fun outside => ?_⟩
  · rw [if_neg (by rintro rfl; exact absurd inside (by decide)), lowerChar, if_pos inside]
  · split
    · split
      · exact ⟨_, .head _, .inl (by decide)⟩
      · exact ⟨_, .head _, .inl (by decide)⟩
    · exact exists_foreign_of_lowerChar outside

/-- Characters of the first block have their small letters one by one. -/
theorem lowerFrom_of_inside (before : List Char) {cs : List Char} (inside : ∀ c ∈ cs, c.toNat < 128) :
    lowerFrom before cs = cs.map Char.toLower := by
  induction cs generalizing before with
  | nil => rfl
  | cons c rest ih =>
      obtain ⟨first, others⟩ := List.forall_mem_cons.mp inside
      obtain ⟨small, split, own, _⟩ := lowerFrom_cons before c rest
      rw [split, own first, ih _ others]
      rfl

/-- A text is another one in small letters exactly if its letters are, one by one. -/
theorem lowerFrom_eq_iff {w : List Char} (domestic : IsDomestic w) (before cs : List Char) :
    lowerFrom before cs = w ↔ cs.map Char.toLower = w := by
  induction cs generalizing before w with
  | nil => exact Iff.rfl
  | cons c rest ih =>
      obtain ⟨small, split, inside, outside⟩ := lowerFrom_cons before c rest
      rw [split, List.map_cons]
      rcases Nat.lt_or_ge c.toNat 128 with first | other
      · rw [inside first]
        cases w with
        | nil => simp
        | cons d w =>
            rw [List.singleton_append, List.cons.injEq, List.cons.injEq,
              ih fun e within => domestic e (.tail _ within)]
      · -- neither text is `w`: both have a character that `w` cannot have
        obtain ⟨d, among, foreign⟩ := outside other
        constructor
        · rintro rfl
          exact absurd foreign (domestic d (List.mem_append_left _ among))
        · rintro rfl
          rw [toLower_of_outside other] at domestic
          exact absurd (.inl other) (domestic c (.head _))

end SketchSurvey.Text
