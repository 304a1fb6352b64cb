import SketchSurvey.Text.Sorted

/-! Lists of texts without repetitions, in strictly increasing order. -/

set_option autoImplicit false

namespace SketchSurvey.Text

theorem nodup_eraseDups : ∀ l : List String, l.eraseDups.Nodup
  | [] => by simp
  | a :: rest => by
      rw [List.eraseDups_cons, List.nodup_cons]
      refine ⟨?_, nodup_eraseDups _⟩
      intro again
      rw [List.mem_eraseDups, List.mem_filter] at again
      simp at again
termination_by l => l.length
decreasing_by exact Nat.lt_succ_of_le (List.length_filter_le ..)

/-- Texts of which none occurs twice come out in strictly increasing order. -/
theorem pairwise_lt_sorted {l : List String} (nodup : l.Nodup) : (sorted l).Pairwise (· < ·) := by
  have ordered : (sorted l).Pairwise fun a b => a ≤ b :=
    (List.pairwise_mergeSort
      (fun a b c first second => by
        rw [decide_eq_true_eq] at first second ⊢
        exact String.le_trans first second)
      (fun a b => by
        rw [Bool.or_eq_true, decide_eq_true_eq, decide_eq_true_eq]
        exact String.le_total a b) l).imp of_decide_eq_true
  have distinct : (sorted l).Pairwise fun a b => a ≠ b :=
    ((List.mergeSort_perm l _).nodup_iff).mpr nodup
  refine (ordered.and distinct).imp ?_
  rintro a b ⟨atMost, different⟩
  by_cases less : a < b
  · exact less
  · exact absurd (String.le_antisymm atMost (String.not_lt.mp less)) different

/-- Two lists that increase and have the same members are one. -/
theorem eq_of_pairwise_lt {l l' : List String} (increasing : l.Pairwise (· < ·))
    (increasing' : l'.Pairwise (· < ·)) (same : ∀ s, s ∈ l ↔ s ∈ l') : l = l' := by
  have nodup : l.Nodup := increasing.imp String.ne_of_lt
  have nodup' : l'.Nodup := increasing'.imp String.ne_of_lt
  apply List.Perm.eq_of_pairwise _ increasing increasing'
    ((List.perm_ext_iff_of_nodup nodup nodup').mpr same)
  intro s t _ _ less more
  exact absurd (String.lt_trans less more) (String.lt_irrefl s)

end SketchSurvey.Text
