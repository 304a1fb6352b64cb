/-!
Texts cut at every place where a character stands.
-/

set_option autoImplicit false

namespace SketchSurvey.Text

/-- The pieces of a text between the places where a mark stands. There is always one. -/
def splitAt (mark : Char) (s : String) : List String := (s.toList.splitOn mark).map String.ofList

private theorem not_mem_of_mem_splitOn {mark : Char} {piece : List Char} :
    ∀ {cs : List Char}, piece ∈ cs.splitOn mark → mark ∉ piece
  | [], member => by
      rw [List.splitOn_nil, List.mem_singleton] at member
      simp [member]
  | c :: rest, member => by
      rw [List.splitOn_cons_eq_if_modifyHead] at member
      split at member
      · rcases List.mem_cons.mp member with rfl | member
        · exact List.not_mem_nil
        · exact not_mem_of_mem_splitOn member
      · next different =>
          cases pieces : rest.splitOn mark with
          | nil => exact absurd pieces (List.splitOn_ne_nil mark rest)
          | cons first others =>
              rw [pieces, List.modifyHead_cons] at member
              have below : ∀ p ∈ first :: others, mark ∉ p := fun p inside =>
                not_mem_of_mem_splitOn (show p ∈ rest.splitOn mark from pieces ▸ inside)
              rcases List.mem_cons.mp member with rfl | member
              · intro inside
                rcases List.mem_cons.mp inside with rfl | inside
                · simp at different
                · exact below first (.head _) inside
              · exact below piece (.tail _ member)

/-- The mark stands in none of the pieces. -/
theorem not_mem_of_mem_splitAt {mark : Char} {s piece : String} (member : piece ∈ splitAt mark s) :
    mark ∉ piece.toList := by
  obtain ⟨cs, inside, rfl⟩ := List.mem_map.mp member
  rw [String.toList_ofList]
  exact not_mem_of_mem_splitOn inside

end SketchSurvey.Text
