/-!
Texts in the order of their characters' codes.
-/

set_option autoImplicit false

namespace SketchSurvey.Text

def sorted (l : List String) : List String := l.mergeSort fun a b => decide (a ≤ b)

theorem mem_sorted {s : String} {l : List String} : s ∈ sorted l ↔ s ∈ l := List.mem_mergeSort

end SketchSurvey.Text
