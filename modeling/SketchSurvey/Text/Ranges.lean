/-!
Sets of characters as ranges of code points.
-/

set_option autoImplicit false

namespace SketchSurvey.Text

/-- Inclusive ranges. -/
abbrev Ranges := List (Nat × Nat)

def Ranges.has (r : Ranges) (c : Char) : Bool :=
  r.any fun (lo, hi) => lo ≤ c.toNat && c.toNat ≤ hi

end SketchSurvey.Text
