import SketchSurvey.Bundled
import SketchSurvey.CommandLine.Phases

/-!
A run of the program with what it brings along.
-/

set_option autoImplicit false

namespace SketchSurvey

/-- What the program runs on where no other host is given. -/
instance Host.standard : Host := Host.bundled

end SketchSurvey
