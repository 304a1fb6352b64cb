import SketchSurvey.Json.Writer
import SketchSurvey.Files.Path

/-!
The report of a script that cannot be read: a script itself, which shows the error where the other would
have run.
-/

set_option autoImplicit false

namespace SketchSurvey.Sketch

/-- The lines of a report, given its two texts. -/
def reportLines (fileName message : String) : List String := [
  "(function () \x7b",
  "  var fileName = " ++ fileName ++ ";",
  "  var message = " ++ message ++ ";",
  "  console.error('Syntax error in ' + fileName + ': ' + message);",
  "  function show() \x7b",
  "    var el = document.createElement('pre');",
  "    el.className = 'p5-syntax-error';",
  "    el.style.color = '#b00020';",
  "    el.textContent = 'Syntax error in ' + fileName + '\\n' + message;",
  "    document.body.appendChild(el);",
  "  \x7d",
  "  if (document.body) \x7b",
  "    show();",
  "  \x7d else \x7b",
  "    document.addEventListener('DOMContentLoaded', show);",
  "  \x7d",
  "\x7d)();"]

/-- The report about a file. Both texts are written so that they cannot end early. -/
def syntaxErrorReport (fileName message : String) : String :=
  String.join <| (reportLines (Json.quote true (Files.Path.baseName fileName))
    (Json.quote true message)).map (· ++ "\n")

end SketchSurvey.Sketch
