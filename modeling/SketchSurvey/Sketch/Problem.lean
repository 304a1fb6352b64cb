import SketchSurvey.Files.TextFile
import SketchSurvey.Sketch.Classify

/-!
Why an operation on files or directories gave no answer.
-/

set_option autoImplicit false

namespace SketchSurvey.Files

/-- The name of a problem's kind. -/
def Cause.kindName : Cause → String
  | notFound => "FileNotFoundError"
  | alreadyExists => "FileExistsError"
  | notDirectory => "NotADirectoryError"
  | isDirectory => "IsADirectoryError"
  | nameTooLong | tooManyLinks => "OSError"
  | other number _ => if number == 1 || number == 13 then "PermissionError" else "OSError"

def Problem.kindName : Problem → String
  | failed cause _ | notLinked cause _ _ => cause.kindName
  | nullInPath => "ValueError"
  | unencodable _ => "UnicodeEncodeError"

end SketchSurvey.Files

namespace SketchSurvey.Sketch

open SketchSurvey.Files SketchSurvey.Script

namespace JudgeProblem

def message : JudgeProblem → String
  | pattern source p => p.message source
  | page p => p.message
  | script p => p.message

def kindName : JudgeProblem → String
  | pattern _ (.malformed ..) => "error"
  | pattern _ (.tooManyDigits _) | pattern _ .incompatibleLetters => "ValueError"
  | pattern _ .repeatOverflow | pattern _ .codeOverflow => "OverflowError"
  | pattern _ .stackExhausted => "RecursionError"
  | page (.tooManyDigits _) => "ValueError"
  | page (.unknownSection _) | page (.unnamedSection _) => "AssertionError"
  | script p => p.kindName

end JudgeProblem

inductive Problem where
  | read (p : ReadProblem)
  | script (e : SyntaxError)
  | judge (p : JudgeProblem)

namespace Problem

def file (p : Files.Problem) : Problem := read (.file p)

def message : Problem → String
  | read p => p.message
  | script e => e.describe
  | judge p => p.message

def kindName : Problem → String
  | read (.file p) => p.kindName
  | read (.tooLarge ..) => "FileTooLargeError"
  | script _ => "JavascriptSyntaxError"
  | judge p => p.kindName

end Problem

end SketchSurvey.Sketch
