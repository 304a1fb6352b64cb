import SketchSurvey.Text.Digit
import SketchSurvey.Text.Quoted

/-!
What can be wrong with a regular expression.
-/

set_option autoImplicit false

namespace SketchSurvey.Regex

inductive Cause where
  | escapeAtEnd
  | incompleteEscape (escape : String)
  | badEscape (escape : String)
  | missingBrace
  | missingName (what : String)
  | unterminatedName (terminator : Char)
  | unknownCharacter (name : String)
  | octalTooLarge (escape : String)
  | openGroup
  | groupInLookbehind
  | noSuchGroup (number : Int)
  | unterminatedSet
  | badRange (first last : String)
  | leastAboveMost
  | nothingToRepeat
  | repeatedRepeat
  | badGroupName (name : String)
  | unknownGroup (name : String)
  | groupZero
  | redefinedGroup (name : String) (number before : Nat)
  | patternEnds
  | unknownExtension (text : String)
  | unterminatedComment
  | unterminatedGroup
  | flagsNotAtStart
  | thirdBranch
  | unbalanced
  | localeFlag
  | incompatibleFlags
  | unknownFlag
  | missingFlagEnd
  | missingFlag
  | missingColon
  | globalFlagOn
  | globalFlagOff
  | letterFlagOff
  | flagOnAndOff
  | behindTooFar
  | behindNotFixed
  | templateRepeat (kind : String)
  deriving BEq, Repr

namespace Cause

def message : Cause → String
  | escapeAtEnd => "bad escape (end of pattern)"
  | incompleteEscape e => "incomplete escape " ++ e
  | badEscape e => "bad escape " ++ e
  | missingBrace => "missing \x7b"
  | missingName what => "missing " ++ what
  | unterminatedName t => "missing " ++ String.singleton t ++ ", unterminated name"
  | unknownCharacter name => "undefined character name " ++ Text.quoted name
  | octalTooLarge e => "octal escape value " ++ e ++ " outside of range 0-0o377"
  | openGroup => "cannot refer to an open group"
  | groupInLookbehind => "cannot refer to group defined in the same lookbehind subpattern"
  | noSuchGroup n => "invalid group reference " ++ toString n
  | unterminatedSet => "unterminated character set"
  | badRange a b => "bad character range " ++ a ++ "-" ++ b
  | leastAboveMost => "min repeat greater than max repeat"
  | nothingToRepeat => "nothing to repeat"
  | repeatedRepeat => "multiple repeat"
  | badGroupName name => "bad character in group name " ++ Text.quoted name
  | unknownGroup name => "unknown group name " ++ Text.quoted name
  | groupZero => "bad group number"
  | redefinedGroup name number before =>
    "redefinition of group name " ++ Text.quoted name ++ " as group " ++ toString number ++
      "; was group " ++ toString before
  | patternEnds => "unexpected end of pattern"
  | unknownExtension text => "unknown extension ?" ++ text
  | unterminatedComment => "missing ), unterminated comment"
  | unterminatedGroup => "missing ), unterminated subpattern"
  | flagsNotAtStart => "global flags not at the start of the expression"
  | thirdBranch => "conditional backref with more than two branches"
  | unbalanced => "unbalanced parenthesis"
  | localeFlag => "bad inline flags: cannot use 'L' flag with a str pattern"
  | incompatibleFlags => "bad inline flags: flags 'a', 'u' and 'L' are incompatible"
  | unknownFlag => "unknown flag"
  | missingFlagEnd => "missing -, : or )"
  | missingFlag => "missing flag"
  | missingColon => "missing :"
  | globalFlagOn => "bad inline flags: cannot turn on global flag"
  | globalFlagOff => "bad inline flags: cannot turn off global flag"
  | letterFlagOff => "bad inline flags: cannot turn off flags 'a', 'u' and 'L'"
  | flagOnAndOff => "bad inline flags: flag turned on and off"
  | behindTooFar => "looks too much behind"
  | behindNotFixed => "look-behind requires fixed-width pattern"
  | templateRepeat kind => "internal: unsupported template operator " ++ kind

end Cause

/-- Why a pattern was not read. -/
inductive Problem where
  /-- The pattern is wrong, at a place if one can be named. -/
  | malformed (cause : Cause) (position : Option Nat)
  /-- A number has more digits than are read. -/
  | tooManyDigits (count : Nat)
  /-- Two flags that exclude each other hold for the whole pattern. -/
  | incompatibleLetters
  /-- A number of repetitions is beyond all bounds. -/
  | repeatOverflow
  /-- The code of a character is beyond all bounds. -/
  | codeOverflow
  /-- Reading the pattern takes more of the stack than there is. -/
  | stackExhausted
  deriving BEq, Repr

/-- A place in words. Where the pattern has several lines, the line and column are named too. -/
def placeMessage (pattern : String) (position : Nat) : String :=
  let before := pattern.toList.take position
  let line := before.count '\n' + 1
  let column := (before.reverse.takeWhile (· != '\n')).length + 1
  " at position " ++ toString position ++
    if pattern.toList.contains '\n' then
      " (line " ++ toString line ++ ", column " ++ toString column ++ ")"
    else ""

def Problem.message (pattern : String) : Problem → String
  | .malformed cause (some position) => cause.message ++ placeMessage pattern position
  | .malformed cause none => cause.message
  | .tooManyDigits count => Text.tooManyDigitsMessage count
  | .incompatibleLetters => "ASCII and UNICODE flags are incompatible"
  | .repeatOverflow => "the repetition number is too large"
  | .codeOverflow => "Python int too large to convert to C int"
  | .stackExhausted => "maximum recursion depth exceeded"

end SketchSurvey.Regex
