import SketchSurvey.Script.Grammar.Productions
import SketchSurvey.Script.Reading.Visible
import SketchSurvey.Script.Parse

/-!
The project's own reader of scripts.
-/

set_option autoImplicit false

namespace SketchSurvey.Script

open SketchSurvey.Script.Automaton SketchSurvey.Script.Reading

/-- The automaton of the script grammar, built when it is first needed. -/
def scriptTable : Thunk Table := Thunk.mk fun _ => Table.ofGrammar Grammar.scripts

/-- A tree that is a single error. -/
def Node.unreadable (text : String) : Node := .mk "ERROR" true false true 0 text none []

/-- The concrete tree of a text by the script grammar. It is a single error if the reader finds no tree, or one
that lacks parts. -/
def readScriptTree (text : String) : Node :=
  match readNode { table := scriptTable.get, source := .ofString text } with
  | some root =>
    if root.hasError || (Lowering.program root).isOk then root else .unreadable text
  | none => .unreadable text

/-- A tree without an error can be lowered. -/
theorem readScriptTree_isOk {text : String} (correct : (readScriptTree text).hasError = false) :
    (Lowering.program (readScriptTree text)).isOk = true := by
  revert correct
  unfold readScriptTree
  split
  · split
    · next root _ known =>
        intro correct
        simpa [correct] using known
    · intro correct
      cases correct
  · intro correct
    cases correct

/-- A text that this reader gives no program for is no script. -/
theorem notScript_of_readScriptTree {text fileName : String} {p : ParseProblem}
    (refused : parseWith readScriptTree text fileName = .error p) : ∃ e, p = .notScript e := by
  unfold parseWith at refused
  dsimp only at refused
  split at refused
  · exact ⟨_, (Except.error.inj refused).symm⟩
  · next correct =>
      have isOk : (Lowering.program (readScriptTree text)).isOk = true :=
        readScriptTree_isOk (Bool.eq_false_iff.mpr correct)
      cases lowered : Lowering.program (readScriptTree text) with
      | ok program =>
          rw [lowered] at refused
          cases refused
      | error missing =>
          rw [lowered] at isOk
          cases isOk

/-- The error of a text that is no script. -/
def ParseProblem.error : (p : ParseProblem) → (∃ e, p = .notScript e) → SyntaxError
  | .notScript e, _ => e
  | .missingPart _, h | .stackExhausted, h => False.elim (by obtain ⟨_, h⟩ := h; cases h)

/-- Reads a text as a script. -/
def parse (text : String) (fileName : String := anonymous) : Except SyntaxError Program :=
  match h : parseWith readScriptTree text fileName with
  | .ok p => .ok p
  | .error p => .error (p.error (notScript_of_readScriptTree h))

/-- Whether a text is a script. -/
def accepts (text : String) : Bool :=
  match parse text with
  | .ok _ => true
  | .error _ => false

end SketchSurvey.Script
