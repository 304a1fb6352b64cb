import SketchSurvey.Proofs.Script.LoweredStatement
import SketchSurvey.Proofs.Script.PrintedTree
import SketchSurvey.Proofs.Script.TreeParts

/-! A printed program is read as the program that was printed, whatever reads the concrete trees, as
long as it follows the grammar. -/

set_option autoImplicit false

namespace SketchSurvey.Script

theorem ProgramTree.hasError_eq_false {root : Node} {ts : List Token} (tree : ProgramTree root ts) :
    root.hasError = false := by
  cases tree
  rfl

/-- Every tree of a printed program is lowered to the program. -/
theorem Program.Printable.lowers {p : Program} (printable : p.Printable) {root : Node}
    (tree : ProgramTree root p.tokens) : Lower.program root = p := by
  generalize same : p.tokens = ts at tree
  cases tree with
  | program sequence =>
      have lowered := map_parts_of_sequence printable
        (fun s member => (printable s member).lowers) sequence same.symm
      rw [Lower.program, Node.parts_eq_filter, Node.children_mk, lowered]

/-- Printing a program and reading its text gives the program back. -/
theorem parseWith_print {read : String → Node} {p : Program} (printable : p.Printable)
    (follows : FollowsGrammar read p.tokens) (fileName : String) :
    parseWith read p.print fileName = .ok p := by
  have tree := follows printable.exists_tree
  rw [Program.print, parseWith_of_hasParts tree.hasError_eq_false tree.hasParts, printable.lowers tree]

section Loop

open Node (branch leaf word enclosed)

/-- A loop with an assignment in it. -/
def countingLoop : Program where
  body := [.while (.identifier "x")
    (.block [.expression (.assign "=" (.identifier "y") (.literal "1"))])]

/-- The concrete tree of its text. -/
def countingLoopTree : Node :=
  branch "program" none 0 "while ( x ) \x7b ( y = ( 1 ) ) ; \x7d" [
    branch "while_statement" none 0 "while ( x ) \x7b ( y = ( 1 ) ) ; \x7d" [
      word none 0 "while",
      branch "parenthesized_expression" (some "condition") 0 "( x )"
        (enclosed .round 0 0 [leaf "identifier" none 0 "x"]),
      branch "statement_block" (some "body") 0 "\x7b ( y = ( 1 ) ) ; \x7d" (enclosed .curly 0 0 [
        branch "expression_statement" none 0 "( y = ( 1 ) ) ;" [
          branch "parenthesized_expression" none 0 "( y = ( 1 ) )" (enclosed .round 0 0 [
            branch "assignment_expression" none 0 "y = ( 1 )" [
              leaf "identifier" (some "left") 0 "y",
              word none 0 "=",
              branch "parenthesized_expression" (some "right") 0 "( 1 )"
                (enclosed .round 0 0 [leaf "number" none 0 "1"])]]),
          word none 0 ";"]])]]

theorem countingLoop_printable : countingLoop.Printable := by
  intro s member
  cases List.mem_singleton.mp member
  refine .while (.identifier (by decide)) ?_
  intro s member
  cases List.mem_singleton.mp member
  exact .expression (.assign (.identifier (by decide)) (.literal (by decide)))

theorem countingLoop_print : countingLoop.print = "while ( x ) \x7b ( y = ( 1 ) ) ; \x7d" := by
  decide

theorem programTree_countingLoop : ProgramTree countingLoopTree countingLoop.tokens := by
  have isX : IsName "x" := by decide
  have isY : IsName "y" := by decide
  have isOne : IsDecimal "1" := by decide
  exact .program (.cons (.while (.parenthesized (.identifier isX))
    (.block (.cons (.expression (.parenthesized (.assignment (.tail _ (.head _)) (.identifier isY)
      (.parenthesized (.number isOne))))) .nil))) .nil)

theorem parseWith_print_countingLoop : countingLoop.Printable ∧
    countingLoop.print = "while ( x ) \x7b ( y = ( 1 ) ) ; \x7d" ∧
    parseWith (fun _ => countingLoopTree) countingLoop.print anonymous = .ok countingLoop :=
  ⟨countingLoop_printable, countingLoop_print,
    parseWith_print countingLoop_printable (fun _ => programTree_countingLoop) anonymous⟩

end Loop

end SketchSurvey.Script
