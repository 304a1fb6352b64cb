import SketchSurvey.Script.Reading.Reader
import SketchSurvey.Script.Node

/-!
The concrete tree of a text: hidden productions give way to their parts.
-/

set_option autoImplicit false

namespace SketchSurvey.Script.Reading

open SketchSurvey.Script.Automaton SketchSurvey.Script.Grammar

/-- The name that a symbol appears under, if it appears. -/
def appearanceOf (t : Table) (symbol : Nat) (shownAs : Option Alias) : Option (String × Bool) :=
  match shownAs with
  | some a => some (a.name, a.named)
  | none =>
    if symbol == t.errorSymbol then some ("ERROR", true)
    else
      let a := t.appearance.getD symbol default
      if a.visible then some (a.name, a.named) else none

mutual

/-- The nodes that a tree appears as: itself, or what its parts appear as. `start` is where its
leading space begins; `shownAs` and `field` are what the production above gives it. -/
def Tree.nodes (x : Setting) (start : Extent) (shownAs : Option Alias) (field : Option String) :
    Tree → List Node
  | .node info parts =>
    let shown := x.table.shown.getD info.shown {}
    match appearanceOf x.table info.symbol shownAs with
    | some (kind, named) =>
      let first := start + info.padding
      [.mk kind named info.missing (Tree.errorCost (.node info []) > 0) first.rows
        (x.source.slice first.chars (first + info.size).chars) field
        (partNodes x shown 0 start none parts)]
    | none => partNodes x shown 0 start field parts

/-- The nodes of the parts of a tree, in order. -/
def partNodes (x : Setting) (shown : Shown) (index : Nat) (start : Extent)
    (field : Option String) : List Tree → List Node
  | [] => []
  | t :: rest =>
    let own := if t.isExtra then none else shown.shownAs? index
    let ownField := if t.isExtra then none else (shown.field? index) <|> field
    Tree.nodes x start own ownField t ++
      partNodes x shown (index + if t.isExtra then 0 else 1) (start + t.totalSize) field rest

end

/-- The tree of a text, errors and all. -/
def readNode (x : Setting) : Option Node :=
  (Reader.readTree x).bind fun t => (t.nodes x {} none none).head?

end SketchSurvey.Script.Reading
