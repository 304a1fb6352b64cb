import SketchSurvey.Script.Automaton.Table
import SketchSurvey.Script.Reading.Source

/-!
Trees as they are built up: every symbol taken is a leaf, every reduction a node. A tree knows how
costly the errors in it are.
-/

set_option autoImplicit false

namespace SketchSurvey.Script.Reading

open SketchSurvey.Script.Automaton SketchSurvey.Script.Grammar

/-- What is kept of a tree besides its parts. -/
structure TreeInfo where
  symbol : Nat
  /-- The space before it. -/
  padding : Extent := {}
  size : Extent := {}
  /-- Stands outside the grammar's productions. -/
  extra : Bool := false
  /-- A token that the text lacks. -/
  missing : Bool := false
  /-- A word that is a token of its own. -/
  keyword : Bool := false
  shown : Nat := 0
  errorCost : Nat := 0
  /-- How many parts appear in the tree, those of hidden parts included. -/
  visibleParts : Nat := 0
  visibleDescendants : Nat := 0
  weight : Int := 0
  deriving Inhabited

inductive Tree where
  | node (info : TreeInfo) (parts : List Tree)
  deriving Inhabited

namespace Cost

/-- Every place where recovery took over. -/
def recovery : Nat := 500
def missing : Nat := 110
def skippedPart : Nat := 100
def skippedByte : Nat := 1
def skippedLine : Nat := 30

end Cost

namespace Tree

def info : Tree → TreeInfo
  | node i _ => i

def parts : Tree → List Tree
  | node _ ps => ps

def symbol (t : Tree) : Nat := t.info.symbol

def isExtra (t : Tree) : Bool := t.info.extra

def setExtra (extra : Bool) : Tree → Tree
  | node i ps => node { i with extra } ps

def totalSize (t : Tree) : Extent := t.info.padding + t.info.size

def errorCost (t : Tree) : Nat :=
  if t.info.missing then Cost.missing + Cost.recovery else t.info.errorCost

/-- The symbol of the first leaf. -/
def leafSymbol : Tree → Nat
  | node i [] => i.symbol
  | node _ (p :: _) => p.leafSymbol

def isError (table : Table) (t : Tree) : Bool := t.symbol == table.errorSymbol

/-- How many nodes that appear a tree holds; pieces of an error count too. -/
def progress (table : Table) (t : Tree) : Nat :=
  t.info.visibleDescendants + (if table.isVisible t.symbol then 1 else 0) +
    (if t.symbol == table.errorPartSymbol then 1 else 0)

def leaf (symbol : Nat) (padding size : Extent) (extra keyword : Bool) : Tree :=
  node { symbol, padding, size, extra, keyword } []

def missingLeaf (symbol : Nat) : Tree := node { symbol, missing := true } []

/-- What one part adds to the node above it. -/
structure Summary where
  index : Nat := 0
  errorCost : Nat := 0
  visibleParts : Nat := 0
  visibleDescendants : Nat := 0
  weight : Int := 0

def Summary.add (table : Table) (shown : Shown) (inError : Bool) (s : Summary) (p : Tree) :
    Summary :=
  let skipped :=
    if inError && !p.isExtra && !(p.isError table && p.parts.isEmpty) then
      if table.isVisible p.symbol then Cost.skippedPart
      else Cost.skippedPart * p.info.visibleParts
    else 0
  let own := if p.symbol == table.errorPartSymbol then 0 else p.errorCost
  let shownByName :=
    !p.isExtra && p.symbol != table.endSymbol && (shown.shownAs? s.index).isSome
  let counts := shownByName || table.isVisible p.symbol
  { index := s.index + if p.isExtra then 0 else 1
    errorCost := s.errorCost + own + skipped
    visibleParts := s.visibleParts + if counts then 1 else p.info.visibleParts
    visibleDescendants :=
      s.visibleDescendants + p.info.visibleDescendants + if counts then 1 else 0
    weight := s.weight + p.info.weight }

/-- Puts parts together under a symbol. -/
def make (table : Table) (symbol : Nat) (parts : List Tree) (shown : Nat) (weight : Int := 0)
    (extra : Bool := false) : Tree :=
  let inError := symbol == table.errorSymbol || symbol == table.errorPartSymbol
  let info := table.shown.getD shown {}
  let s := parts.foldl (Summary.add table info inError) {}
  let padding := (parts.head?.map (·.info.padding)).getD {}
  let size := match parts with
    | [] => {}
    | p :: rest => rest.foldl (fun e q => e + q.totalSize) p.info.size
  let own := if inError then
      Cost.recovery + Cost.skippedByte * size.bytes + Cost.skippedLine * size.rows
    else 0
  node {
    symbol, padding, size, extra, shown
    errorCost := s.errorCost + own
    visibleParts := s.visibleParts
    visibleDescendants := s.visibleDescendants
    weight := s.weight + weight } parts

/-- Splits off the parts at the end that stand outside the grammar. -/
def trailingExtras (parts : List Tree) : List Tree × List Tree :=
  let back := parts.reverse
  ((back.dropWhile isExtra).reverse, (back.takeWhile isExtra).reverse)

mutual

/-- The order in which trees for one text are preferred when nothing else decides. -/
def order (table : Table) : Tree → Tree → Ordering
  | node i ps, node j qs =>
    ((compare (table.order? i.symbol) (table.order? j.symbol)).then
      (compare ps.length qs.length)).then (orderAll table ps qs)

def orderAll (table : Table) : List Tree → List Tree → Ordering
  | p :: ps, q :: qs => (order table p q).then (orderAll table ps qs)
  | _, _ => .eq

end

/-- Whether the second of two trees for one text is taken instead of the first. -/
def isBetter (table : Table) (left right : Tree) : Bool :=
  if right.errorCost < left.errorCost then true
  else if left.errorCost < right.errorCost then false
  else if right.info.weight > left.info.weight then true
  else if left.info.weight > right.info.weight then false
  else if left.errorCost > 0 then true
  else order table left right == .gt

end Tree

end SketchSurvey.Script.Reading
