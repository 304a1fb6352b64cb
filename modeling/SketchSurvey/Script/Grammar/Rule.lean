import SketchSurvey.Script.Grammar.CharSet

/-!
The language in which the script grammar is written: token shapes, and rules over tokens and
named productions with ranks, directions, labels and names for parts.
-/

set_option autoImplicit false

namespace SketchSurvey.Script.Grammar

/-- The texts of a token. -/
inductive Shape where
  | empty
  | chars (set : CharSet)
  | seq (first second : Shape)
  | either (first second : Shape)
  | many1 (body : Shape)
  deriving BEq, Hashable, Repr

namespace Shape

def ofChars : List Char → Shape
  | [] => .empty
  | [c] => .chars (.single c)
  | c :: rest => .seq (.chars (.single c)) (ofChars rest)

/-- One text, letter by letter. -/
def text (s : String) : Shape := ofChars s.toList

instance : Coe String Shape := ⟨text⟩

instance : Coe CharSet Shape := ⟨chars⟩

def all : List Shape → Shape
  | [] => .empty
  | [s] => s
  | s :: rest => .seq s (all rest)

def oneOf : List Shape → Shape
  | [] => .empty
  | [s] => s
  | s :: rest => .either s (oneOf rest)

def opt (s : Shape) : Shape := .either s .empty

def many (s : Shape) : Shape := .opt (.many1 s)

/-- At most `n` further repetitions. -/
def upTo : Nat → Shape → Shape
  | 0, _ => .empty
  | n + 1, s => .opt (.seq s (upTo n s))

def exactly : Nat → Shape → Shape
  | 0, _ => .empty
  | 1, s => s
  | n + 1, s => .seq s (exactly n s)

end Shape

/-- What a token matches: one fixed text, or the texts of a shape. -/
inductive TokenBody where
  | text (s : String)
  | shape (s : Shape)
  deriving BEq, Hashable, Repr

namespace TokenBody

def toShape : TokenBody → Shape
  | .text s => .text s
  | .shape s => s

end TokenBody

/-- A token. An immediate token takes no space before it. -/
structure TokenRule where
  body : TokenBody
  rank : Int := 0
  immediate : Bool := false
  deriving BEq, Hashable, Repr

/-- How tightly a rule binds: by number, or by a name that the grammar puts into an order. -/
inductive Rank where
  | unset
  | number (n : Int)
  | named (name : String)
  deriving BEq, Hashable, Repr

/-- Which way a rule of equal rank groups. -/
inductive Direction where
  | left
  | right
  deriving BEq, Hashable, Repr

/-- The name that a part shows in place of its own. -/
structure Alias where
  name : String
  named : Bool := true
  deriving BEq, Hashable, Repr

/-- The right side of a production. -/
inductive Rule where
  | blank
  | symbol (name : String)
  | token (rule : TokenRule)
  | seq (first second : Rule)
  | either (first second : Rule)
  | many1 (body : Rule)
  | ranked (rank : Rank) (direction : Option Direction) (body : Rule)
  | weighted (weight : Int) (body : Rule)
  | aliased (as : Alias) (body : Rule)
  | field (name : String) (body : Rule)
  | unreserved (body : Rule)
  deriving BEq, Hashable, Repr

namespace Rule

instance : Coe String Rule := ⟨fun s => .token { body := .text s }⟩

def all : List Rule → Rule
  | [] => .blank
  | [r] => r
  | r :: rest => .seq r (all rest)

def oneOf : List Rule → Rule
  | [] => .blank
  | [r] => r
  | r :: rest => .either r (oneOf rest)

/-- Groups to the left among its equals. -/
def leftOf (rank : Rank) (parts : List Rule) : Rule := .ranked rank (some .left) (all parts)

/-- Groups to the right among its equals. -/
def rightOf (rank : Rank) (parts : List Rule) : Rule := .ranked rank (some .right) (all parts)

def bound (rank : Rank) (parts : List Rule) : Rule := .ranked rank none (all parts)

def opt (r : Rule) : Rule := .either r .blank

def many (r : Rule) : Rule := .opt (.many1 r)

/-- One or more, divided by commas. -/
def commaList1 (r : Rule) : Rule := .seq r (many (.seq "," r))

def commaList (r : Rule) : Rule := opt (commaList1 r)

def shape (s : Shape) : Rule := .token { body := .shape s }

def immediate (s : Shape) : Rule := .token { body := .shape s, immediate := true }

/-- An immediate token that is preferred by its rank. -/
def immediateRanked (rank : Int) (s : Shape) : Rule :=
  .token { body := .shape s, rank, immediate := true }

end Rule

/-- How a production appears in the tree: as a node, or as the parts it stands for. -/
inductive Visibility where
  | visible
  | hidden
  deriving BEq, Repr

/-- A grammar: its productions in order, its tokens without a rule, and the order of its ranks. -/
structure Definition where
  /-- Productions in order; the first is the whole text. -/
  rules : List (String × Rule)
  /-- Tokens found by hand-written scanners, in the order in which these are asked for them. Some
  also have a rule. -/
  scanned : List Rule
  /-- Tokens that may stand anywhere. -/
  extras : List String
  /-- What may stand between tokens without being one. -/
  separator : CharSet
  /-- Productions that are only names for their alternatives. -/
  inlined : List String
  /-- Hidden productions that group others. -/
  groups : List String
  /-- The token that words match. -/
  word : String
  /-- Words that are no names. -/
  reserved : List String
  /-- Lists of ranks, each from the tightest on; an entry is a rank's name or a production's. -/
  ranks : List (List (String ⊕ String))

end SketchSurvey.Script.Grammar
