/-!
The concrete tree of a text: every token and production that has a name or a text of its own, with
the comments among them.
-/

set_option autoImplicit false

namespace SketchSurvey.Script

inductive Node where
  /-- `field` is the part that the node plays in the one above it; `row` counts the line feeds
  before it. -/
  | mk (kind : String) (named : Bool) (missing : Bool) (hasError : Bool) (row : Nat)
      (text : String) (field : Option String) (children : List Node)
  deriving Inhabited

namespace Node

def kind : Node → String | mk k _ _ _ _ _ _ _ => k
def named : Node → Bool | mk _ n _ _ _ _ _ _ => n
def missing : Node → Bool | mk _ _ m _ _ _ _ _ => m
def hasError : Node → Bool | mk _ _ _ e _ _ _ _ => e
def row : Node → Nat | mk _ _ _ _ r _ _ _ => r
def text : Node → String | mk _ _ _ _ _ t _ _ => t
def field : Node → Option String | mk _ _ _ _ _ _ f _ => f
def children : Node → List Node | mk _ _ _ _ _ _ _ cs => cs

/-- The first line is line one. -/
def line (n : Node) : Nat := n.row + 1

/-- Comments carry no meaning. -/
def isComment (n : Node) : Bool :=
  n.kind == "comment" || n.kind == "html_comment" || n.kind == "hash_bang_line"

/-- The children with a name, without comments. -/
def parts (n : Node) : List Node := n.children.filter fun c => c.named && !c.isComment

def firstPart? (n : Node) : Option Node := n.parts.head?

/-- Whether a node plays a part in the one above it. A comment plays none. -/
def plays (n : Node) (field : String) : Bool := n.field == some field && !n.isComment

/-- The first child that plays a part. -/
def part? (n : Node) (field : String) : Option Node := n.children.find? (·.plays field)

/-- All children that play a part. -/
def partsOf (n : Node) (field : String) : List Node := n.children.filter (·.plays field)

/-- Whether the node holds a word or mark itself. -/
def hasToken (n : Node) (token : String) : Bool :=
  n.children.any fun c => !c.named && c.kind == token

theorem sizeOf_lt_of_mem {n c : Node} (h : c ∈ n.children) : sizeOf c < sizeOf n := by
  cases n with
  | mk k nm m e r t f cs =>
    have := List.sizeOf_lt_of_mem (show c ∈ cs from h)
    simp only [mk.sizeOf_spec]
    omega

theorem mem_of_mem_parts {n c : Node} (h : c ∈ n.parts) : c ∈ n.children :=
  (List.mem_filter.mp h).1

theorem mem_of_mem_partsOf {n c : Node} {f : String} (h : c ∈ n.partsOf f) : c ∈ n.children :=
  (List.mem_filter.mp h).1

theorem mem_of_firstPart? {n c : Node} (h : n.firstPart? = some c) : c ∈ n.children :=
  mem_of_mem_parts (List.mem_of_mem_head? h)

theorem mem_of_part? {n c : Node} {f : String} (h : n.part? f = some c) : c ∈ n.children :=
  List.mem_of_find?_eq_some h

end Node

end SketchSurvey.Script
