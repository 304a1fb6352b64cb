import SketchSurvey.Proofs.Script.Agreement
import SketchSurvey.Proofs.Script.TreeShape

/-! A tree that follows the grammar has the parts that lowering asks for. -/

set_option autoImplicit false

namespace SketchSurvey.Script

open Node (branch leaf word enclosed modifiers)

/-- What holds of all of a kind of nodes holds everywhere in them if they hold only such nodes. -/
theorem Node.Everywhere.of_closed {P Closed : Node → Prop}
    (closed : ∀ n, Closed n → P n ∧ ∀ c ∈ n.children, Closed c) {n : Node} (isClosed : Closed n) :
    n.Everywhere P :=
  .intro (closed n isClosed).1 fun c isChild => of_closed closed ((closed n isClosed).2 c isChild)
termination_by sizeOf n
decreasing_by exact Node.sizeOf_lt_of_mem isChild

/-- A node of this kind needs nothing below it. -/
abbrev IsFree (kind : String) : Prop := neededFields kind = [] ∧ kind ∉ fullKinds

section Lists

variable {P : Node → Prop} {Item : Node → List Token → Prop} {nodes : List Node} {ts : List Token}

/-- Between items there is nothing but commas. -/
theorem Listed.forall_mem (tree : Listed Item nodes ts)
    (free : ∀ row text, IsFree text → P (word Option.none row text)) (each : ∀ c us, Item c us → P c) :
    ∀ c ∈ nodes, P c := by
  induction tree with
  | none => exact List.forall_mem_nil _
  | last item => exact List.forall_mem_singleton.mpr (each _ _ item)
  | more item _ ih =>
      have comma (row : Nat) : P (word Option.none row ",") := free row "," (by decide)
      exact List.forall_mem_cons.mpr ⟨each _ _ item, List.forall_mem_cons.mpr ⟨comma _, ih⟩⟩

theorem Sequence.forall_mem (tree : Sequence Item nodes ts) (each : ∀ c us, Item c us → P c) :
    ∀ c ∈ nodes, P c := by
  induction tree with
  | nil => exact List.forall_mem_nil _
  | cons item _ ih => exact List.forall_mem_cons.mpr ⟨each _ _ item, ih⟩

theorem forall_mem_enclosed {bracket : Bracket} {first last : Nat}
    (free : ∀ row text, IsFree text → P (word none row text)) (inside : ∀ c ∈ nodes, P c) :
    ∀ c ∈ enclosed bracket first last nodes, P c := by
  have marks : IsFree bracket.opening ∧ IsFree bracket.closing := by
    cases bracket <;> decide
  intro c member
  simp only [enclosed, List.mem_cons, List.mem_append, List.not_mem_nil, or_false] at member
  rcases member with rfl | isInside | rfl
  · exact free _ _ marks.1
  · exact inside c isInside
  · exact free _ _ marks.2

end Lists

namespace Node

variable {kind text : String} {field : Option String} {row : Nat} {children : List Node}

theorem hasParts_of_isFree {named : Bool} (free : IsFree kind) :
    (mk kind named false false row text field children).HasParts :=
  ⟨by rw [kind_mk, free.1]; exact List.forall_mem_nil _, fun full => absurd full free.2⟩

theorem hasParts_of_fields (notFull : kind ∉ fullKinds)
    (fields : ∀ part ∈ neededFields kind, ∃ c ∈ children, c.plays part = true) :
    (branch kind field row text children).HasParts :=
  ⟨fun part needed => List.find?_isSome.mpr (fields part needed), fun full => absurd full notFull⟩

theorem hasParts_of_first {c : Node} (nothing : neededFields kind = []) (isChild : c ∈ children)
    (shown : c.isShown = true) : (branch kind field row text children).HasParts := by
  refine ⟨by rw [kind_mk, nothing]; exact List.forall_mem_nil _, fun _ => ?_⟩
  rw [firstPart?, List.isSome_head?]
  exact List.ne_nil_of_mem (List.mem_filter.mpr ⟨isChild, shown⟩)

end Node

/-- A node of a tree that follows the grammar. -/
inductive Node.Grammatical : Node → Prop where
  | free {kind named field row text} : IsFree kind →
      Node.Grammatical (.mk kind named false false row text field [])
  | expression {field n ts} : ExpressionTree field n ts → Node.Grammatical n
  | target {field n ts} : TargetTree field n ts → Node.Grammatical n
  | element {field n ts} : ElementTree field n ts → Node.Grammatical n
  | property {n ts} : PropertyTree n ts → Node.Grammatical n
  | declarator {n ts} : DeclaratorTree n ts → Node.Grammatical n
  | declaration {field n ts} : DeclarationTree field n ts → Node.Grammatical n
  | statement {field n ts} : StatementTree field n ts → Node.Grammatical n
  /-- Items in round brackets. -/
  | listed {kind field row text first last nodes ts} {Item : Node → List Token → Prop} : IsFree kind →
      (∀ c us, Item c us → Node.Grammatical c) → Listed Item nodes ts →
      Node.Grammatical (branch kind field row text (enclosed .round first last nodes))
  | body {field row text first last nodes ts} : Sequence (StatementTree none) nodes ts →
      Node.Grammatical (branch "statement_block" field row text (enclosed .curly first last nodes))
  | alternative {field row text row' n ts} : StatementTree none n ts →
      Node.Grammatical (branch "else_clause" field row text [Node.word none row' "else", n])

/-- A node has its parts, and holds nodes of a tree that follows the grammar. -/
def Node.Sound (n : Node) : Prop := n.HasParts ∧ ∀ c ∈ n.children, c.Grammatical

theorem Node.grammatical_enclosed {bracket : Bracket} {first last : Nat} {nodes : List Node}
    (inside : ∀ c ∈ nodes, c.Grammatical) : ∀ c ∈ enclosed bracket first last nodes, c.Grammatical :=
  forall_mem_enclosed (fun _ _ => .free) inside

theorem Listed.grammatical {Item : Node → List Token → Prop} {nodes : List Node} {ts : List Token}
    (tree : Listed Item nodes ts) (each : ∀ c us, Item c us → c.Grammatical) :
    ∀ c ∈ nodes, c.Grammatical :=
  tree.forall_mem (fun _ _ => .free) each

theorem Sequence.grammatical {nodes : List Node} {ts : List Token}
    (statements : Sequence (StatementTree none) nodes ts) : ∀ c ∈ nodes, c.Grammatical :=
  statements.forall_mem fun _ _ => .statement

theorem isFree_of_binaryOperator {operator : String} (known : operator ∈ binaryOperators) :
    IsFree operator := by
  have each : ∀ operator ∈ binaryOperators, IsFree operator := by decide
  exact each operator known

theorem ExpressionTree.sound {field : Option String} {n : Node} {ts : List Token}
    (tree : ExpressionTree field n ts) : n.Sound := by
  cases tree with
  | identifier | number => exact ⟨Node.hasParts_of_isFree (by decide), List.forall_mem_nil _⟩
  | parenthesized inner =>
      refine ⟨Node.hasParts_of_first rfl (.tail _ (.head _)) inner.isPart.shown, ?_⟩
      exact Node.grammatical_enclosed (List.forall_mem_singleton.mpr (.expression inner))
  | call callee arguments =>
      refine ⟨Node.hasParts_of_fields (by decide) ?_, ?_⟩
      · simp [neededFields, callee.isPart.plays]
      · simp only [Node.children_mk, List.forall_mem_cons]
        exact ⟨.expression callee, .listed (by decide) (fun _ _ => .expression) arguments, List.forall_mem_nil _⟩
  | member object _ =>
      refine ⟨Node.hasParts_of_fields (by decide) ?_, ?_⟩
      · simp [neededFields, object.isPart.plays]
      · simp only [Node.children_mk, List.forall_mem_cons]
        exact ⟨.expression object, .free (by decide), .free (by decide), List.forall_mem_nil _⟩
  | subscript object index =>
      refine ⟨Node.hasParts_of_fields (by decide) ?_, ?_⟩
      · simp [neededFields, object.isPart.plays, index.isPart.plays]
      · simp only [Node.children_mk, List.forall_mem_cons]
        exact ⟨.expression object, .free (by decide), .expression index, .free (by decide), List.forall_mem_nil _⟩
  | assignment _ left right =>
      refine ⟨Node.hasParts_of_fields (by decide) ?_, ?_⟩
      · simp [neededFields, left.isPart.plays, right.isPart.plays]
      · simp only [Node.children_mk, List.forall_mem_cons]
        exact ⟨.expression left, .free (by decide), .expression right, List.forall_mem_nil _⟩
  | binary known left right =>
      refine ⟨Node.hasParts_of_fields (by decide) ?_, ?_⟩
      · have isOperator := (Lower.operator_of_mem known 0).2
        simpa [neededFields, left.isPart.plays, right.isPart.plays] using isOperator
      · simp only [Node.children_mk, List.forall_mem_cons]
        exact ⟨.expression left, .free (isFree_of_binaryOperator known), .expression right,
          List.forall_mem_nil _⟩

theorem TargetTree.sound {field : Option String} {n : Node} {ts : List Token}
    (tree : TargetTree field n ts) : n.Sound := by
  cases tree with
  | reference _ expression => exact expression.sound
  | object properties =>
      exact ⟨Node.hasParts_of_isFree (by decide),
        Node.grammatical_enclosed (properties.grammatical fun _ _ => .property)⟩
  | array elements =>
      exact ⟨Node.hasParts_of_isFree (by decide),
        Node.grammatical_enclosed (elements.grammatical fun _ _ => .element)⟩

theorem ElementTree.sound {field : Option String} {n : Node} {ts : List Token}
    (tree : ElementTree field n ts) : n.Sound := by
  cases tree with
  | target target => exact target.sound
  | rest argument =>
      refine ⟨Node.hasParts_of_first rfl (.tail _ (.head _)) argument.isPart.shown, ?_⟩
      simp only [Node.children_mk, List.forall_mem_cons]
      exact ⟨.free (by decide), .target argument, List.forall_mem_nil _⟩
  | withDefault left _ right =>
      refine ⟨Node.hasParts_of_fields (by decide) ?_, ?_⟩
      · simp [neededFields, left.isPart.plays, right.isPart.plays]
      · simp only [Node.children_mk, List.forall_mem_cons]
        exact ⟨.element left, .free (by decide), .expression right, List.forall_mem_nil _⟩

theorem PropertyTree.sound {n : Node} {ts : List Token} (tree : PropertyTree n ts) : n.Sound := by
  cases tree with
  | pair _ value =>
      refine ⟨Node.hasParts_of_fields (by decide) ?_, ?_⟩
      · simp [neededFields, value.isPart.plays]
      · simp only [Node.children_mk, List.forall_mem_cons]
        exact ⟨.free (by decide), .free (by decide), .element value, List.forall_mem_nil _⟩
  | rest argument =>
      refine ⟨Node.hasParts_of_first rfl (.tail _ (.head _)) argument.isPart.shown, ?_⟩
      simp only [Node.children_mk, List.forall_mem_cons]
      exact ⟨.free (by decide), .target argument, List.forall_mem_nil _⟩

theorem DeclaratorTree.sound {n : Node} {ts : List Token} (tree : DeclaratorTree n ts) : n.Sound := by
  cases tree with
  | plain _ id =>
      refine ⟨Node.hasParts_of_fields (by decide) ?_, List.forall_mem_singleton.mpr (.target id)⟩
      simp [neededFields, id.isPart.plays]
  | initialized _ id value =>
      refine ⟨Node.hasParts_of_fields (by decide) ?_, ?_⟩
      · simp [neededFields, id.isPart.plays]
      · simp only [Node.children_mk, List.forall_mem_cons]
        exact ⟨.target id, .free (by decide), .expression value, List.forall_mem_nil _⟩

theorem DeclarationTree.sound {field : Option String} {n : Node} {ts : List Token}
    (tree : DeclarationTree field n ts) : n.Sound := by
  cases tree with
  | var _ declarators =>
      refine ⟨Node.hasParts_of_isFree (by decide), ?_⟩
      simp only [Node.children_mk, List.forall_mem_cons, List.forall_mem_append]
      exact ⟨.free (by decide), declarators.grammatical fun _ _ => .declarator, .free (by decide),
        List.forall_mem_nil _⟩
  | lexical isKind _ declarators =>
      have free : ∀ kind ∈ ["let", "const"], IsFree kind := by decide
      refine ⟨Node.hasParts_of_isFree (by decide), ?_⟩
      simp only [Node.children_mk, List.forall_mem_cons, List.forall_mem_append]
      exact ⟨.free (free _ isKind), declarators.grammatical fun _ _ => .declarator, .free (by decide),
        List.forall_mem_nil _⟩

section Heads

variable {nodes : List Node} {ts : List Token}

theorem InitTree.grammatical (tree : InitTree nodes ts) : ∀ c ∈ nodes, c.Grammatical := by
  cases tree with
  | none => exact List.forall_mem_singleton.mpr (.statement .empty)
  | declaration declaration => exact List.forall_mem_singleton.mpr (.declaration declaration)
  | expression e =>
      exact List.forall_mem_cons.mpr ⟨.expression e, List.forall_mem_singleton.mpr (.free (by decide))⟩

theorem TestTree.grammatical (tree : TestTree nodes ts) : ∀ c ∈ nodes, c.Grammatical := by
  cases tree with
  | none => exact List.forall_mem_singleton.mpr (.statement .empty)
  | expression e =>
      exact List.forall_mem_cons.mpr ⟨.expression e, List.forall_mem_singleton.mpr (.free (by decide))⟩

theorem UpdateTree.grammatical (tree : UpdateTree nodes ts) : ∀ c ∈ nodes, c.Grammatical := by
  cases tree with
  | none => exact List.forall_mem_nil _
  | expression e => exact List.forall_mem_singleton.mpr (.expression e)

theorem LeftTree.grammatical (tree : LeftTree nodes ts) : ∀ c ∈ nodes, c.Grammatical := by
  cases tree with
  | target target => exact List.forall_mem_singleton.mpr (.target target)
  | parenthesized e => exact List.forall_mem_singleton.mpr (.expression e)
  | declaration isKind _ target =>
      have free : ∀ kind ∈ ["var", "let", "const"], IsFree kind := by decide
      exact List.forall_mem_cons.mpr ⟨.free (free _ isKind), List.forall_mem_singleton.mpr (.target target)⟩

theorem LeftTree.plays (tree : LeftTree nodes ts) : ∃ c ∈ nodes, c.plays "left" = true := by
  cases tree with
  | target target => exact ⟨_, .head _, by simp [target.isPart.plays]⟩
  | parenthesized e => exact ⟨_, .head _, by simp [e.isPart.plays]⟩
  | declaration _ _ target => exact ⟨_, .tail _ (.head _), by simp [target.isPart.plays]⟩

theorem LabelTree.grammatical (tree : LabelTree nodes ts) : ∀ c ∈ nodes, c.Grammatical := by
  cases tree with
  | none => exact List.forall_mem_nil _
  | some => exact List.forall_mem_singleton.mpr (.free (by decide))

theorem ResultTree.grammatical (tree : ResultTree nodes ts) : ∀ c ∈ nodes, c.Grammatical := by
  cases tree with
  | none => exact List.forall_mem_nil _
  | some e => exact List.forall_mem_singleton.mpr (.expression e)

theorem grammatical_modifiers {text : String} (present : Bool) (row : Nat) (free : IsFree text) :
    ∀ c ∈ modifiers present row text, c.Grammatical := by
  cases present with
  | false => exact List.forall_mem_nil _
  | true => exact List.forall_mem_singleton.mpr (.free free)

end Heads

theorem StatementTree.sound {field : Option String} {n : Node} {ts : List Token}
    (tree : StatementTree field n ts) : n.Sound := by
  cases tree with
  | expression e =>
      refine ⟨Node.hasParts_of_first rfl (.head _) e.isPart.shown, ?_⟩
      exact List.forall_mem_cons.mpr ⟨.expression e, List.forall_mem_singleton.mpr (.free (by decide))⟩
  | declaration declaration => exact declaration.sound
  | block statements =>
      refine ⟨Node.hasParts_of_isFree (by decide), Node.grammatical_enclosed ?_⟩
      exact statements.grammatical
  | «if» condition consequence =>
      refine ⟨Node.hasParts_of_fields (by decide) ?_, ?_⟩
      · simp [neededFields, condition.isPart.plays, consequence.isPart.plays]
      · simp only [Node.children_mk, List.forall_mem_cons]
        exact ⟨.free (by decide), .expression condition, .statement consequence, List.forall_mem_nil _⟩
  | ifElse condition consequence alternative =>
      refine ⟨Node.hasParts_of_fields (by decide) ?_, ?_⟩
      · simp [neededFields, condition.isPart.plays, consequence.isPart.plays]
      · simp only [Node.children_mk, List.forall_mem_cons]
        exact ⟨.free (by decide), .expression condition, .statement consequence,
          .alternative alternative, List.forall_mem_nil _⟩
  | «while» condition body =>
      refine ⟨Node.hasParts_of_fields (by decide) ?_, ?_⟩
      · simp [neededFields, condition.isPart.plays, body.isPart.plays]
      · simp only [Node.children_mk, List.forall_mem_cons]
        exact ⟨.free (by decide), .expression condition, .statement body, List.forall_mem_nil _⟩
  | «do» body condition =>
      refine ⟨Node.hasParts_of_fields (by decide) ?_, ?_⟩
      · simp [neededFields, condition.isPart.plays, body.isPart.plays]
      · simp only [Node.children_mk, List.forall_mem_cons]
        exact ⟨.free (by decide), .statement body, .free (by decide), .expression condition,
          .free (by decide), List.forall_mem_nil _⟩
  | «for» init test update body =>
      refine ⟨Node.hasParts_of_fields (by decide) ?_, ?_⟩
      · simp [neededFields, body.isPart.plays, or_and_right, exists_or]
      · simp only [Node.children_mk, List.forall_mem_cons, List.forall_mem_append]
        exact ⟨.free (by decide), .free (by decide), init.grammatical, test.grammatical,
          update.grammatical, .free (by decide), .statement body, List.forall_mem_nil _⟩
  | forIn left isOperator right body =>
      have free : ∀ operator ∈ ["in", "of"], IsFree operator := by decide
      refine ⟨Node.hasParts_of_fields (by decide) ?_, ?_⟩
      · simpa [neededFields, right.isPart.plays, body.isPart.plays, or_and_right, exists_or] using left.plays
      · simp only [Node.children_mk, List.forall_mem_cons, List.forall_mem_append]
        exact ⟨.free (by decide), .free (by decide), left.grammatical, .free (free _ isOperator),
          .expression right, .free (by decide), .statement body, List.forall_mem_nil _⟩
  | labeled _ body =>
      refine ⟨Node.hasParts_of_fields (by decide) ?_, ?_⟩
      · simp [neededFields, body.isPart.plays]
      · simp only [Node.children_mk, List.forall_mem_cons]
        exact ⟨.free (by decide), .free (by decide), .statement body, List.forall_mem_nil _⟩
  | «return» result =>
      refine ⟨Node.hasParts_of_isFree (by decide), ?_⟩
      simp only [Node.children_mk, List.forall_mem_cons, List.forall_mem_append]
      exact ⟨.free (by decide), result.grammatical, .free (by decide), List.forall_mem_nil _⟩
  | «break» label | «continue» label =>
      refine ⟨Node.hasParts_of_isFree (by decide), ?_⟩
      simp only [Node.children_mk, List.forall_mem_cons, List.forall_mem_append]
      exact ⟨.free (by decide), label.grammatical, .free (by decide), List.forall_mem_nil _⟩
  | empty =>
      exact ⟨Node.hasParts_of_isFree (by decide), List.forall_mem_singleton.mpr (.free (by decide))⟩
  | @function _ _ _ isAsync _ _ isGenerator _ _ _ _ _ _ _ _ _ _ _ _ _ _ _ _ params body =>
      have kinds : functionKind isGenerator ∉ fullKinds ∧
          neededFields (functionKind isGenerator) = ["body"] := by
        cases isGenerator <;> decide
      refine ⟨Node.hasParts_of_fields kinds.1 ?_, ?_⟩
      · simp [kinds.2, or_and_right, exists_or]
      · simp only [Node.children_mk, List.forall_mem_cons, List.forall_mem_append]
        exact ⟨grammatical_modifiers _ _ (by decide), .free (by decide),
          grammatical_modifiers _ _ (by decide), .free (by decide),
          .listed (by decide) (fun _ _ => .element) params, .body body, List.forall_mem_nil _⟩

theorem Node.Grammatical.sound {n : Node} (grammatical : n.Grammatical) : n.Sound := by
  cases grammatical with
  | free free => exact ⟨Node.hasParts_of_isFree free, List.forall_mem_nil _⟩
  | expression tree => exact tree.sound
  | target tree => exact tree.sound
  | element tree => exact tree.sound
  | property tree => exact tree.sound
  | declarator tree => exact tree.sound
  | declaration tree => exact tree.sound
  | statement tree => exact tree.sound
  | listed free each items =>
      exact ⟨Node.hasParts_of_isFree free, Node.grammatical_enclosed (items.grammatical each)⟩
  | body statements =>
      exact ⟨Node.hasParts_of_isFree (by decide), Node.grammatical_enclosed statements.grammatical⟩
  | alternative statement =>
      refine ⟨Node.hasParts_of_first rfl (.tail _ (.head _)) statement.isPart.shown, ?_⟩
      exact List.forall_mem_cons.mpr ⟨.free (by decide), List.forall_mem_singleton.mpr (.statement statement)⟩

/-- The tree of a program lacks nothing that lowering asks for. -/
theorem ProgramTree.hasParts {root : Node} {ts : List Token} (tree : ProgramTree root ts) :
    root.Everywhere Node.HasParts := by
  cases tree with
  | program statements =>
      refine .intro (Node.hasParts_of_isFree (by decide)) fun c isChild => ?_
      exact .of_closed (fun _ => Node.Grammatical.sound) (statements.grammatical c isChild)

end SketchSurvey.Script
