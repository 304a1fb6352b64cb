import Mathlib.Data.List.Forall2
import SketchSurvey.Proofs.Script.Alike
import SketchSurvey.Proofs.Script.WellFormed

/-! Concrete trees that differ in comments only. Comments may stand between any two children of a node, so
everything that lowering looks up among the children is told here of those that are no comments. -/

set_option autoImplicit false

namespace SketchSurvey.Script

section Related

variable {α β γ δ : Type} {R : α → β → Prop} {S : γ → δ → Prop}

theorem rel_head? {xs : List α} {ys : List β} (related : List.Forall₂ R xs ys) :
    Option.Rel R xs.head? ys.head? := by
  cases related with
  | nil => exact .none
  | cons first _ => exact .some first

theorem any_eq {xs : List α} {ys : List β} {p : α → Bool} {q : β → Bool}
    (related : List.Forall₂ R xs ys) (agree : ∀ {a b}, R a b → p a = q b) : xs.any p = ys.any q := by
  induction related with
  | nil => rfl
  | cons first _ ih => rw [List.any_cons, List.any_cons, ih, agree first]

theorem findSome?_eq {xs : List α} {ys : List β} {f : α → Option γ} {g : β → Option γ}
    (related : List.Forall₂ R xs ys) (agree : ∀ {a b}, R a b → f a = g b) :
    xs.findSome? f = ys.findSome? g := by
  induction related with
  | nil => rfl
  | cons first _ ih => rw [List.findSome?_cons, List.findSome?_cons, ih, agree first]

theorem map_eq_of_rel {x : Option α} {y : Option β} {f : α → γ} {g : β → γ} (related : Option.Rel R x y)
    (agree : ∀ a ∈ x, ∀ b ∈ y, R a b → f a = g b) : x.map f = y.map g := by
  cases related with
  | none => rfl
  | some related => exact congrArg some (agree _ rfl _ rfl related)

theorem rel_bind {x : Option α} {y : Option β} {f : α → Option γ} {g : β → Option δ}
    (related : Option.Rel R x y) (maps : ∀ {a b}, R a b → Option.Rel S (f a) (g b)) :
    Option.Rel S (x.bind f) (y.bind g) := by
  cases related with
  | none => exact .none
  | some related => exact maps related

theorem rel_toList {x : Option α} {y : Option β} (related : Option.Rel R x y) :
    List.Forall₂ R x.toList y.toList := by
  cases related with
  | none => exact .nil
  | some related => exact .cons related .nil

end Related

namespace Node

/-- The children other than comments. -/
def kept (n : Node) : List Node := n.children.filter (!·.isComment)

theorem mem_of_mem_kept {n c : Node} (member : c ∈ n.kept) : c ∈ n.children :=
  (List.mem_filter.mp member).1

theorem parts_eq_kept (n : Node) : n.parts = n.kept.filter (·.named) := by
  simp [parts, kept, List.filter_filter]

theorem partsOf_eq_kept (n : Node) (field : String) :
    n.partsOf field = n.kept.filter (·.field == some field) := by
  simp [partsOf, plays, kept, List.filter_filter]

theorem part?_eq_head? (n : Node) (field : String) : n.part? field = (n.partsOf field).head? := by
  simp [part?, partsOf, List.head?_filter]

/-- The kinds of nodes that carry no meaning. -/
def commentKinds : List String := ["comment", "html_comment", "hash_bang_line"]

theorem isComment_iff {n : Node} : n.isComment = true ↔ n.kind ∈ commentKinds := by
  simp [isComment, commentKinds, or_assoc]

theorem findSome?_kept {β : Type} {f : Node → Option β} (n : Node)
    (skips : ∀ c : Node, c.isComment = true → f c = none) :
    n.children.findSome? f = n.kept.findSome? f := by
  rw [kept]
  induction n.children with
  | nil => rfl
  | cons c rest ih =>
      cases isComment : c.isComment with
      | true =>
          rw [List.findSome?_cons, skips c isComment, List.filter_cons_of_neg (by simp [isComment]), ih]
      | false =>
          rw [List.filter_cons_of_pos (by simp [isComment]), List.findSome?_cons, List.findSome?_cons, ih]

/-- A child of a kind that no comment has is found among the others. -/
theorem any_kept {p : Node → Bool} (n : Node) {kind : String} (other : kind ∉ commentKinds)
    (isKind : ∀ c : Node, p c = true → c.kind = kind) : n.children.any p = n.kept.any p := by
  rw [kept, List.any_filter]
  congr 1
  funext c
  cases found : p c with
  | false => rw [Bool.and_false]
  | true =>
      have notComment : c.isComment = false := by
        rw [Bool.eq_false_iff, ne_eq, isComment_iff, isKind c found]
        exact other
      rw [notComment]
      rfl

theorem hasToken_eq_kept (n : Node) {token : String} (other : token ∉ commentKinds) :
    n.hasToken token = n.kept.any fun c => !c.named && c.kind == token :=
  n.any_kept other fun c found => by
    rw [Bool.and_eq_true, beq_iff_eq] at found
    exact found.2

/-- What two nodes that correspond have in common, whatever comments are inside. -/
structure SameHead (n n' : Node) : Prop where
  kind : n.kind = n'.kind
  named : n.named = n'.named
  missing : n.missing = n'.missing
  hasError : n.hasError = n'.hasError
  row : n.row = n'.row
  field : n.field = n'.field

/-- Trees of which the children other than comments correspond one to one, and so on below. `P` holds of
each two nodes that correspond. -/
inductive Matched (P : Node → Node → Prop) : Node → Node → Prop where
  | intro {n n'} : n.SameHead n' → P n n' → List.Forall₂ (Matched P) n.kept n'.kept → Matched P n n'

/-- Nodes of which the children other than comments correspond. -/
abbrev MatchedBelow (P : Node → Node → Prop) (n n' : Node) : Prop :=
  List.Forall₂ (Matched P) n.kept n'.kept

namespace Matched

variable {P Q : Node → Node → Prop} {n n' : Node}

theorem head (matched : n.Matched P n') : n.SameHead n' := by
  cases matched with
  | intro head _ _ => exact head

theorem own (matched : n.Matched P n') : P n n' := by
  cases matched with
  | intro _ own _ => exact own

theorem kept (matched : n.Matched P n') : n.MatchedBelow P n' := by
  cases matched with
  | intro _ _ below => exact below

/-- What follows of two nodes once it holds of all that are below them holds everywhere. -/
theorem rise (step : ∀ {n n'}, n.SameHead n' → P n n' → n.MatchedBelow Q n' → Q n n') :
    ∀ {n n' : Node}, n.Matched P n' → n.Matched Q n'
  | n, n', matched => by
    have below : n.MatchedBelow Q n' := by
      rw [MatchedBelow, List.forall₂_iff_zip]
      refine ⟨matched.kept.length_eq, ?_⟩
      intro c c' pair
      have smaller : sizeOf c < sizeOf n :=
        sizeOf_lt_of_mem (mem_of_mem_kept (List.of_mem_zip pair).1)
      exact rise step (List.forall₂_zip matched.kept pair)
    exact .intro matched.head (step matched.head matched.own below) below
termination_by n => sizeOf n

/-- What two nodes hand on to those that correspond below them holds everywhere. -/
theorem sink (down : ∀ {n n' c c'}, Q n n' → (c, c') ∈ n.kept.zip n'.kept → Q c c') :
    ∀ {n n' : Node}, n.Matched P n' → Q n n' → n.Matched (fun c c' => Q c c' ∧ P c c') n'
  | n, n', matched, holds => by
    refine .intro matched.head ⟨holds, matched.own⟩ ?_
    rw [List.forall₂_iff_zip]
    refine ⟨matched.kept.length_eq, ?_⟩
    intro c c' pair
    have smaller : sizeOf c < sizeOf n :=
      sizeOf_lt_of_mem (mem_of_mem_kept (List.of_mem_zip pair).1)
    exact sink down (List.forall₂_zip matched.kept pair) (down holds pair)
termination_by n => sizeOf n

theorem mono (implies : ∀ {n n'}, P n n' → Q n n') (matched : n.Matched P n') : n.Matched Q n' :=
  rise (fun _ own _ => implies own) matched

theorem mk {kind text text' : String} {named missing hasError : Bool} {row : Nat}
    {field : Option String} {children children' : List Node}
    (own : P (.mk kind named missing hasError row text field children)
      (.mk kind named missing hasError row text' field children'))
    (kept : List.Forall₂ (Matched P) (children.filter (!·.isComment)) (children'.filter (!·.isComment))) :
    Matched P (.mk kind named missing hasError row text field children)
      (.mk kind named missing hasError row text' field children') :=
  .intro ⟨rfl, rfl, rfl, rfl, rfl, rfl⟩ own kept

end Matched

theorem forall₂_filter {P : Node → Node → Prop} {xs ys : List Node} {p : Node → Bool}
    (agree : ∀ {c c' : Node}, c.SameHead c' → p c = p c') (matched : List.Forall₂ (Matched P) xs ys) :
    List.Forall₂ (Matched P) (xs.filter p) (ys.filter p) :=
  List.rel_filter (fun _ _ matched => by simp only [agree matched.head]) matched

theorem rel_filter {P : Node → Node → Prop} {x y : Option Node} {p : Node → Bool}
    (agree : ∀ {c c' : Node}, c.SameHead c' → p c = p c') (matched : Option.Rel (Matched P) x y) :
    Option.Rel (Matched P) (x.filter p) (y.filter p) := by
  cases matched with
  | none => exact .none
  | some matched =>
      rw [Option.filter_some, Option.filter_some, agree matched.head]
      split
      · exact .some matched
      · exact .none

namespace MatchedBelow

variable {P : Node → Node → Prop} {n n' : Node}

theorem parts (below : n.MatchedBelow P n') : List.Forall₂ (Matched P) n.parts n'.parts := by
  rw [parts_eq_kept, parts_eq_kept]
  exact forall₂_filter SameHead.named below

theorem partsOf (below : n.MatchedBelow P n') (field : String) :
    List.Forall₂ (Matched P) (n.partsOf field) (n'.partsOf field) := by
  rw [partsOf_eq_kept, partsOf_eq_kept]
  exact forall₂_filter (fun head => by rw [head.field]) below

theorem part? (below : n.MatchedBelow P n') (field : String) :
    Option.Rel (Matched P) (n.part? field) (n'.part? field) := by
  rw [part?_eq_head?, part?_eq_head?]
  exact rel_head? (below.partsOf field)

theorem any_kind (below : n.MatchedBelow P n') (field kind : String) :
    ((n.part? field).any fun c => c.kind == kind) = (n'.part? field).any fun c => c.kind == kind := by
  have related := below.part? field
  generalize n.part? field = x, n'.part? field = y at related
  cases related with
  | none => rfl
  | some matched => simp only [Option.any_some, matched.head.kind]

theorem isSome_part? (below : n.MatchedBelow P n') (field : String) :
    (n.part? field).isSome = (n'.part? field).isSome := by
  have related := below.part? field
  generalize n.part? field = x, n'.part? field = y at related
  cases related <;> rfl

theorem isNone_part? (below : n.MatchedBelow P n') (field : String) :
    (n.part? field).isNone = (n'.part? field).isNone := by
  rw [← Option.not_isSome, ← Option.not_isSome, below.isSome_part? field]

theorem firstPart? (below : n.MatchedBelow P n') :
    Option.Rel (Matched P) n.firstPart? n'.firstPart? :=
  rel_head? below.parts

theorem hasToken (below : n.MatchedBelow P n') {token : String} (other : token ∉ commentKinds) :
    n.hasToken token = n'.hasToken token := by
  rw [hasToken_eq_kept n other, hasToken_eq_kept n' other]
  exact any_eq below fun matched => by rw [matched.head.named, matched.head.kind]

end MatchedBelow

/-- Nodes that stand at the same place of two trees, comments not counted. -/
inductive Corresponds (n n' : Node) : Node → Node → Prop where
  | root : Corresponds n n' n n'
  | inside {d d' c c'} : Corresponds n n' d d' → (c, c') ∈ d.kept.zip d'.kept → Corresponds n n' c c'

/-- Trees that differ in comments only. Leaves keep their text; another node may have another text where
its children are others. -/
def Recommented : Node → Node → Prop :=
  Matched fun c c' => c.children = c'.children → c.text = c'.text

theorem Recommented.refl (n : Node) : n.Recommented n := by
  refine .intro ⟨rfl, rfl, rfl, rfl, rfl, rfl⟩ (fun _ => rfl) (List.forall₂_same.mpr ?_)
  intro c member
  have smaller : sizeOf c < sizeOf n := sizeOf_lt_of_mem (mem_of_mem_kept member)
  exact refl c
termination_by sizeOf n

/-- A comment is taken out, or put in, and the text is another one. -/
theorem Recommented.without {kind text text' : String} {named missing hasError : Bool} {row : Nat}
    {field : Option String} (before after : List Node) {c : Node} (isComment : c.isComment = true) :
    Recommented (.mk kind named missing hasError row text field (before ++ c :: after))
      (.mk kind named missing hasError row text' field (before ++ after)) := by
  refine .mk (fun same => absurd (congrArg List.length same) (by simp [children])) ?_
  rw [List.filter_append, List.filter_cons_of_neg (by simp [isComment]), ← List.filter_append]
  exact List.forall₂_same.mpr fun d _ => refl d

/-- The kinds of nodes that are single tokens. -/
def tokenKinds : List String :=
  ["identifier", "undefined", "property_identifier", "private_property_identifier",
    "statement_identifier", "shorthand_property_identifier_pattern", "number", "true", "false", "null"]

/-- The parts of nodes that are single tokens, some of them without a name. -/
def tokenParts : List (String × String) :=
  [("assignment_expression", "operator"), ("augmented_assignment_expression", "operator"),
    ("binary_expression", "operator"), ("member_expression", "property"),
    ("function_declaration", "name"), ("generator_function_declaration", "name"),
    ("labeled_statement", "label"), ("break_statement", "label"), ("continue_statement", "label")]

/-- What the grammar says of single tokens: they have no children, so no comment stands inside. -/
structure SpellsTokens (n : Node) : Prop where
  own : n.kind ∈ tokenKinds → n.children = []
  parts : ∀ part, (n.kind, part) ∈ tokenParts → ∀ c ∈ n.part? part, c.children = []

theorem spellsTokens_of_other {n : Node} (notToken : n.kind ∉ tokenKinds)
    (noParts : n.kind ∉ tokenParts.map Prod.fst) : n.SpellsTokens where
  own isToken := absurd isToken notToken
  parts _ known := absurd (List.mem_map_of_mem known) noParts

/-- The same text, or those of two nodes that correspond, of a kind, with other comments inside. -/
inductive Respelled (n n' : Node) (ofKind : String → Prop) : String → String → Prop where
  | same {text} : Respelled n n' ofKind text text
  | recommented {c c'} : n.Corresponds n' c c' → ofKind c.kind → c.children ≠ c'.children →
      Respelled n n' ofKind c.text c'.text

/-- What putting in and taking out comments does to the texts that a program keeps: single tokens stay. -/
def respelling (n n' : Node) : Spelling where
  literal := n.Respelled n' (· ∈ ["string", "regex"])
  key := n.Respelled n' (· ∉ tokenKinds)

/-- What two nodes that correspond say of the texts that programs keep. -/
structure Spells (k : Spelling) (n n' : Node) : Prop where
  token : n.kind ∈ tokenKinds → n.text = n'.text
  literal : Lower.isLiteral n.kind = true → k.literal n.text n'.text
  key : k.key n.text n'.text
  part : ∀ part, (n.kind, part) ∈ tokenParts →
    (n.part? part).map Node.text = (n'.part? part).map Node.text

/-- A literal that is no single token is a text or a regular expression. -/
theorem mem_of_isLiteral {kind : String} (isLiteral : Lower.isLiteral kind = true)
    (notToken : kind ∉ tokenKinds) : kind ∈ ["string", "regex"] := by
  simp only [Lower.isLiteral, List.contains_iff_mem, List.mem_cons, List.not_mem_nil, or_false,
    tokenKinds, not_or] at *
  grind

/-- What is known of two nodes that stand at the same place of two trees. -/
structure Located (n n' c c' : Node) : Prop where
  same : c.Recommented c'
  place : n.Corresponds n' c c'
  tokens : c.Everywhere SpellsTokens
  tokens' : c'.Everywhere SpellsTokens

namespace Located

variable {n n' c c' d d' : Node}

theorem inside (located : Located n n' d d') (pair : (c, c') ∈ d.kept.zip d'.kept) :
    Located n n' c c' where
  same := List.forall₂_zip located.same.kept pair
  place := .inside located.place pair
  tokens := located.tokens.child (mem_of_mem_kept (List.of_mem_zip pair).1)
  tokens' := located.tokens'.child (mem_of_mem_kept (List.of_mem_zip pair).2)

theorem respelled (located : Located n n' c c') {ofKind : String → Prop}
    (isKind : c.kind ∉ tokenKinds → ofKind c.kind) : n.Respelled n' ofKind c.text c'.text := by
  by_cases unchanged : c.children = c'.children
  · rw [located.same.own unchanged]
    exact .same
  · refine .recommented located.place (isKind fun isToken => unchanged ?_) unchanged
    rw [located.tokens.own.own isToken,
      located.tokens'.own.own (located.same.head.kind ▸ isToken)]

theorem spells (located : Located n n' c c') : c.Spells (n.respelling n') c' where
  token isToken := by
    have isToken' : c'.kind ∈ tokenKinds := located.same.head.kind ▸ isToken
    exact located.same.own
      ((located.tokens.own.own isToken).trans (located.tokens'.own.own isToken').symm)
  literal isLiteral := located.respelled (mem_of_isLiteral isLiteral)
  key := located.respelled id
  part part known := by
    have known' : (c'.kind, part) ∈ tokenParts := located.same.head.kind ▸ known
    refine map_eq_of_rel (MatchedBelow.part? located.same.kept part) ?_
    intro d isPart d' isPart' same
    exact same.own ((located.tokens.own.parts part known d isPart).trans
      (located.tokens'.own.parts part known' d' isPart').symm)

end Located

/-- Trees that differ in comments only say the same but for what is no single token. -/
theorem Recommented.spells {n n' : Node} (same : n.Recommented n') (tokens : n.Everywhere SpellsTokens)
    (tokens' : n'.Everywhere SpellsTokens) : n.Matched (Spells (n.respelling n')) n' :=
  (same.sink Located.inside ⟨same, .root, tokens, tokens'⟩).mono fun known => known.1.spells

end Node

end SketchSurvey.Script
