import SketchSurvey.Analysis.MemberReferences

/-! The members of a namespace that a script names, said without a collector: those that are taken
from the namespace at a place that is looked into. Which places these are depends on the namespace in
one point only: behind a member that is taken from it nothing is looked for. -/

set_option autoImplicit false

namespace SketchSurvey.Script

/-- A member that is taken from a name, after a dot. -/
def Expr.memberOfName (space name : String) : Expr :=
  .member (.expr (.identifier space)) (.name name)

/-- In an expression another one stands at a place that is looked into: the expression itself, the right
side of an assignment and its left side if that is a member, both sides of an operator, what is called,
its arguments unless they are spread, and what has a member unless that is a member of the namespace. -/
inductive Expr.Covers (space : String) : Expr → Expr → Prop where
  | itself {e} : Covers space e e
  | assigned {operator left right e} :
      Covers space right e → Covers space (.assign operator left right) e
  | target {operator object property right e} :
      Covers space (.member object property) e →
      Covers space (.assign operator (.target (.member object property)) right) e
  | leftOperand {operator left right e} :
      Covers space left e → Covers space (.binary operator left right) e
  | rightOperand {operator left right e} :
      Covers space right e → Covers space (.binary operator left right) e
  | callee {callee arguments e} :
      Covers space callee e → Covers space (.call (.expr callee) arguments) e
  | argument {callee arguments argument e} :
      .expr argument ∈ arguments → Covers space argument e → Covers space (.call callee arguments) e
  | object {object property e} :
      (∀ name, .member (.expr object) property ≠ memberOfName space name) →
      Covers space object e → Covers space (.member (.expr object) property) e

/-- In a statement an expression stands at a place that is looked into: as a statement of its own, after
a `return`, as the first value of a variable, or at such a place in the body of a function. -/
inductive Statement.Covers (space : String) : Statement → Expr → Prop where
  | function {id params body isAsync isGenerator s e} :
      s ∈ body → Covers space s e → Covers space (.function id params body isAsync isGenerator) e
  | initializer {d v value e} :
      v ∈ d.declarations → v.init = some value → value.Covers space e →
      Covers space (.declaration d) e
  | expression {value e} : value.Covers space e → Covers space (.expression value) e
  | returned {value e} : value.Covers space e → Covers space (.return (some value)) e

end SketchSurvey.Script

namespace SketchSurvey.Analysis

open SketchSurvey.Script

theorem memberOf?_eq_some_iff {space name : String} {object : Receiver} {property : Property} :
    memberOf? space object property = some name ↔
      .member object property = Expr.memberOfName space name := by
  unfold memberOf?
  split
  · next other found =>
      simp only [Expr.memberOfName, Option.ite_none_right_eq_some, beq_iff_eq, Option.some.injEq,
        Expr.member.injEq, Receiver.expr.injEq, Expr.identifier.injEq, Property.name.injEq]
  · next noName =>
      refine ⟨nofun, fun same => ?_⟩
      injection same with sameObject sameProperty
      exact absurd sameProperty (noName _ _ sameObject)

/-- Collecting from one state to another has added certain names. -/
def MemberReferences.Adds (r r' : MemberReferences) (added : String → Prop) : Prop :=
  ∀ name, name ∈ r'.names ↔ name ∈ r.names ∨ added name

namespace MemberReferences.Adds

variable {r r' r'' : MemberReferences} {added more : String → Prop}

theorem nothing (none : ∀ name, ¬ added name) : r.Adds r added :=
  fun name => (or_iff_left (none name)).symm

theorem skipped (sort : SkippedSort) (kind : String) (none : ∀ name, ¬ added name) :
    r.Adds (r.skip sort kind) added :=
  fun name => (or_iff_left (none name)).symm

theorem andThen (first : r.Adds r' added) (second : r'.Adds r'' more) :
    r.Adds r'' fun name => added name ∨ more name := by
  intro name
  rw [second, first, or_assoc]

theorem congr (adds : r.Adds r' added) (same : ∀ name, added name ↔ more name) : r.Adds r' more := by
  intro name
  rw [adds, same]

theorem add (name : String) : r.Adds (r.add name) fun x => x = name := by
  intro x
  rw [MemberReferences.add, List.mem_insert_iff]
  exact Or.comm

end MemberReferences.Adds

/-- Nothing is looked for behind a member of the namespace. -/
theorem covers_memberOfName_iff {space found name : String} :
    (Expr.memberOfName space found).Covers space (.memberOfName space name) ↔ name = found := by
  constructor
  · intro covers
    cases covers with
    | itself => rfl
    | object noMember _ => exact absurd rfl (noMember found)
  · rintro rfl
    exact .itself

/-- Behind any other member the search goes on. -/
theorem covers_member_iff_of_memberOf?_eq_none {space name : String} {object : Receiver}
    {property : Property} (noMember : memberOf? space object property = none) :
    (Expr.member object property).Covers space (.memberOfName space name) ↔
      ∃ e, object = .expr e ∧ e.Covers space (.memberOfName space name) := by
  have differs (other : String) : Expr.member object property ≠ .memberOfName space other := by
    rw [Ne, ← memberOf?_eq_some_iff, noMember]
    nofun
  constructor
  · intro covers
    cases covers with
    | itself => exact absurd rfl (differs name)
    | object _ covers => exact ⟨_, rfl, covers⟩
  · rintro ⟨e, rfl, covers⟩
    exact .object differs covers

/-- A member adds its own name, or what there is behind it. -/
theorem MemberReferences.Adds.member {space : String} {r : MemberReferences} {object : Receiver}
    (property : Property)
    (behind : r.Adds (collectReceiver space r object)
      fun name => ∃ e, object = .expr e ∧ e.Covers space (.memberOfName space name)) :
    r.Adds (collectExpr space r (.member object property))
      fun name => (Expr.member object property).Covers space (.memberOfName space name) := by
  rw [collectExpr]
  split
  · next found isMember =>
      rw [memberOf?_eq_some_iff.mp isMember]
      exact (MemberReferences.Adds.add found).congr fun _ => covers_memberOfName_iff.symm
  · next noMember =>
      exact behind.congr fun _ => (covers_member_iff_of_memberOf?_eq_none noMember).symm

mutual

/-- Collecting from an expression adds the members of the namespace that stand in it at places that are
looked into. -/
theorem collectExpr_adds (space : String) : ∀ (r : MemberReferences) (e : Expr),
    r.Adds (collectExpr space r e) fun name => e.Covers space (.memberOfName space name)
  | r, .assign operator left right => by
      refine ((collectTarget_adds space r left).andThen (collectExpr_adds space _ right)).congr
        fun name => ⟨?_, ?_⟩
      · rintro (⟨object, property, rfl, covers⟩ | covers)
        · exact .target covers
        · exact .assigned covers
      · intro covers
        cases covers with
        | assigned covers => exact .inr covers
        | target covers => exact .inl ⟨_, _, rfl, covers⟩
  | r, .binary operator left right => by
      refine ((collectExpr_adds space r left).andThen (collectExpr_adds space _ right)).congr
        fun name => ⟨?_, ?_⟩
      · rintro (covers | covers)
        · exact .leftOperand covers
        · exact .rightOperand covers
      · intro covers
        cases covers with
        | leftOperand covers => exact .inl covers
        | rightOperand covers => exact .inr covers
  | r, .call callee arguments => by
      refine ((collectReceiver_adds space r callee).andThen
        (collectArguments_adds space _ arguments)).congr fun name => ⟨?_, ?_⟩
      · rintro (⟨e, rfl, covers⟩ | ⟨e, member, covers⟩)
        · exact .callee covers
        · exact .argument member covers
      · intro covers
        cases covers with
        | callee covers => exact .inl ⟨_, rfl, covers⟩
        | argument member covers => exact .inr ⟨_, member, covers⟩
  | r, .member object property => .member property (collectReceiver_adds space r object)
  | _, .identifier _ => .nothing nofun
  | _, .literal _ => .nothing nofun
  | _, .unsupported .. => .skipped _ _ nofun

theorem collectReceiver_adds (space : String) : ∀ (r : MemberReferences) (receiver : Receiver),
    r.Adds (collectReceiver space r receiver)
      fun name => ∃ e, receiver = .expr e ∧ e.Covers space (.memberOfName space name)
  | _, .super => .nothing nofun
  | r, .expr e => (collectExpr_adds space r e).congr fun _ =>
      ⟨fun covers => ⟨e, rfl, covers⟩, fun ⟨_, same, covers⟩ => by cases same; exact covers⟩

theorem collectTarget_adds (space : String) : ∀ (r : MemberReferences) (left : Pattern),
    r.Adds (collectTarget space r left) fun name => ∃ object property,
      left = .target (.member object property) ∧
        (Expr.member object property).Covers space (.memberOfName space name)
  | r, .target (.member object property) =>
      (MemberReferences.Adds.member property (collectReceiver_adds space r object)).congr fun _ =>
        ⟨fun covers => ⟨_, _, rfl, covers⟩, fun ⟨_, _, same, covers⟩ => by cases same; exact covers⟩
  | _, .target (.assign ..) => .nothing nofun
  | _, .target (.binary ..) => .nothing nofun
  | _, .target (.call ..) => .nothing nofun
  | _, .target (.identifier _) => .nothing nofun
  | _, .target (.literal _) => .nothing nofun
  | _, .target (.unsupported ..) => .nothing nofun
  | _, .identifier _ => .nothing nofun
  | _, .object _ => .nothing nofun
  | _, .array _ => .nothing nofun
  | _, .rest _ => .nothing nofun
  | _, .withDefault .. => .nothing nofun
  | _, .unsupported .. => .nothing nofun

theorem collectArgument_adds (space : String) : ∀ (r : MemberReferences) (a : Argument),
    r.Adds (collectArgument space r a)
      fun name => ∃ e, a = .expr e ∧ e.Covers space (.memberOfName space name)
  | r, .expr e => (collectExpr_adds space r e).congr fun _ =>
      ⟨fun covers => ⟨e, rfl, covers⟩, fun ⟨_, same, covers⟩ => by cases same; exact covers⟩
  | _, .spread _ => .nothing nofun

theorem collectArguments_adds (space : String) : ∀ (r : MemberReferences) (as : List Argument),
    r.Adds (collectArguments space r as)
      fun name => ∃ e, .expr e ∈ as ∧ e.Covers space (.memberOfName space name)
  | _, [] => .nothing nofun
  | r, a :: rest => by
      refine ((collectArgument_adds space r a).andThen (collectArguments_adds space _ rest)).congr
        fun name => ⟨?_, ?_⟩
      · rintro (⟨e, rfl, covers⟩ | ⟨e, member, covers⟩)
        · exact ⟨e, .head _, covers⟩
        · exact ⟨e, .tail _ member, covers⟩
      · rintro ⟨e, member, covers⟩
        cases member with
        | head => exact .inl ⟨e, rfl, covers⟩
        | tail _ member => exact .inr ⟨e, member, covers⟩

end

theorem collectOptionalExpr_adds (space : String) (r : MemberReferences) (o : Option Expr) :
    r.Adds (collectOptionalExpr space r o)
      fun name => ∃ e, o = some e ∧ e.Covers space (.memberOfName space name) := by
  cases o with
  | none => exact .nothing nofun
  | some e =>
      refine (collectExpr_adds space r e).congr fun name => ?_
      simp only [Option.some.injEq, exists_eq_left']

theorem collectInitializers_adds (space : String) : ∀ (r : MemberReferences) (vs : List Declarator),
    r.Adds (vs.foldl (fun r v => collectOptionalExpr space r v.init) r) fun name =>
      ∃ v ∈ vs, ∃ e, v.init = some e ∧ e.Covers space (.memberOfName space name)
  | _, [] => .nothing nofun
  | r, v :: rest => by
      refine ((collectOptionalExpr_adds space r v.init).andThen
        (collectInitializers_adds space _ rest)).congr fun name => ?_
      simp only [List.mem_cons, exists_eq_or_imp]

mutual

theorem collectStatement_adds (space : String) : ∀ (r : MemberReferences) (s : Statement),
    r.Adds (collectStatement space r s) fun name => s.Covers space (.memberOfName space name)
  | r, .function id params body isAsync isGenerator =>
      (collectStatements_adds space r body).congr fun _ =>
        ⟨fun ⟨_, member, covers⟩ => .function member covers,
          fun | .function member covers => ⟨_, member, covers⟩⟩
  | r, .declaration d =>
      (collectInitializers_adds space r d.declarations).congr fun _ =>
        ⟨fun ⟨_, member, _, initial, covers⟩ => .initializer member initial covers,
          fun | .initializer member initial covers => ⟨_, member, _, initial, covers⟩⟩
  | r, .expression e =>
      (collectExpr_adds space r e).congr fun _ => ⟨.expression, fun | .expression covers => covers⟩
  | r, .return argument => by
      refine (collectOptionalExpr_adds space r argument).congr fun name => ⟨?_, ?_⟩
      · rintro ⟨e, rfl, covers⟩
        exact .returned covers
      · intro covers
        cases covers with
        | returned covers => exact ⟨_, rfl, covers⟩
  | _, .block _ => .skipped _ _ nofun
  | _, .doWhile .. => .skipped _ _ nofun
  | _, .for .. => .skipped _ _ nofun
  | _, .forIn .. => .skipped _ _ nofun
  | _, .forOf .. => .skipped _ _ nofun
  | _, .if .. => .skipped _ _ nofun
  | _, .labeled .. => .skipped _ _ nofun
  | _, .while .. => .skipped _ _ nofun
  | _, .break _ => .skipped _ _ nofun
  | _, .continue _ => .skipped _ _ nofun
  | _, .debugger => .skipped _ _ nofun
  | _, .empty => .skipped _ _ nofun
  | _, .unsupported .. => .skipped _ _ nofun

theorem collectStatements_adds (space : String) : ∀ (r : MemberReferences) (body : List Statement),
    r.Adds (collectStatements space r body)
      fun name => ∃ s ∈ body, s.Covers space (.memberOfName space name)
  | _, [] => .nothing nofun
  | r, s :: rest => by
      refine ((collectStatement_adds space r s).andThen
        (collectStatements_adds space _ rest)).congr fun name => ?_
      simp only [List.mem_cons, exists_eq_or_imp]

end

/-- A member is found exactly if somewhere at a place that is looked into it is taken from the
namespace. -/
theorem mem_memberReferences_iff (space name : String) (p : Program) :
    name ∈ (memberReferences space p).names ↔
      ∃ s ∈ p.body, s.Covers space (.member (.expr (.identifier space)) (.name name)) := by
  refine (collectStatements_adds space {} p.body name).trans (or_iff_right ?_)
  nofun

/-- Of `p5.prototype.foo = p5.random(p5)` the members of `p5` are found, and not what these have. -/
example : (memberReferences "p5" { body := [.expression (.assign "="
      (.target (.member (.expr (.memberOfName "p5" "prototype")) (.name "foo")))
      (.call (.expr (.memberOfName "p5" "random")) [.expr (.identifier "p5")]))] }).names =
    ["random", "prototype"] := by
  decide

end SketchSurvey.Analysis
