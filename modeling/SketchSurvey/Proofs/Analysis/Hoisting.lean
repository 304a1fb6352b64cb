import SketchSurvey.Proofs.Analysis.Binding

/-! What is bound while a function is walked. A walk that keeps a record tells every moment at which it
comes to a statement or looks a name up, with the functions around and the scopes at that moment. Through
all the moments inside a function the scope on top is the one that was made before the function's body:
it has what the function binds and nothing else, so whatever the walk comes to in it is bound already. -/

set_option autoImplicit false

namespace SketchSurvey.Analysis

open SketchSurvey.Script

/-- What a walk does at a moment: it comes to a statement, or it looks a name up. -/
inductive Event where
  | statement (s : Statement)
  | lookup (name : String)

/-- A moment of a walk, with the functions around the place, the innermost first, and the scopes. -/
structure Moment where
  event : Event
  inside : List Statement
  scopes : ScopeStack

/-- A walk that keeps a record of its moments. -/
structure RecordedWalk where
  walk : Walk := {}
  inside : List Statement := []
  moments : List Moment := []

namespace RecordedWalk

def record (t : RecordedWalk) (event : Event) : RecordedWalk :=
  { t with moments := t.moments ++ [{ event, inside := t.inside, scopes := t.walk.scopes }] }

def reference (t : RecordedWalk) (name : String) : RecordedWalk :=
  { t.record (.lookup name) with walk := t.walk.reference name }

def skip (t : RecordedWalk) (s : Skipped) : RecordedWalk := { t with walk := t.walk.skip s }

/-- Goes into a function, whose scope comes on top. -/
def enter (t : RecordedWalk) (f : Statement) (scope : Scope) : RecordedWalk :=
  { t with walk := t.walk.push scope, inside := f :: t.inside }

def leave (t : RecordedWalk) : RecordedWalk :=
  { t with walk := t.walk.pop, inside := t.inside.tail }

end RecordedWalk

mutual

def recordExpr (t : RecordedWalk) : Expr → RecordedWalk
  | .assign _ _ right => recordExpr t right
  | .binary _ left right => recordExpr (recordExpr t left) right
  | .call callee arguments => recordArguments (recordReceiver t callee) arguments
  | .member object _ => recordReceiver t object
  | .identifier name => t.reference name
  | .literal _ => t
  | .unsupported kind line => t.skip { sort := .expression, kind, line := some line }

def recordReceiver (t : RecordedWalk) : Receiver → RecordedWalk
  | .super => t
  | .expr e => recordExpr t e

def recordArgument (t : RecordedWalk) : Argument → RecordedWalk
  | .expr e => recordExpr t e
  | .spread _ => t

def recordArguments (t : RecordedWalk) : List Argument → RecordedWalk
  | [] => t
  | a :: rest => recordArguments (recordArgument t a) rest

end

def recordOptionalExpr (t : RecordedWalk) : Option Expr → RecordedWalk
  | none => t
  | some e => recordExpr t e

mutual

/-- Records that the walk comes to a statement, and walks it. -/
def recordStatement (t : RecordedWalk) (s : Statement) : RecordedWalk :=
  let t := t.record (.statement s)
  match s with
  | .function id params body _ _ =>
    (recordStatements (t.enter s (functionScope t.walk.scopes id params body)) body).leave
  | .block body => recordStatements t body
  | .doWhile body test => recordExpr (recordStatement t body) test
  | .expression e => recordExpr t e
  | .for _ test update body =>
    recordStatement (recordOptionalExpr (recordOptionalExpr t test) update) body
  | .forIn _ right body => recordStatement (recordExpr t right) body
  | .forOf .. => t.skip { sort := .statement, kind := "ForOfStatement" }
  | .if test consequent alternate =>
    recordOptionalStatement (recordStatement (recordExpr t test) consequent) alternate
  | .labeled _ body => recordStatement t body
  | .return argument => recordOptionalExpr t argument
  | .declaration d => d.declarations.foldl (fun t v => recordOptionalExpr t v.init) t
  | .while test body => recordStatement (recordExpr t test) body
  | .break _ => t
  | .continue _ => t
  | .debugger => t
  | .empty => t
  | .unsupported kind line _ => t.skip { sort := .statement, kind, line := some line }

def recordOptionalStatement (t : RecordedWalk) : Option Statement → RecordedWalk
  | none => t
  | some s => recordStatement t s

def recordStatements (t : RecordedWalk) : List Statement → RecordedWalk
  | [] => t
  | s :: rest => recordStatements (recordStatement t s) rest

end

/-- The walk that finds the free names of a script, with its record. -/
def recordedWalk (p : Program) : RecordedWalk := recordStatements {} (p.body.filter isFunction)

/-! ### Keeping the record does not change the walk -/

mutual

theorem walk_recordExpr : ∀ (t : RecordedWalk) (e : Expr),
    (recordExpr t e).walk = walkExpr t.walk e
  | t, .assign _ _ right => walk_recordExpr t right
  | t, .binary _ left right => by
      rw [recordExpr, walkExpr, walk_recordExpr _ right, walk_recordExpr t left]
  | t, .call callee arguments => by
      rw [recordExpr, walkExpr, walk_recordArguments _ arguments, walk_recordReceiver t callee]
  | t, .member object _ => walk_recordReceiver t object
  | _, .identifier _ => rfl
  | _, .literal _ => rfl
  | _, .unsupported .. => rfl

theorem walk_recordReceiver : ∀ (t : RecordedWalk) (r : Receiver),
    (recordReceiver t r).walk = walkReceiver t.walk r
  | _, .super => rfl
  | t, .expr e => walk_recordExpr t e

theorem walk_recordArgument : ∀ (t : RecordedWalk) (a : Argument),
    (recordArgument t a).walk = walkArgument t.walk a
  | t, .expr e => walk_recordExpr t e
  | _, .spread _ => rfl

theorem walk_recordArguments : ∀ (t : RecordedWalk) (as : List Argument),
    (recordArguments t as).walk = walkArguments t.walk as
  | _, [] => rfl
  | t, a :: rest => by
      rw [recordArguments, walkArguments, walk_recordArguments _ rest, walk_recordArgument t a]

end

theorem walk_recordOptionalExpr (t : RecordedWalk) (o : Option Expr) :
    (recordOptionalExpr t o).walk = walkOptionalExpr t.walk o := by
  cases o with
  | none => rfl
  | some e => exact walk_recordExpr t e

theorem walk_recordInitializers (t : RecordedWalk) (vs : List Declarator) :
    (vs.foldl (fun t v => recordOptionalExpr t v.init) t).walk =
      vs.foldl (fun w v => walkOptionalExpr w v.init) t.walk := by
  induction vs generalizing t with
  | nil => rfl
  | cons v rest ih => rw [List.foldl_cons, List.foldl_cons, ih, walk_recordOptionalExpr]

mutual

theorem walk_recordStatement : ∀ (t : RecordedWalk) (s : Statement),
    (recordStatement t s).walk = walkStatement t.walk s
  | t, .function id params body isAsync isGenerator =>
      congrArg Walk.pop (walk_recordStatements
        ((t.record _).enter _ (functionScope t.walk.scopes id params body)) body)
  | t, .block body => walk_recordStatements (t.record _) body
  | t, .doWhile body test => by
      rw [recordStatement, walkStatement, walk_recordExpr _ test, walk_recordStatement _ body]
      rfl
  | t, .expression e => walk_recordExpr (t.record _) e
  | t, .for _ test update body => by
      rw [recordStatement, walkStatement, walk_recordStatement _ body, walk_recordOptionalExpr _ update,
        walk_recordOptionalExpr _ test]
      rfl
  | t, .forIn _ right body => by
      rw [recordStatement, walkStatement, walk_recordStatement _ body, walk_recordExpr _ right]
      rfl
  | _, .forOf .. => rfl
  | t, .if test consequent alternate => by
      rw [recordStatement, walkStatement, walk_recordOptionalStatement _ alternate,
        walk_recordStatement _ consequent, walk_recordExpr _ test]
      rfl
  | t, .labeled _ body => walk_recordStatement (t.record _) body
  | t, .return argument => walk_recordOptionalExpr (t.record _) argument
  | t, .declaration d => walk_recordInitializers (t.record _) d.declarations
  | t, .while test body => by
      rw [recordStatement, walkStatement, walk_recordStatement _ body, walk_recordExpr _ test]
      rfl
  | _, .break _ => rfl
  | _, .continue _ => rfl
  | _, .debugger => rfl
  | _, .empty => rfl
  | _, .unsupported .. => rfl

theorem walk_recordOptionalStatement : ∀ (t : RecordedWalk) (o : Option Statement),
    (recordOptionalStatement t o).walk = walkOptionalStatement t.walk o
  | _, none => rfl
  | t, some s => walk_recordStatement t s

theorem walk_recordStatements : ∀ (t : RecordedWalk) (body : List Statement),
    (recordStatements t body).walk = walkStatements t.walk body
  | _, [] => rfl
  | t, s :: rest => by
      rw [recordStatements, walkStatements, walk_recordStatements _ rest, walk_recordStatement t s]

end

/-! ### What holds at every moment -/

/-- The scopes inside some functions, the innermost function first. -/
def scopesInside : List Statement → ScopeStack
  | [] => #[]
  | .function id params body _ _ :: outer =>
    (scopesInside outer).push (functionScope (scopesInside outer) id params body)
  | _ :: outer => scopesInside outer

/-- Whatever a statement inside a function declares is bound by the function. -/
def Encloses (inside : List Statement) (s : Statement) : Prop :=
  ∀ f ∈ inside.head?, ∀ name, s.Declares name → f.BindsInside name

/-- The scopes are those of the functions around. -/
structure Placed (inside : List Statement) (scopes : ScopeStack) : Prop where
  functions : ∀ f ∈ inside, isFunction f = true
  scopes : scopes = scopesInside inside

/-- The scopes at a moment are those of the functions around, and the innermost function binds what the
statement declares to which the walk has come. -/
structure Moment.Sound (m : Moment) : Prop where
  placed : Placed m.inside m.scopes
  encloses : ∀ s, m.event = .statement s → Encloses m.inside s

abbrev RecordedWalk.Placed (t : RecordedWalk) : Prop := Analysis.Placed t.inside t.walk.scopes

/-- A recorded walk from one state to another ends where it began, and its moments are sound. -/
structure RecordedWalk.Passes (t t' : RecordedWalk) : Prop where
  scopes : t'.walk.scopes = t.walk.scopes
  inside : t'.inside = t.inside
  moments : ∀ m ∈ t'.moments, m ∈ t.moments ∨ m.Sound

namespace RecordedWalk.Passes

variable {t t' t'' : RecordedWalk}

theorem refl (t : RecordedWalk) : t.Passes t := ⟨rfl, rfl, fun _ => .inl⟩

theorem trans (first : t.Passes t') (second : t'.Passes t'') : t.Passes t'' where
  scopes := second.scopes.trans first.scopes
  inside := second.inside.trans first.inside
  moments m member := by
    rcases second.moments m member with before | sound
    · exact first.moments m before
    · exact .inr sound

theorem placed (passes : t.Passes t') (placed : t.Placed) : t'.Placed := by
  rw [RecordedWalk.Placed, passes.scopes, passes.inside]
  exact placed

theorem record {event : Event} (placed : t.Placed)
    (encloses : ∀ s, event = .statement s → Encloses t.inside s) : t.Passes (t.record event) where
  scopes := rfl
  inside := rfl
  moments m member := by
    rcases List.mem_append.mp member with before | now
    · exact .inl before
    · cases List.mem_singleton.mp now
      exact .inr ⟨placed, encloses⟩

theorem reference (placed : t.Placed) (name : String) : t.Passes (t.reference name) where
  scopes := by
    simp only [RecordedWalk.reference, Walk.reference]
    split <;> rfl
  inside := rfl
  moments := by
    have recorded : t.Passes (t.record (.lookup name)) := record placed nofun
    exact recorded.moments

theorem skip (t : RecordedWalk) (s : Skipped) : t.Passes (t.skip s) := ⟨rfl, rfl, fun _ => .inl⟩

/-- A function is gone through with its own scope on top. -/
theorem function {inner : RecordedWalk} {f : Statement} {scope : Scope}
    (passes : (t.enter f scope).Passes inner) : t.Passes inner.leave where
  scopes := by
    simp only [RecordedWalk.leave, Walk.pop, passes.scopes, RecordedWalk.enter, Walk.push,
      Array.pop_push]
  inside := by
    simp only [RecordedWalk.leave, passes.inside, RecordedWalk.enter, List.tail_cons]
  moments := passes.moments

end RecordedWalk.Passes

mutual

theorem recordExpr_passes : ∀ (t : RecordedWalk) (e : Expr), t.Placed → t.Passes (recordExpr t e)
  | t, .assign _ _ right, placed => recordExpr_passes t right placed
  | t, .binary _ left right, placed =>
      have first := recordExpr_passes t left placed
      first.trans (recordExpr_passes _ right (first.placed placed))
  | t, .call callee arguments, placed =>
      have first := recordReceiver_passes t callee placed
      first.trans (recordArguments_passes _ arguments (first.placed placed))
  | t, .member object _, placed => recordReceiver_passes t object placed
  | _, .identifier name, placed => .reference placed name
  | t, .literal _, _ => .refl t
  | t, .unsupported .., _ => .skip t _

theorem recordReceiver_passes : ∀ (t : RecordedWalk) (r : Receiver), t.Placed →
    t.Passes (recordReceiver t r)
  | t, .super, _ => .refl t
  | t, .expr e, placed => recordExpr_passes t e placed

theorem recordArgument_passes : ∀ (t : RecordedWalk) (a : Argument), t.Placed →
    t.Passes (recordArgument t a)
  | t, .expr e, placed => recordExpr_passes t e placed
  | t, .spread _, _ => .refl t

theorem recordArguments_passes : ∀ (t : RecordedWalk) (as : List Argument), t.Placed →
    t.Passes (recordArguments t as)
  | t, [], _ => .refl t
  | t, a :: rest, placed =>
      have first := recordArgument_passes t a placed
      first.trans (recordArguments_passes _ rest (first.placed placed))

end

theorem recordOptionalExpr_passes {t : RecordedWalk} (placed : t.Placed) (o : Option Expr) :
    t.Passes (recordOptionalExpr t o) := by
  cases o with
  | none => exact .refl t
  | some e => exact recordExpr_passes t e placed

theorem recordInitializers_passes : ∀ (t : RecordedWalk) (vs : List Declarator), t.Placed →
    t.Passes (vs.foldl (fun t v => recordOptionalExpr t v.init) t)
  | t, [], _ => .refl t
  | _, v :: rest, placed =>
      have first := recordOptionalExpr_passes placed v.init
      first.trans (recordInitializers_passes _ rest (first.placed placed))

/-- What is enclosed with a statement is enclosed with one inside it that declares no more. -/
theorem Encloses.mono {inside : List Statement} {s part : Statement} (encloses : Encloses inside s)
    (declares : ∀ name, part.Declares name → s.Declares name) : Encloses inside part :=
  fun f isInner name declared => encloses f isInner name (declares name declared)

/-- Inside a function the statements of its body are enclosed. -/
theorem Encloses.ofBody {id : Option String} {params : List Pattern} {body : List Statement}
    {isAsync isGenerator : Bool} {outer : List Statement} {s : Statement} (member : s ∈ body) :
    Encloses (.function id params body isAsync isGenerator :: outer) s := by
  intro f isInner name declares
  cases isInner
  exact .declared member declares

/-- With the scope of a function on top a walk is inside this function. -/
theorem Placed.enter {t : RecordedWalk} (placed : t.Placed) (id : Option String)
    (params : List Pattern) (body : List Statement) (isAsync isGenerator : Bool) :
    (t.enter (.function id params body isAsync isGenerator)
      (functionScope t.walk.scopes id params body)).Placed where
  functions f member := by
    rcases List.mem_cons.mp member with rfl | outer
    · rfl
    · exact placed.functions f outer
  scopes := by
    simp only [RecordedWalk.enter, Walk.push, scopesInside]
    rw [placed.scopes]

theorem RecordedWalk.Passes.reach {t : RecordedWalk} {s : Statement} (placed : t.Placed)
    (encloses : Encloses t.inside s) : t.Passes (t.record (.statement s)) :=
  .record placed fun | _, rfl => encloses

mutual

/-- The moments of walking a statement are sound if the function around binds what the statement
declares. This goes on to the statements inside: what they declare the statement declares too, except
behind a function, which binds for itself. -/
theorem recordStatement_passes : ∀ (t : RecordedWalk) (s : Statement), t.Placed →
    Encloses t.inside s → t.Passes (recordStatement t s)
  | t, .function id params body isAsync isGenerator, placed, encloses => by
      have reached := RecordedWalk.Passes.reach placed encloses
      refine reached.trans (.function (recordStatements_passes _ body ?_ ?_))
      · exact (reached.placed placed).enter id params body isAsync isGenerator
      · exact fun s member => .ofBody member
  | t, .block body, placed, encloses => by
      have reached := RecordedWalk.Passes.reach placed encloses
      refine reached.trans (recordStatements_passes _ body (reached.placed placed) ?_)
      exact fun s member => encloses.mono fun _ => .block member
  | t, .doWhile body test, placed, encloses => by
      have reached := RecordedWalk.Passes.reach placed encloses
      have first := reached.trans (recordStatement_passes _ body (reached.placed placed)
        (encloses.mono fun _ => .doWhileBody))
      exact first.trans (recordExpr_passes _ test (first.placed placed))
  | t, .expression e, placed, encloses =>
      have reached := RecordedWalk.Passes.reach placed encloses
      reached.trans (recordExpr_passes _ e (reached.placed placed))
  | t, .for init test update body, placed, encloses => by
      have reached := RecordedWalk.Passes.reach placed encloses
      have first := reached.trans (recordOptionalExpr_passes (reached.placed placed) test)
      have second := first.trans (recordOptionalExpr_passes (first.placed placed) update)
      refine second.trans (recordStatement_passes _ body (second.placed placed) ?_)
      rw [second.inside]
      exact encloses.mono fun _ => .forBody
  | t, .forIn left right body, placed, encloses => by
      have reached := RecordedWalk.Passes.reach placed encloses
      have first := reached.trans (recordExpr_passes _ right (reached.placed placed))
      refine first.trans (recordStatement_passes _ body (first.placed placed) ?_)
      rw [first.inside]
      exact encloses.mono fun _ => .forInBody
  | _, .forOf .., placed, encloses => (RecordedWalk.Passes.reach placed encloses).trans (.skip _ _)
  | t, .if test consequent alternate, placed, encloses => by
      have reached := RecordedWalk.Passes.reach placed encloses
      have first := reached.trans (recordExpr_passes _ test (reached.placed placed))
      have second := first.trans (recordStatement_passes _ consequent (first.placed placed) (by
        rw [first.inside]
        exact encloses.mono fun _ => .consequent))
      refine second.trans (recordOptionalStatement_passes _ alternate (second.placed placed) ?_)
      rintro s rfl
      rw [second.inside]
      exact encloses.mono fun _ => .alternate
  | t, .labeled label body, placed, encloses =>
      have reached := RecordedWalk.Passes.reach placed encloses
      reached.trans (recordStatement_passes _ body (reached.placed placed)
        (encloses.mono fun _ => .labeled))
  | t, .return argument, placed, encloses =>
      have reached := RecordedWalk.Passes.reach placed encloses
      reached.trans (recordOptionalExpr_passes (reached.placed placed) argument)
  | t, .declaration d, placed, encloses =>
      have reached := RecordedWalk.Passes.reach placed encloses
      reached.trans (recordInitializers_passes _ d.declarations (reached.placed placed))
  | t, .while test body, placed, encloses => by
      have reached := RecordedWalk.Passes.reach placed encloses
      have first := reached.trans (recordExpr_passes _ test (reached.placed placed))
      refine first.trans (recordStatement_passes _ body (first.placed placed) ?_)
      rw [first.inside]
      exact encloses.mono fun _ => .whileBody
  | _, .break _, placed, encloses => .reach placed encloses
  | _, .continue _, placed, encloses => .reach placed encloses
  | _, .debugger, placed, encloses => .reach placed encloses
  | _, .empty, placed, encloses => .reach placed encloses
  | _, .unsupported .., placed, encloses =>
      (RecordedWalk.Passes.reach placed encloses).trans (.skip _ _)

theorem recordOptionalStatement_passes : ∀ (t : RecordedWalk) (o : Option Statement), t.Placed →
    (∀ s, o = some s → Encloses t.inside s) → t.Passes (recordOptionalStatement t o)
  | t, none, _, _ => .refl t
  | t, some s, placed, encloses => recordStatement_passes t s placed (encloses s rfl)

theorem recordStatements_passes : ∀ (t : RecordedWalk) (body : List Statement), t.Placed →
    (∀ s ∈ body, Encloses t.inside s) → t.Passes (recordStatements t body)
  | t, [], _, _ => .refl t
  | t, s :: rest, placed, encloses =>
      have first := recordStatement_passes t s placed (encloses s (.head _))
      first.trans (recordStatements_passes _ rest (first.placed placed) fun other member =>
        first.inside ▸ encloses other (.tail _ member))

end

/-- Inside a function the scope on top has exactly what the function binds. -/
theorem Placed.exists_top {f : Statement} {outer : List Statement} {scopes : ScopeStack}
    (placed : Placed (f :: outer) scopes) :
    ∃ top, scopes.back? = some top ∧ ∀ name, top.has name = true ↔ f.BindsInside name := by
  have isFunction := placed.functions f (.head _)
  cases f with
  | function id params body isAsync isGenerator =>
      refine ⟨functionScope (scopesInside outer) id params body, ?_,
        has_functionScope_iff _ id params body isAsync isGenerator⟩
      rw [placed.scopes, scopesInside, Array.back?_push]
  | _ => cases isFunction

/-- The names that a statement declares itself are among those that are declared in it. -/
theorem declares_of_mem_declaredNames {s : Statement} {name : String}
    (declared : name ∈ s.declaredNames) : s.Declares name := by
  cases s with
  | function id =>
      rw [Statement.declaredNames, Option.mem_toList] at declared
      cases declared
      exact .function
  | declaration d =>
      obtain ⟨v, member, binds⟩ := (VariableDeclaration.mem_names_iff name d).mp declared
      exact .variable member binds
  | _ => cases declared

theorem Moment.sound_of_mem {p : Program} {m : Moment} (member : m ∈ (recordedWalk p).moments) :
    m.Sound := by
  have passes := recordStatements_passes {} (p.body.filter isFunction) ⟨nofun, rfl⟩ fun _ _ => nofun
  rcases passes.moments m member with before | sound
  · cases before
  · exact sound

/-- At every moment inside a function, be it that a statement is reached or a name looked up, the scope
on top has exactly what the function binds, and with it whatever is declared by a statement to which the
walk comes in this function at any moment. -/
theorem declared_bound_throughout (p : Program) :
    freeVariables p = {
        names := (recordedWalk p).walk.free.filter fun n => !p.functionNames.contains n
        skipped := (recordedWalk p).walk.skipped } ∧
      ∀ m ∈ (recordedWalk p).moments, ∀ f outer, m.inside = f :: outer →
        ∃ top, m.scopes.back? = some top ∧
          (∀ name, top.has name = true ↔ f.BindsInside name) ∧
          ∀ m' ∈ (recordedWalk p).moments, m'.inside = m.inside →
            ∀ s, m'.event = .statement s → ∀ name ∈ s.declaredNames, top.has name = true := by
  refine ⟨?_, ?_⟩
  · rw [recordedWalk, walk_recordStatements, freeVariables]
  intro m member f outer inside
  have placed := (Moment.sound_of_mem member).placed
  rw [inside] at placed
  obtain ⟨top, onTop, has⟩ := placed.exists_top
  refine ⟨top, onTop, has, ?_⟩
  intro m' member' same s reached name declared
  have encloses := (Moment.sound_of_mem member').encloses s reached
  rw [same, inside] at encloses
  exact (has name).mpr (encloses f rfl name (declares_of_mem_declaredNames declared))

/-- The script `function f(a) { g(b); for (var c;;) var b; function g() { var d; } }`. -/
def lateDeclarations : Program :=
  { body := [.function "f" [.identifier "a"] [
      .expression (.call (.expr (.identifier "g")) [.expr (.identifier "b")]),
      .for (.declaration ⟨.var, [⟨.identifier "c", none⟩]⟩) none none
        (.declaration ⟨.var, [⟨.identifier "b", none⟩]⟩),
      .function "g" [] [.declaration ⟨.var, [⟨.identifier "d", none⟩]⟩] false false]
    false false] }

/-- The functions around each moment and the names in the scope on top. When `b` is looked up it is bound,
though its declaration comes later and stands within a loop; `d` is bound in `g` only. -/
theorem declared_bound_throughout_lateDeclarations :
    (recordedWalk lateDeclarations).moments.map (fun m =>
        (m.inside.filterMap Statement.functionName?, m.scopes.back?.map (·.bindings.map Prod.fst))) =
      [([], none)] ++ List.replicate 6 (["f"], some ["f", "a", "c", "b", "g"]) ++
        [(["g", "f"], some ["g", "d"])] ∧
    ∃ early late, (recordedWalk lateDeclarations).moments[3]? = some early ∧
      (recordedWalk lateDeclarations).moments[5]? = some late ∧
      early.event = .lookup "b" ∧ late.event = .statement (.declaration ⟨.var, [⟨.identifier "b", none⟩]⟩) ∧
      ∃ top, early.scopes.back? = some top ∧ top.has "b" = true := by
  refine ⟨by decide, _, _, rfl, rfl, rfl, rfl, ?_⟩
  obtain ⟨top, onTop, -, bound⟩ := (declared_bound_throughout lateDeclarations).2 _
    (List.mem_of_getElem? (i := 3) rfl) _ _ rfl
  exact ⟨top, onTop, bound _ (List.mem_of_getElem? (i := 5) rfl) rfl _ rfl "b" (by decide)⟩

end SketchSurvey.Analysis
