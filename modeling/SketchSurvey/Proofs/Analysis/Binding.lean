import SketchSurvey.Analysis.FreeVariables

/-! What a function binds, said without a walk: its own name, the names in its parameters, and what
is declared anywhere in its body short of the functions inside. The scope that is made for a function
before its body is walked has exactly these names. -/

set_option autoImplicit false

namespace SketchSurvey.Script

/-- A pattern binds the names at its leaves. A member that is assigned to binds nothing, and neither
does a default value. -/
inductive Pattern.Binds : Pattern → String → Prop where
  | identifier {name} : Binds (.identifier name) name
  | pair {properties key value name} :
      .pair key value ∈ properties → Binds value name → Binds (.object properties) name
  | restProperty {properties argument name} :
      .rest argument ∈ properties → Binds argument name → Binds (.object properties) name
  | element {elements element name} :
      element ∈ elements → Binds element name → Binds (.array elements) name
  | rest {argument name} : Binds argument name → Binds (.rest argument) name
  | withDefault {left right name} : Binds left name → Binds (.withDefault left right) name

/-- A statement declares a name if it or a statement inside it is a declaration of that name.
Statements inside a function that it declares do not count, and neither does the variable of a loop
over a collection. -/
inductive Statement.Declares : Statement → String → Prop where
  | function {name params body isAsync isGenerator} :
      Declares (.function (some name) params body isAsync isGenerator) name
  | variable {d v name} :
      v ∈ d.declarations → v.id.Binds name → Declares (.declaration d) name
  | block {body s name} : s ∈ body → Declares s name → Declares (.block body) name
  | consequent {test consequent alternate name} :
      Declares consequent name → Declares (.if test consequent alternate) name
  | alternate {test consequent alternate name} :
      Declares alternate name → Declares (.if test consequent (some alternate)) name
  | forInit {d test update body name} :
      Declares (.declaration d) name → Declares (.for (.declaration d) test update body) name
  | forBody {init test update body name} :
      Declares body name → Declares (.for init test update body) name
  | forInBody {left right body name} : Declares body name → Declares (.forIn left right body) name
  | forOfBody {left right body isAwait name} :
      Declares body name → Declares (.forOf left right body isAwait) name
  | whileBody {test body name} : Declares body name → Declares (.while test body) name
  | doWhileBody {body test name} : Declares body name → Declares (.doWhile body test) name
  | labeled {label body name} : Declares body name → Declares (.labeled label body) name
  | nested {kind line nested s name} :
      s ∈ nested → Declares s name → Declares (.unsupported kind line nested) name

/-- A function declaration binds its own name, the names of its parameters, and what the statements
of its body declare. -/
inductive Statement.BindsInside : Statement → String → Prop where
  | own {name params body isAsync isGenerator} :
      BindsInside (.function (some name) params body isAsync isGenerator) name
  | parameter {id params body isAsync isGenerator p name} :
      p ∈ params → p.Binds name → BindsInside (.function id params body isAsync isGenerator) name
  | declared {id params body isAsync isGenerator s name} :
      s ∈ body → s.Declares name → BindsInside (.function id params body isAsync isGenerator) name

mutual

theorem Pattern.mem_names_iff (name : String) : ∀ p : Pattern, name ∈ p.names ↔ p.Binds name
  | .identifier other => by
      rw [Pattern.names, List.mem_singleton]
      constructor
      · rintro rfl
        exact .identifier
      · rintro ⟨⟩
        rfl
  | .object properties => by
      rw [Pattern.names, mem_propertyNames_iff name properties]
      constructor
      · rintro (⟨key, value, member, binds⟩ | ⟨argument, member, binds⟩)
        · exact .pair member binds
        · exact .restProperty member binds
      · intro binds
        cases binds with
        | pair member binds => exact .inl ⟨_, _, member, binds⟩
        | restProperty member binds => exact .inr ⟨_, member, binds⟩
  | .array elements => by
      rw [Pattern.names, mem_patternsNames_iff name elements]
      constructor
      · rintro ⟨element, member, binds⟩
        exact .element member binds
      · intro binds
        cases binds with
        | element member binds => exact ⟨_, member, binds⟩
  | .rest argument => by
      rw [Pattern.names, Pattern.mem_names_iff name argument]
      exact ⟨.rest, fun | .rest binds => binds⟩
  | .withDefault left right => by
      rw [Pattern.names, Pattern.mem_names_iff name left]
      exact ⟨.withDefault, fun | .withDefault binds => binds⟩
  | .target e => by
      rw [Pattern.names]
      exact ⟨nofun, nofun⟩
  | .unsupported kind line => by
      rw [Pattern.names]
      exact ⟨nofun, nofun⟩

theorem mem_patternsNames_iff (name : String) :
    ∀ ps : List Pattern, name ∈ patternsNames ps ↔ ∃ p ∈ ps, p.Binds name
  | [] => by simp [patternsNames]
  | p :: ps => by
      rw [patternsNames, List.mem_append, Pattern.mem_names_iff name p, mem_patternsNames_iff name ps]
      simp only [List.mem_cons, exists_eq_or_imp]

theorem mem_propertyNames_iff (name : String) :
    ∀ ps : List PatternProperty, name ∈ propertyNames ps ↔
      (∃ key value, PatternProperty.pair key value ∈ ps ∧ value.Binds name) ∨
        ∃ argument, PatternProperty.rest argument ∈ ps ∧ argument.Binds name
  | [] => by simp [propertyNames]
  | .pair key value :: ps => by
      rw [propertyNames, List.mem_append, PatternProperty.names, Pattern.mem_names_iff name value,
        mem_propertyNames_iff name ps]
      simp only [List.mem_cons, PatternProperty.pair.injEq, reduceCtorEq, false_or]
      constructor
      · rintro (here | ⟨k, v, member, binds⟩ | later)
        · exact .inl ⟨key, value, .inl ⟨rfl, rfl⟩, here⟩
        · exact .inl ⟨k, v, .inr member, binds⟩
        · exact .inr later
      · rintro (⟨k, v, ⟨rfl, rfl⟩ | member, binds⟩ | later)
        · exact .inl binds
        · exact .inr (.inl ⟨k, v, member, binds⟩)
        · exact .inr (.inr later)
  | .rest argument :: ps => by
      rw [propertyNames, List.mem_append, PatternProperty.names, Pattern.mem_names_iff name argument,
        mem_propertyNames_iff name ps]
      simp only [List.mem_cons, PatternProperty.rest.injEq, reduceCtorEq, false_or]
      constructor
      · rintro (here | later | ⟨a, member, binds⟩)
        · exact .inr ⟨argument, .inl rfl, here⟩
        · exact .inl later
        · exact .inr ⟨a, .inr member, binds⟩
      · rintro (later | ⟨a, rfl | member, binds⟩)
        · exact .inr (.inl later)
        · exact .inl binds
        · exact .inr (.inr ⟨a, member, binds⟩)

end

theorem VariableDeclaration.mem_names_iff (name : String) (d : VariableDeclaration) :
    name ∈ d.names ↔ ∃ v ∈ d.declarations, v.id.Binds name := by
  simp only [VariableDeclaration.names, List.mem_flatMap, Pattern.mem_names_iff]

end SketchSurvey.Script

namespace SketchSurvey.Analysis

open SketchSurvey.Script

theorem has_bindAll_iff (s : Scope) (kind : BindingKind) (names : List String) (name : String) :
    (s.bindAll kind names).has name = true ↔ s.has name = true ∨ name ∈ names := by
  rw [Scope.has_bindAll, Bool.or_eq_true, List.contains_iff_mem]

private theorem has_bindAll_declaration (s : Scope) (d : VariableDeclaration) (name : String) :
    (s.bindAll .variable d.names).has name = true ↔
      s.has name = true ∨ Statement.Declares (.declaration d) name := by
  rw [has_bindAll_iff, VariableDeclaration.mem_names_iff]
  exact or_congr_right ⟨fun ⟨_, member, binds⟩ => .variable member binds,
    fun | .variable member binds => ⟨_, member, binds⟩⟩

mutual

/-- Hoisting adds to a scope what a statement declares, and nothing else. -/
theorem has_hoist_iff (name : String) : ∀ (s : Scope) (st : Statement),
    (hoist s st).has name = true ↔ s.has name = true ∨ st.Declares name
  | s, .function id params body isAsync isGenerator => by
      rw [hoist, has_bindAll_iff, Option.mem_toList]
      refine or_congr_right ⟨?_, ?_⟩
      · rintro rfl
        exact .function
      · rintro ⟨⟩
        rfl
  | s, .declaration d => by
      rw [hoist, has_bindAll_declaration]
  | s, .block body => by
      rw [hoist, has_hoistAll_iff name s body]
      exact or_congr_right ⟨fun ⟨_, member, declares⟩ => .block member declares,
        fun | .block member declares => ⟨_, member, declares⟩⟩
  | s, .if test consequent alternate => by
      rw [hoist, has_hoistOptional_iff name (hoist s consequent) alternate,
        has_hoist_iff name s consequent, or_assoc]
      refine or_congr_right ⟨?_, ?_⟩
      · rintro (declares | ⟨a, rfl, declares⟩)
        · exact .consequent declares
        · exact .alternate declares
      · intro declares
        cases declares with
        | consequent declares => exact .inl declares
        | alternate declares => exact .inr ⟨_, rfl, declares⟩
  | s, .for (.declaration d) test update body => by
      rw [hoist, has_hoist_iff name _ body, has_bindAll_declaration, or_assoc]
      refine or_congr_right ⟨?_, ?_⟩
      · rintro (declares | declares)
        · exact .forInit declares
        · exact .forBody declares
      · intro declares
        cases declares with
        | forInit declares => exact .inl declares
        | forBody declares => exact .inr declares
  | s, .for .none _ _ body =>
      (has_hoist_iff name s body).trans
        (or_congr_right ⟨.forBody, fun | .forBody declares => declares⟩)
  | s, .for (.expr _) _ _ body =>
      (has_hoist_iff name s body).trans
        (or_congr_right ⟨.forBody, fun | .forBody declares => declares⟩)
  | s, .forIn left right body => by
      rw [hoist, has_hoist_iff name s body]
      exact or_congr_right ⟨.forInBody, fun | .forInBody declares => declares⟩
  | s, .forOf left right body isAwait => by
      rw [hoist, has_hoist_iff name s body]
      exact or_congr_right ⟨.forOfBody, fun | .forOfBody declares => declares⟩
  | s, .while test body => by
      rw [hoist, has_hoist_iff name s body]
      exact or_congr_right ⟨.whileBody, fun | .whileBody declares => declares⟩
  | s, .doWhile body test => by
      rw [hoist, has_hoist_iff name s body]
      exact or_congr_right ⟨.doWhileBody, fun | .doWhileBody declares => declares⟩
  | s, .labeled label body => by
      rw [hoist, has_hoist_iff name s body]
      exact or_congr_right ⟨.labeled, fun | .labeled declares => declares⟩
  | s, .unsupported kind line nested => by
      rw [hoist, has_hoistAll_iff name s nested]
      exact or_congr_right ⟨fun ⟨_, member, declares⟩ => .nested member declares,
        fun | .nested member declares => ⟨_, member, declares⟩⟩
  | _, .expression _ => (or_iff_left nofun).symm
  | _, .return _ => (or_iff_left nofun).symm
  | _, .break _ => (or_iff_left nofun).symm
  | _, .continue _ => (or_iff_left nofun).symm
  | _, .debugger => (or_iff_left nofun).symm
  | _, .empty => (or_iff_left nofun).symm

theorem has_hoistOptional_iff (name : String) : ∀ (s : Scope) (o : Option Statement),
    (hoistOptional s o).has name = true ↔
      s.has name = true ∨ ∃ st, o = some st ∧ st.Declares name
  | s, none => by simp [hoistOptional]
  | s, some st => by
      rw [hoistOptional, has_hoist_iff name s st]
      simp only [Option.some.injEq, exists_eq_left']

theorem has_hoistAll_iff (name : String) : ∀ (s : Scope) (body : List Statement),
    (hoistAll s body).has name = true ↔ s.has name = true ∨ ∃ st ∈ body, st.Declares name
  | s, [] => by simp [hoistAll]
  | s, st :: rest => by
      rw [hoistAll, has_hoistAll_iff name (hoist s st) rest, has_hoist_iff name s st, or_assoc]
      simp only [List.mem_cons, exists_eq_or_imp]

end

mutual

theorem parent_hoist : ∀ (s : Scope) (st : Statement), (hoist s st).parent = s.parent
  | s, .function .. => Scope.parent_bindAll s _ _
  | s, .declaration _ => Scope.parent_bindAll s _ _
  | s, .block body => parent_hoistAll s body
  | s, .if _ consequent alternate =>
      (parent_hoistOptional (hoist s consequent) alternate).trans (parent_hoist s consequent)
  | s, .for (.declaration _) _ _ body =>
      (parent_hoist _ body).trans (Scope.parent_bindAll s _ _)
  | s, .for .none _ _ body => parent_hoist s body
  | s, .for (.expr _) _ _ body => parent_hoist s body
  | s, .forIn _ _ body => parent_hoist s body
  | s, .forOf _ _ body _ => parent_hoist s body
  | s, .while _ body => parent_hoist s body
  | s, .doWhile body _ => parent_hoist s body
  | s, .labeled _ body => parent_hoist s body
  | s, .unsupported _ _ nested => parent_hoistAll s nested
  | _, .expression _ => rfl
  | _, .return _ => rfl
  | _, .break _ => rfl
  | _, .continue _ => rfl
  | _, .debugger => rfl
  | _, .empty => rfl

theorem parent_hoistOptional :
    ∀ (s : Scope) (o : Option Statement), (hoistOptional s o).parent = s.parent
  | _, none => rfl
  | s, some st => parent_hoist s st

theorem parent_hoistAll :
    ∀ (s : Scope) (body : List Statement), (hoistAll s body).parent = s.parent
  | _, [] => rfl
  | s, st :: rest => (parent_hoistAll (hoist s st) rest).trans (parent_hoist s st)

end

/-- The scope of a function has exactly the names that the function binds. -/
theorem has_functionScope_iff (stack : ScopeStack) (id : Option String) (params : List Pattern)
    (body : List Statement) (isAsync isGenerator : Bool) (name : String) :
    (functionScope stack id params body).has name = true ↔
      Statement.BindsInside (.function id params body isAsync isGenerator) name := by
  unfold functionScope
  rw [has_hoistAll_iff, has_bindAll_iff, has_bindAll_iff, mem_patternsNames_iff, Option.mem_toList]
  constructor
  · rintro (((none | rfl) | ⟨p, member, binds⟩) | ⟨s, member, declares⟩)
    · simp [Scope.has] at none
    · exact .own
    · exact .parameter member binds
    · exact .declared member declares
  · intro binds
    cases binds with
    | own => exact .inl (.inl (.inr rfl))
    | parameter member binds => exact .inl (.inr ⟨_, member, binds⟩)
    | declared member declares => exact .inr ⟨_, member, declares⟩

theorem parent_functionScope (stack : ScopeStack) (id : Option String) (params : List Pattern)
    (body : List Statement) :
    (functionScope stack id params body).parent = stack.innermost? := by
  unfold functionScope
  rw [parent_hoistAll, Scope.parent_bindAll, Scope.parent_bindAll]

end SketchSurvey.Analysis
