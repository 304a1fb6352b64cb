import SketchSurvey.Script.Ast

/-! Scripts with other names for their identifiers: names in expressions and patterns, of functions, of
labels and of members after a dot. The keys of patterns and private names are no identifiers. -/

set_option autoImplicit false

namespace SketchSurvey.Script

section Rename

variable (σ : String → String)

mutual

/-- The same with `σ name` for every identifier `name`. -/
def Expr.rename : Expr → Expr
  | .assign operator left right => .assign operator left.rename right.rename
  | .binary operator left right => .binary operator left.rename right.rename
  | .call callee arguments => .call callee.rename (renameArguments arguments)
  | .member object property => .member object.rename property.rename
  | .identifier name => .identifier (σ name)
  | .literal raw => .literal raw
  | .unsupported kind line => .unsupported kind line

def Receiver.rename : Receiver → Receiver
  | .super => .super
  | .expr e => .expr e.rename

def Argument.rename : Argument → Argument
  | .expr e => .expr e.rename
  | .spread e => .spread e.rename

def renameArguments : List Argument → List Argument
  | [] => []
  | a :: rest => a.rename :: renameArguments rest

def Property.rename : Property → Property
  | .name name => .name (σ name)
  | .privateName name => .privateName name
  | .computed e => .computed e.rename

def Pattern.rename : Pattern → Pattern
  | .identifier name => .identifier (σ name)
  | .object properties => .object (renameProperties properties)
  | .array elements => .array (renamePatterns elements)
  | .rest argument => .rest argument.rename
  | .withDefault left right => .withDefault left.rename right.rename
  | .target e => .target e.rename
  | .unsupported kind line => .unsupported kind line

def PatternProperty.rename : PatternProperty → PatternProperty
  | .pair key value => .pair key value.rename
  | .rest argument => .rest argument.rename

def renameProperties : List PatternProperty → List PatternProperty
  | [] => []
  | p :: rest => p.rename :: renameProperties rest

def renamePatterns : List Pattern → List Pattern
  | [] => []
  | p :: rest => p.rename :: renamePatterns rest

end

def Declarator.rename (v : Declarator) : Declarator where
  id := v.id.rename σ
  init := v.init.map (Expr.rename σ)

def VariableDeclaration.rename (d : VariableDeclaration) : VariableDeclaration where
  kind := d.kind
  declarations := d.declarations.map (Declarator.rename σ)

def ForInit.rename : ForInit → ForInit
  | .none => .none
  | .declaration d => .declaration (d.rename σ)
  | .expr e => .expr (e.rename σ)

def ForTarget.rename : ForTarget → ForTarget
  | .declaration d => .declaration (d.rename σ)
  | .pattern p => .pattern (p.rename σ)

mutual

def Statement.rename : Statement → Statement
  | .function id params body isAsync isGenerator =>
    .function (id.map σ) (renamePatterns σ params) (renameStatements body) isAsync isGenerator
  | .block body => .block (renameStatements body)
  | .doWhile body test => .doWhile body.rename (test.rename σ)
  | .expression e => .expression (e.rename σ)
  | .for init test update body =>
    .for (init.rename σ) (test.map (Expr.rename σ)) (update.map (Expr.rename σ)) body.rename
  | .forIn left right body => .forIn (left.rename σ) (right.rename σ) body.rename
  | .forOf left right body isAwait => .forOf (left.rename σ) (right.rename σ) body.rename isAwait
  | .if test consequent alternate => .if (test.rename σ) consequent.rename (renameOptional alternate)
  | .labeled label body => .labeled (σ label) body.rename
  | .return argument => .return (argument.map (Expr.rename σ))
  | .declaration d => .declaration (d.rename σ)
  | .while test body => .while (test.rename σ) body.rename
  | .break label => .break (label.map σ)
  | .continue label => .continue (label.map σ)
  | .debugger => .debugger
  | .empty => .empty
  | .unsupported kind line nested => .unsupported kind line (renameStatements nested)

def renameOptional : Option Statement → Option Statement
  | none => none
  | some s => some s.rename

def renameStatements : List Statement → List Statement
  | [] => []
  | s :: rest => s.rename :: renameStatements rest

end

theorem renameArguments_eq_map (as : List Argument) :
    renameArguments σ as = as.map (Argument.rename σ) := by
  induction as with
  | nil => rfl
  | cons a rest ih => rw [renameArguments, ih, List.map_cons]

theorem renameProperties_eq_map (ps : List PatternProperty) :
    renameProperties σ ps = ps.map (PatternProperty.rename σ) := by
  induction ps with
  | nil => rfl
  | cons p rest ih => rw [renameProperties, ih, List.map_cons]

theorem renamePatterns_eq_map (ps : List Pattern) : renamePatterns σ ps = ps.map (Pattern.rename σ) := by
  induction ps with
  | nil => rfl
  | cons p rest ih => rw [renamePatterns, ih, List.map_cons]

theorem renameStatements_eq_map (body : List Statement) :
    renameStatements σ body = body.map (Statement.rename σ) := by
  induction body with
  | nil => rfl
  | cons s rest ih => rw [renameStatements, ih, List.map_cons]

end Rename

/-- Takes one name for another and leaves all the others. -/
def replacing (x y name : String) : String := if name = x then y else name

/-- A function with other names in its parameters and its body; it keeps its own name. -/
def Statement.renameInside (σ : String → String) : Statement → Statement
  | .function id params body isAsync isGenerator =>
    .function id (renamePatterns σ params) (renameStatements σ body) isAsync isGenerator
  | s => s

section Identifiers

mutual

/-- The names that the identifiers carry. -/
def Expr.identifiers : Expr → List String
  | .assign _ left right => left.identifiers ++ right.identifiers
  | .binary _ left right => left.identifiers ++ right.identifiers
  | .call callee arguments => callee.identifiers ++ argumentsIdentifiers arguments
  | .member object property => object.identifiers ++ property.identifiers
  | .identifier name => [name]
  | .literal _ => []
  | .unsupported _ _ => []

def Receiver.identifiers : Receiver → List String
  | .super => []
  | .expr e => e.identifiers

def Argument.identifiers : Argument → List String
  | .expr e => e.identifiers
  | .spread e => e.identifiers

def argumentsIdentifiers : List Argument → List String
  | [] => []
  | a :: rest => a.identifiers ++ argumentsIdentifiers rest

def Property.identifiers : Property → List String
  | .name name => [name]
  | .privateName _ => []
  | .computed e => e.identifiers

def Pattern.identifiers : Pattern → List String
  | .identifier name => [name]
  | .object properties => propertiesIdentifiers properties
  | .array elements => patternsIdentifiers elements
  | .rest argument => argument.identifiers
  | .withDefault left right => left.identifiers ++ right.identifiers
  | .target e => e.identifiers
  | .unsupported _ _ => []

def PatternProperty.identifiers : PatternProperty → List String
  | .pair _ value => value.identifiers
  | .rest argument => argument.identifiers

def propertiesIdentifiers : List PatternProperty → List String
  | [] => []
  | p :: rest => p.identifiers ++ propertiesIdentifiers rest

def patternsIdentifiers : List Pattern → List String
  | [] => []
  | p :: rest => p.identifiers ++ patternsIdentifiers rest

end

def optionalIdentifiers : Option Expr → List String
  | none => []
  | some e => e.identifiers

def Declarator.identifiers (v : Declarator) : List String :=
  v.id.identifiers ++ optionalIdentifiers v.init

def VariableDeclaration.identifiers (d : VariableDeclaration) : List String :=
  d.declarations.flatMap Declarator.identifiers

def ForInit.identifiers : ForInit → List String
  | .none => []
  | .declaration d => d.identifiers
  | .expr e => e.identifiers

def ForTarget.identifiers : ForTarget → List String
  | .declaration d => d.identifiers
  | .pattern p => p.identifiers

mutual

def Statement.identifiers : Statement → List String
  | .function id params body _ _ =>
    id.toList ++ (patternsIdentifiers params ++ statementsIdentifiers body)
  | .block body => statementsIdentifiers body
  | .doWhile body test => body.identifiers ++ test.identifiers
  | .expression e => e.identifiers
  | .for init test update body =>
    init.identifiers ++ (optionalIdentifiers test ++ (optionalIdentifiers update ++ body.identifiers))
  | .forIn left right body => left.identifiers ++ (right.identifiers ++ body.identifiers)
  | .forOf left right body _ => left.identifiers ++ (right.identifiers ++ body.identifiers)
  | .if test consequent alternate =>
    test.identifiers ++ (consequent.identifiers ++ alternateIdentifiers alternate)
  | .labeled label body => label :: body.identifiers
  | .return argument => optionalIdentifiers argument
  | .declaration d => d.identifiers
  | .while test body => test.identifiers ++ body.identifiers
  | .break label => label.toList
  | .continue label => label.toList
  | .debugger => []
  | .empty => []
  | .unsupported _ _ nested => statementsIdentifiers nested

def alternateIdentifiers : Option Statement → List String
  | none => []
  | some s => s.identifiers

def statementsIdentifiers : List Statement → List String
  | [] => []
  | s :: rest => s.identifiers ++ statementsIdentifiers rest

end

theorem mem_argumentsIdentifiers {as : List Argument} {a : Argument} {name : String} (member : a ∈ as)
    (carried : name ∈ a.identifiers) : name ∈ argumentsIdentifiers as := by
  induction member with
  | head => exact List.mem_append_left _ carried
  | tail _ _ ih => exact List.mem_append_right _ ih

theorem mem_statementsIdentifiers {body : List Statement} {s : Statement} {name : String}
    (member : s ∈ body) (carried : name ∈ s.identifiers) : name ∈ statementsIdentifiers body := by
  induction member with
  | head => exact List.mem_append_left _ carried
  | tail _ _ ih => exact List.mem_append_right _ ih

end Identifiers

section Cancel

variable {σ τ : String → String}

mutual

theorem Expr.rename_cancel (cancels : ∀ n, τ (σ n) = n) : ∀ e : Expr, (e.rename σ).rename τ = e
  | .assign operator left right => by
      rw [Expr.rename, Expr.rename, Pattern.rename_cancel cancels left, Expr.rename_cancel cancels right]
  | .binary operator left right => by
      rw [Expr.rename, Expr.rename, Expr.rename_cancel cancels left, Expr.rename_cancel cancels right]
  | .call callee arguments => by
      rw [Expr.rename, Expr.rename, Receiver.rename_cancel cancels callee,
        renameArguments_cancel cancels arguments]
  | .member object property => by
      rw [Expr.rename, Expr.rename, Receiver.rename_cancel cancels object,
        Property.rename_cancel cancels property]
  | .identifier name => by rw [Expr.rename, Expr.rename, cancels]
  | .literal _ => rfl
  | .unsupported .. => rfl

theorem Receiver.rename_cancel (cancels : ∀ n, τ (σ n) = n) : ∀ r : Receiver, (r.rename σ).rename τ = r
  | .super => rfl
  | .expr e => by rw [Receiver.rename, Receiver.rename, Expr.rename_cancel cancels e]

theorem Argument.rename_cancel (cancels : ∀ n, τ (σ n) = n) : ∀ a : Argument, (a.rename σ).rename τ = a
  | .expr e => by rw [Argument.rename, Argument.rename, Expr.rename_cancel cancels e]
  | .spread e => by rw [Argument.rename, Argument.rename, Expr.rename_cancel cancels e]

theorem renameArguments_cancel (cancels : ∀ n, τ (σ n) = n) :
    ∀ as : List Argument, renameArguments τ (renameArguments σ as) = as
  | [] => rfl
  | a :: rest => by
      rw [renameArguments, renameArguments, Argument.rename_cancel cancels a,
        renameArguments_cancel cancels rest]

theorem Property.rename_cancel (cancels : ∀ n, τ (σ n) = n) : ∀ p : Property, (p.rename σ).rename τ = p
  | .name name => by rw [Property.rename, Property.rename, cancels]
  | .privateName _ => rfl
  | .computed e => by rw [Property.rename, Property.rename, Expr.rename_cancel cancels e]

theorem Pattern.rename_cancel (cancels : ∀ n, τ (σ n) = n) : ∀ p : Pattern, (p.rename σ).rename τ = p
  | .identifier name => by rw [Pattern.rename, Pattern.rename, cancels]
  | .object properties => by rw [Pattern.rename, Pattern.rename, renameProperties_cancel cancels properties]
  | .array elements => by rw [Pattern.rename, Pattern.rename, renamePatterns_cancel cancels elements]
  | .rest argument => by rw [Pattern.rename, Pattern.rename, Pattern.rename_cancel cancels argument]
  | .withDefault left right => by
      rw [Pattern.rename, Pattern.rename, Pattern.rename_cancel cancels left,
        Expr.rename_cancel cancels right]
  | .target e => by rw [Pattern.rename, Pattern.rename, Expr.rename_cancel cancels e]
  | .unsupported .. => rfl

theorem PatternProperty.rename_cancel (cancels : ∀ n, τ (σ n) = n) :
    ∀ p : PatternProperty, (p.rename σ).rename τ = p
  | .pair key value => by
      rw [PatternProperty.rename, PatternProperty.rename, Pattern.rename_cancel cancels value]
  | .rest argument => by
      rw [PatternProperty.rename, PatternProperty.rename, Pattern.rename_cancel cancels argument]

theorem renameProperties_cancel (cancels : ∀ n, τ (σ n) = n) :
    ∀ ps : List PatternProperty, renameProperties τ (renameProperties σ ps) = ps
  | [] => rfl
  | p :: rest => by
      rw [renameProperties, renameProperties, PatternProperty.rename_cancel cancels p,
        renameProperties_cancel cancels rest]

theorem renamePatterns_cancel (cancels : ∀ n, τ (σ n) = n) :
    ∀ ps : List Pattern, renamePatterns τ (renamePatterns σ ps) = ps
  | [] => rfl
  | p :: rest => by
      rw [renamePatterns, renamePatterns, Pattern.rename_cancel cancels p,
        renamePatterns_cancel cancels rest]

end

theorem map_rename_cancel {α : Type} {there back : α → α} (cancels : ∀ a, back (there a) = a)
    (o : Option α) : (o.map there).map back = o := by
  cases o with
  | none => rfl
  | some a => exact congrArg some (cancels a)

theorem Declarator.rename_cancel (cancels : ∀ n, τ (σ n) = n) (v : Declarator) :
    (v.rename σ).rename τ = v := by
  rw [Declarator.rename, Declarator.rename, Pattern.rename_cancel cancels,
    map_rename_cancel (Expr.rename_cancel cancels)]

theorem VariableDeclaration.rename_cancel (cancels : ∀ n, τ (σ n) = n) (d : VariableDeclaration) :
    (d.rename σ).rename τ = d := by
  have each : Declarator.rename τ ∘ Declarator.rename σ = id := funext (Declarator.rename_cancel cancels)
  simp only [VariableDeclaration.rename, List.map_map, each, List.map_id]

theorem ForInit.rename_cancel (cancels : ∀ n, τ (σ n) = n) (init : ForInit) :
    (init.rename σ).rename τ = init := by
  cases init with
  | none => rfl
  | declaration d => rw [ForInit.rename, ForInit.rename, d.rename_cancel cancels]
  | expr e => rw [ForInit.rename, ForInit.rename, e.rename_cancel cancels]

theorem ForTarget.rename_cancel (cancels : ∀ n, τ (σ n) = n) (target : ForTarget) :
    (target.rename σ).rename τ = target := by
  cases target with
  | declaration d => rw [ForTarget.rename, ForTarget.rename, d.rename_cancel cancels]
  | pattern p => rw [ForTarget.rename, ForTarget.rename, p.rename_cancel cancels]

mutual

theorem Statement.rename_cancel (cancels : ∀ n, τ (σ n) = n) : ∀ s : Statement, (s.rename σ).rename τ = s
  | .function id params body isAsync isGenerator => by
      rw [Statement.rename, Statement.rename, map_rename_cancel cancels, renamePatterns_cancel cancels,
        renameStatements_cancel cancels body]
  | .block body => by rw [Statement.rename, Statement.rename, renameStatements_cancel cancels body]
  | .doWhile body test => by
      rw [Statement.rename, Statement.rename, Statement.rename_cancel cancels body, test.rename_cancel cancels]
  | .expression e => by rw [Statement.rename, Statement.rename, e.rename_cancel cancels]
  | .for init test update body => by
      rw [Statement.rename, Statement.rename, init.rename_cancel cancels,
        map_rename_cancel (Expr.rename_cancel cancels), map_rename_cancel (Expr.rename_cancel cancels),
        Statement.rename_cancel cancels body]
  | .forIn left right body => by
      rw [Statement.rename, Statement.rename, left.rename_cancel cancels, right.rename_cancel cancels,
        Statement.rename_cancel cancels body]
  | .forOf left right body isAwait => by
      rw [Statement.rename, Statement.rename, left.rename_cancel cancels, right.rename_cancel cancels,
        Statement.rename_cancel cancels body]
  | .if test consequent alternate => by
      rw [Statement.rename, Statement.rename, test.rename_cancel cancels,
        Statement.rename_cancel cancels consequent, renameOptional_cancel cancels alternate]
  | .labeled label body => by
      rw [Statement.rename, Statement.rename, cancels, Statement.rename_cancel cancels body]
  | .return argument => by
      rw [Statement.rename, Statement.rename, map_rename_cancel (Expr.rename_cancel cancels)]
  | .declaration d => by rw [Statement.rename, Statement.rename, d.rename_cancel cancels]
  | .while test body => by
      rw [Statement.rename, Statement.rename, test.rename_cancel cancels, Statement.rename_cancel cancels body]
  | .break label => by rw [Statement.rename, Statement.rename, map_rename_cancel cancels]
  | .continue label => by rw [Statement.rename, Statement.rename, map_rename_cancel cancels]
  | .debugger => rfl
  | .empty => rfl
  | .unsupported kind line nested => by
      rw [Statement.rename, Statement.rename, renameStatements_cancel cancels nested]

theorem renameOptional_cancel (cancels : ∀ n, τ (σ n) = n) :
    ∀ o : Option Statement, renameOptional τ (renameOptional σ o) = o
  | none => rfl
  | some s => by rw [renameOptional, renameOptional, Statement.rename_cancel cancels s]

theorem renameStatements_cancel (cancels : ∀ n, τ (σ n) = n) :
    ∀ body : List Statement, renameStatements τ (renameStatements σ body) = body
  | [] => rfl
  | s :: rest => by
      rw [renameStatements, renameStatements, Statement.rename_cancel cancels s,
        renameStatements_cancel cancels rest]

end

end Cancel

section Congr

variable {σ τ : String → String}

mutual

theorem Expr.rename_congr :
    ∀ e : Expr, (∀ n ∈ e.identifiers, σ n = τ n) → e.rename σ = e.rename τ
  | .assign operator left right, same => by
      rw [Expr.identifiers, List.forall_mem_append] at same
      rw [Expr.rename, Expr.rename, Pattern.rename_congr left same.1, Expr.rename_congr right same.2]
  | .binary operator left right, same => by
      rw [Expr.identifiers, List.forall_mem_append] at same
      rw [Expr.rename, Expr.rename, Expr.rename_congr left same.1, Expr.rename_congr right same.2]
  | .call callee arguments, same => by
      rw [Expr.identifiers, List.forall_mem_append] at same
      rw [Expr.rename, Expr.rename, Receiver.rename_congr callee same.1,
        renameArguments_congr arguments same.2]
  | .member object property, same => by
      rw [Expr.identifiers, List.forall_mem_append] at same
      rw [Expr.rename, Expr.rename, Receiver.rename_congr object same.1, Property.rename_congr property same.2]
  | .identifier name, same => congrArg Expr.identifier (same name (.head _))
  | .literal _, _ => rfl
  | .unsupported .., _ => rfl

theorem Receiver.rename_congr :
    ∀ r : Receiver, (∀ n ∈ r.identifiers, σ n = τ n) → r.rename σ = r.rename τ
  | .super, _ => rfl
  | .expr e, same => congrArg Receiver.expr (Expr.rename_congr e same)

theorem Argument.rename_congr :
    ∀ a : Argument, (∀ n ∈ a.identifiers, σ n = τ n) → a.rename σ = a.rename τ
  | .expr e, same => congrArg Argument.expr (Expr.rename_congr e same)
  | .spread e, same => congrArg Argument.spread (Expr.rename_congr e same)

theorem renameArguments_congr : ∀ as : List Argument,
    (∀ n ∈ argumentsIdentifiers as, σ n = τ n) → renameArguments σ as = renameArguments τ as
  | [], _ => rfl
  | a :: rest, same => by
      rw [argumentsIdentifiers, List.forall_mem_append] at same
      rw [renameArguments, renameArguments, Argument.rename_congr a same.1, renameArguments_congr rest same.2]

theorem Property.rename_congr :
    ∀ p : Property, (∀ n ∈ p.identifiers, σ n = τ n) → p.rename σ = p.rename τ
  | .name name, same => congrArg Property.name (same name (.head _))
  | .privateName _, _ => rfl
  | .computed e, same => congrArg Property.computed (Expr.rename_congr e same)

theorem Pattern.rename_congr :
    ∀ p : Pattern, (∀ n ∈ p.identifiers, σ n = τ n) → p.rename σ = p.rename τ
  | .identifier name, same => congrArg Pattern.identifier (same name (.head _))
  | .object properties, same => congrArg Pattern.object (renameProperties_congr properties same)
  | .array elements, same => congrArg Pattern.array (renamePatterns_congr elements same)
  | .rest argument, same => congrArg Pattern.rest (Pattern.rename_congr argument same)
  | .withDefault left right, same => by
      rw [Pattern.identifiers, List.forall_mem_append] at same
      rw [Pattern.rename, Pattern.rename, Pattern.rename_congr left same.1, Expr.rename_congr right same.2]
  | .target e, same => congrArg Pattern.target (Expr.rename_congr e same)
  | .unsupported .., _ => rfl

theorem PatternProperty.rename_congr :
    ∀ p : PatternProperty, (∀ n ∈ p.identifiers, σ n = τ n) → p.rename σ = p.rename τ
  | .pair key value, same => congrArg (PatternProperty.pair key) (Pattern.rename_congr value same)
  | .rest argument, same => congrArg PatternProperty.rest (Pattern.rename_congr argument same)

theorem renameProperties_congr : ∀ ps : List PatternProperty,
    (∀ n ∈ propertiesIdentifiers ps, σ n = τ n) → renameProperties σ ps = renameProperties τ ps
  | [], _ => rfl
  | p :: rest, same => by
      rw [propertiesIdentifiers, List.forall_mem_append] at same
      rw [renameProperties, renameProperties, PatternProperty.rename_congr p same.1,
        renameProperties_congr rest same.2]

theorem renamePatterns_congr : ∀ ps : List Pattern,
    (∀ n ∈ patternsIdentifiers ps, σ n = τ n) → renamePatterns σ ps = renamePatterns τ ps
  | [], _ => rfl
  | p :: rest, same => by
      rw [patternsIdentifiers, List.forall_mem_append] at same
      rw [renamePatterns, renamePatterns, Pattern.rename_congr p same.1, renamePatterns_congr rest same.2]

end

theorem map_rename_congr (o : Option Expr) (same : ∀ n ∈ optionalIdentifiers o, σ n = τ n) :
    o.map (Expr.rename σ) = o.map (Expr.rename τ) := by
  cases o with
  | none => rfl
  | some e => exact congrArg some (e.rename_congr same)

theorem map_label_congr (label : Option String) (same : ∀ n ∈ label.toList, σ n = τ n) :
    label.map σ = label.map τ := by
  cases label with
  | none => rfl
  | some name => exact congrArg some (same name (.head _))

theorem Declarator.rename_congr (v : Declarator) (same : ∀ n ∈ v.identifiers, σ n = τ n) :
    v.rename σ = v.rename τ := by
  rw [Declarator.identifiers, List.forall_mem_append] at same
  rw [Declarator.rename, Declarator.rename, v.id.rename_congr same.1, map_rename_congr v.init same.2]

theorem VariableDeclaration.rename_congr (d : VariableDeclaration)
    (same : ∀ n ∈ d.identifiers, σ n = τ n) : d.rename σ = d.rename τ := by
  rw [VariableDeclaration.rename, VariableDeclaration.rename, List.map_congr_left]
  intro v member
  exact v.rename_congr fun n inside => same n (List.mem_flatMap.mpr ⟨v, member, inside⟩)

theorem ForInit.rename_congr (init : ForInit) (same : ∀ n ∈ init.identifiers, σ n = τ n) :
    init.rename σ = init.rename τ := by
  cases init with
  | none => rfl
  | declaration d => exact congrArg ForInit.declaration (d.rename_congr same)
  | expr e => exact congrArg ForInit.expr (e.rename_congr same)

theorem ForTarget.rename_congr (target : ForTarget) (same : ∀ n ∈ target.identifiers, σ n = τ n) :
    target.rename σ = target.rename τ := by
  cases target with
  | declaration d => exact congrArg ForTarget.declaration (d.rename_congr same)
  | pattern p => exact congrArg ForTarget.pattern (p.rename_congr same)

mutual

/-- Renamings that agree on the identifiers do the same. -/
theorem Statement.rename_congr :
    ∀ s : Statement, (∀ n ∈ s.identifiers, σ n = τ n) → s.rename σ = s.rename τ
  | .function id params body isAsync isGenerator, same => by
      rw [Statement.identifiers, List.forall_mem_append, List.forall_mem_append] at same
      rw [Statement.rename, Statement.rename, map_label_congr id same.1, renamePatterns_congr params same.2.1,
        renameStatements_congr body same.2.2]
  | .block body, same => congrArg Statement.block (renameStatements_congr body same)
  | .doWhile body test, same => by
      rw [Statement.identifiers, List.forall_mem_append] at same
      rw [Statement.rename, Statement.rename, Statement.rename_congr body same.1, test.rename_congr same.2]
  | .expression e, same => congrArg Statement.expression (e.rename_congr same)
  | .for init test update body, same => by
      rw [Statement.identifiers, List.forall_mem_append, List.forall_mem_append,
        List.forall_mem_append] at same
      rw [Statement.rename, Statement.rename, init.rename_congr same.1, map_rename_congr test same.2.1,
        map_rename_congr update same.2.2.1, Statement.rename_congr body same.2.2.2]
  | .forIn left right body, same => by
      rw [Statement.identifiers, List.forall_mem_append, List.forall_mem_append] at same
      rw [Statement.rename, Statement.rename, left.rename_congr same.1, right.rename_congr same.2.1,
        Statement.rename_congr body same.2.2]
  | .forOf left right body isAwait, same => by
      rw [Statement.identifiers, List.forall_mem_append, List.forall_mem_append] at same
      rw [Statement.rename, Statement.rename, left.rename_congr same.1, right.rename_congr same.2.1,
        Statement.rename_congr body same.2.2]
  | .if test consequent alternate, same => by
      rw [Statement.identifiers, List.forall_mem_append, List.forall_mem_append] at same
      rw [Statement.rename, Statement.rename, test.rename_congr same.1,
        Statement.rename_congr consequent same.2.1, renameOptional_congr alternate same.2.2]
  | .labeled label body, same => by
      rw [Statement.identifiers, List.forall_mem_cons] at same
      rw [Statement.rename, Statement.rename, same.1, Statement.rename_congr body same.2]
  | .return argument, same => congrArg Statement.return (map_rename_congr argument same)
  | .declaration d, same => congrArg Statement.declaration (d.rename_congr same)
  | .while test body, same => by
      rw [Statement.identifiers, List.forall_mem_append] at same
      rw [Statement.rename, Statement.rename, test.rename_congr same.1, Statement.rename_congr body same.2]
  | .break label, same => congrArg Statement.break (map_label_congr label same)
  | .continue label, same => congrArg Statement.continue (map_label_congr label same)
  | .debugger, _ => rfl
  | .empty, _ => rfl
  | .unsupported kind line nested, same =>
      congrArg (Statement.unsupported kind line) (renameStatements_congr nested same)

theorem renameOptional_congr : ∀ o : Option Statement,
    (∀ n ∈ alternateIdentifiers o, σ n = τ n) → renameOptional σ o = renameOptional τ o
  | none, _ => rfl
  | some s, same => congrArg some (Statement.rename_congr s same)

theorem renameStatements_congr : ∀ body : List Statement,
    (∀ n ∈ statementsIdentifiers body, σ n = τ n) → renameStatements σ body = renameStatements τ body
  | [], _ => rfl
  | s :: rest, same => by
      rw [statementsIdentifiers, List.forall_mem_append] at same
      rw [renameStatements, renameStatements, Statement.rename_congr s same.1,
        renameStatements_congr rest same.2]

end

end Congr

end SketchSurvey.Script
