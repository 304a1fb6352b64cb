import SketchSurvey.Bundled
import SketchSurvey.Proofs.Analysis.Spelling
import SketchSurvey.Proofs.Script.Agreement
import SketchSurvey.Proofs.Script.Lowered
import SketchSurvey.Proofs.Script.Preorder
import SketchSurvey.Proofs.Script.Recommented
import SketchSurvey.Sketch.Classify

/-! Comments carry no meaning. Only texts that are kept as they are written show the comments that stand
inside: those of literals and of the keys of object patterns, unless they are single tokens. -/

set_option autoImplicit false

namespace SketchSurvey.Analysis

open SketchSurvey.Script SketchSurvey.Settings SketchSurvey.Sketch
open Node (branch leaf word enclosed SpellsTokens)

section Comments

variable {n n' : Node}

theorem program_of_recommented (same : n.Recommented n') (tokens : n.Everywhere SpellsTokens)
    (tokens' : n'.Everywhere SpellsTokens) :
    Lowering.Related (Program.Alike (n.respelling n')) (Lowering.program n) (Lowering.program n') :=
  Lowering.program_related (same.spells tokens tokens')

/-- What the analyses and the judgement of a script make of trees that differ in comments only. -/
theorem analyses_of_recommented [Host] (same : n.Recommented n') (tokens : n.Everywhere SpellsTokens)
    (tokens' : n'.Everywhere SpellsTokens) :
    (∀ p, Lowering.program n = .ok p → ∃ p', Lowering.program n' = .ok p' ∧
        p.Alike (n.respelling n') p' ∧ freeVariables p = freeVariables p' ∧
        p.globalNames = p'.globalNames ∧
        ∀ space, memberReferences space p = memberReferences space p') ∧
      (∀ lacking, Lowering.program n = .error lacking → Lowering.program n' = .error lacking) ∧
      ∀ (read : String → Node) (settings : AnalysisSettings) (text text' fileName fileName' : String),
        n.hasError = false → read text = n → read text' = n' →
        parseWith read text fileName = (Lowering.program n).mapError .missingPart ∧
          parseWith read text' fileName' = (Lowering.program n').mapError .missingPart ∧
          declaresSketch settings text (parseWith read text fileName) =
            declaresSketch settings text' (parseWith read text' fileName') := by
  have related := program_of_recommented same tokens tokens'
  refine ⟨?_, ?_, ?_⟩
  · intro p lowered
    rw [lowered] at related
    generalize Lowering.program n' = y at related
    cases related with
    | ok alike =>
        exact ⟨_, rfl, alike, freeVariables_alike alike, alike.globalNames,
          fun space => memberReferences_alike space alike⟩
  · intro lacking failed
    rw [failed] at related
    generalize Lowering.program n' = y at related
    cases related
    rfl
  · intro read settings text text' fileName fileName' clean isRead isRead'
    have clean' : n'.hasError = false := same.head.hasError ▸ clean
    have parsed : parseWith read text fileName = (Lowering.program n).mapError .missingPart := by
      rw [parseWith, isRead, if_neg (by simp [clean])]
    have parsed' : parseWith read text' fileName' = (Lowering.program n').mapError .missingPart := by
      rw [parseWith, isRead', if_neg (by simp [clean'])]
    refine ⟨parsed, parsed', ?_⟩
    rw [parsed, parsed']
    generalize Lowering.program n = x, Lowering.program n' = y at related
    cases related with
    | ok alike => simp only [Except.mapError, declaresSketch, alike.functionNames]
    | error => rfl

end Comments

section Example

/-- The pattern `{a}` as the key of a property, with comments inside that have the text `mark`. -/
def markedKey (comments : List Node) (mark : String) : Node :=
  branch "object_pattern" (some "left") 0 ("\x7ba" ++ mark ++ "\x7d") <|
    enclosed .curly 0 0 (leaf "shorthand_property_identifier_pattern" none 0 "a" :: comments)

/-- The regular expression `/ab/g`, with the comments between its pieces. -/
def markedRegex (comments : List Node) (mark : String) : Node :=
  branch "regex" (some "right") 0 ("/ab/" ++ mark ++ "g") <|
    word none 0 "/" :: leaf "regex_pattern" (some "pattern") 0 "ab" :: word none 0 "/" ::
      (comments ++ [leaf "regex_flags" (some "flags") 0 "g"])

def markedProperty (comments : List Node) (mark : String) : Node :=
  let key := markedKey comments mark
  let regex := markedRegex comments mark
  branch "object_assignment_pattern" none 0 (key.text ++ " = " ++ regex.text)
    [key, word none 0 "=", regex]

def markedDeclarator (comments : List Node) (mark : String) : Node :=
  let property := markedProperty comments mark
  let bound := "\x7b " ++ property.text ++ " \x7d"
  branch "variable_declarator" none 0 (bound ++ " = d") [
    branch "object_pattern" (some "name") 0 bound (enclosed .curly 0 0 [property]),
    word none 0 "=", leaf "identifier" (some "value") 0 "d"]

/-- The declaration `var { {a} = /ab/g } = d;` with comments in the key and in the default. -/
def markedTree (comments : List Node) (mark : String) : Node :=
  let declarator := markedDeclarator comments mark
  let text := "var " ++ declarator.text ++ ";"
  branch "program" none 0 text [branch "variable_declaration" none 0 text
    (word none 0 DeclarationKind.var.word :: ([declarator] ++ [word none 0 ";"]))]

/-- The program of such a tree. -/
def markedProgram (key raw : String) : Program :=
  ⟨[.declaration {
      kind := .var
      declarations := [{
        id := .object [.pair key (.withDefault (.object [.pair "a" (.identifier "a")]) (.literal raw))]
        init := some (.identifier "d") }] }]⟩

variable {comments : List Node} {mark : String}

theorem pattern_markedKey (isComment : ∀ c ∈ comments, c.isComment = true) :
    Lower.pattern (markedKey comments mark) = .object [.pair "a" (.identifier "a")] := by
  have unshown : comments.filter Node.isShown = [] := by
    rw [List.filter_eq_nil_iff]
    intro c member
    simp [Node.isShown, isComment c member]
  have shorthand : Lower.patternProperty (leaf "shorthand_property_identifier_pattern" none 0 "a") =
      .pair "a" (.identifier "a") := by
    rw [Lower.patternProperty, Lower.pattern]
    rfl
  rw [markedKey, Lower.pattern_object, List.filter_cons_of_pos rfl, unshown, List.map_singleton, shorthand]

theorem patternProperty_marked (isComment : ∀ c ∈ comments, c.isComment = true) :
    Lower.patternProperty (markedProperty comments mark) = .pair ("\x7ba" ++ mark ++ "\x7d")
      (.withDefault (.object [.pair "a" (.identifier "a")]) (.literal ("/ab/" ++ mark ++ "g"))) := by
  have regex : Lower.expression (markedRegex comments mark) = .literal ("/ab/" ++ mark ++ "g") := by
    rw [Lower.expression]
    rfl
  rw [Lower.patternProperty]
  simp only [markedProperty, Node.kind_mk]
  rw [Lower.patternAt_eq "left" rfl, Lower.expressionAt_eq "right" rfl, pattern_markedKey isComment, regex]
  rfl

theorem program_markedTree (isComment : ∀ c ∈ comments, c.isComment = true) :
    Lower.program (markedTree comments mark) =
      markedProgram ("\x7ba" ++ mark ++ "\x7d") ("/ab/" ++ mark ++ "g") := by
  have declarator : Lower.declarator (markedDeclarator comments mark) = {
      id := .object [.pair ("\x7ba" ++ mark ++ "\x7d")
        (.withDefault (.object [.pair "a" (.identifier "a")]) (.literal ("/ab/" ++ mark ++ "g")))]
      init := some (.identifier "d") } := by
    rw [markedDeclarator, Lower.declarator_initialized ⟨rfl, rfl, rfl⟩ ⟨rfl, rfl, rfl⟩,
      Lower.pattern_object, List.filter_cons_of_pos rfl, List.filter_nil, List.map_singleton,
      patternProperty_marked isComment, Lower.expression_identifier]
  rw [Lower.program, markedTree]
  simp only [Node.parts_eq_filter, Node.children_mk]
  rw [List.filter_cons_of_pos rfl, List.filter_nil, List.map_singleton, Lower.statement_declaration rfl,
    Lower.variableDeclaration_eq .var, List.filter_cons_of_pos rfl, List.filter_nil,
    List.filter_cons_of_pos rfl, List.filter_nil, List.map_singleton, declarator]
  rfl

/-- What holds of the nodes of such a tree: tokens are single, and no key is computed. -/
structure Plain (n : Node) : Prop where
  tokens : n.SpellsTokens
  notComputed : n.kind ≠ "computed_property_name"

theorem plain_leaf {kind text : String} {named : Bool} {field : Option String}
    (notComputed : kind ≠ "computed_property_name") :
    (Node.mk kind named false false 0 text field []).Everywhere Plain :=
  .intro ⟨⟨fun _ => rfl, fun _ _ _ found => nomatch found⟩, notComputed⟩ (List.forall_mem_nil _)

theorem plain_branch {kind text : String} {field : Option String} {children : List Node}
    (other : kind ∉ "computed_property_name" :: Node.tokenKinds ++ Node.tokenParts.map Prod.fst)
    (below : ∀ c ∈ children, c.Everywhere Plain) :
    (branch kind field 0 text children).Everywhere Plain := by
  simp only [List.mem_append, List.mem_cons, not_or] at other
  exact .intro ⟨Node.spellsTokens_of_other other.1.2 other.2, other.1.1⟩ below

theorem plain_markedTree (plain : ∀ c ∈ comments, c.Everywhere Plain) :
    (markedTree comments mark).Everywhere Plain := by
  have key : (markedKey comments mark).Everywhere Plain :=
    plain_branch (by decide) <| by
      simpa [enclosed, Bracket.opening, Bracket.closing, plain_leaf, or_imp, forall_and] using plain
  have regex : (markedRegex comments mark).Everywhere Plain :=
    plain_branch (by decide) <| by simpa [plain_leaf, or_imp, forall_and] using plain
  have property : (markedProperty comments mark).Everywhere Plain :=
    plain_branch (by decide) <| by simp [plain_leaf, key, regex]
  have bound {text : String} : (branch "object_pattern" (some "name") 0 text
      (enclosed .curly 0 0 [markedProperty comments mark])).Everywhere Plain :=
    plain_branch (by decide) <| by
      simp [enclosed, Bracket.opening, Bracket.closing, plain_leaf, property]
  have declarator : (markedDeclarator comments mark).Everywhere Plain :=
    plain_branch (by decide) <| by simp [plain_leaf, bound]
  refine plain_branch (by decide) (List.forall_mem_singleton.mpr ?_)
  exact plain_branch (by decide) (by simp [DeclarationKind.word, plain_leaf, declarator])

def bareTree : Node := markedTree [] ""

def commentedTree : Node := markedTree [leaf "comment" none 0 "/*c*/"] "/*c*/"

theorem recommented_commentedTree : commentedTree.Recommented bareTree := by
  have same (n : Node) : n.Recommented n := .refl n
  have key : (markedKey [leaf "comment" none 0 "/*c*/"] "/*c*/").Recommented (markedKey [] "") :=
    .without [word none 0 "\x7b", leaf "shorthand_property_identifier_pattern" none 0 "a"]
      [word none 0 "\x7d"] rfl
  have regex : (markedRegex [leaf "comment" none 0 "/*c*/"] "/*c*/").Recommented (markedRegex [] "") :=
    .without [word none 0 "/", leaf "regex_pattern" (some "pattern") 0 "ab", word none 0 "/"]
      [leaf "regex_flags" (some "flags") 0 "g"] rfl
  have property : (markedProperty [leaf "comment" none 0 "/*c*/"] "/*c*/").Recommented
      (markedProperty [] "") :=
    .mk (by simp [markedKey]) (.cons key (.cons (same _) (.cons regex .nil)))
  have bound := List.Forall₂.cons (same (word none 0 "\x7b"))
    (.cons property (.cons (same (word none 0 "\x7d")) .nil))
  have declarator : (markedDeclarator [leaf "comment" none 0 "/*c*/"] "/*c*/").Recommented
      (markedDeclarator [] "") :=
    .mk (by simp [markedProperty, markedKey, markedRegex]) (.cons
      (.mk (by simp [enclosed, markedProperty, markedKey]) bound) (.cons (same _) (.cons (same _) .nil)))
  exact .mk (by simp [markedDeclarator, markedProperty, markedKey, markedRegex]) (.cons
    (.mk (by simp [markedDeclarator, markedProperty, markedKey, markedRegex])
      (.cons (same _) (.cons declarator (.cons (same _) .nil)))) .nil)

theorem plain_commentedTree : commentedTree.Everywhere Plain :=
  plain_markedTree (List.forall_mem_singleton.mpr (plain_leaf (by decide)))

theorem plain_bareTree : bareTree.Everywhere Plain := plain_markedTree (List.forall_mem_nil _)

theorem program_commentedTree :
    Lowering.program commentedTree = .ok (markedProgram "\x7ba/*c*/\x7d" "/ab//*c*/g") := by
  have has : commentedTree.Everywhere Node.HasParts := .of_forall_mem (by decide)
  rw [Lowering.program_of_hasParts has, commentedTree, program_markedTree (by simp [Node.isComment])]
  rfl

theorem program_bareTree : Lowering.program bareTree = .ok (markedProgram "\x7ba\x7d" "/ab/g") := by
  have has : bareTree.Everywhere Node.HasParts := .of_forall_mem (by decide)
  rw [Lowering.program_of_hasParts has, bareTree, program_markedTree (List.forall_mem_nil _)]
  rfl

def readMarked (text : String) : Node := if text = bareTree.text then bareTree else commentedTree

theorem analyses_of_recommented_commentedTree :
    commentedTree.Recommented bareTree ∧
      (commentedTree.Everywhere SpellsTokens ∧ bareTree.Everywhere SpellsTokens) ∧
      (∃ p p', Lowering.program commentedTree = .ok p ∧ Lowering.program bareTree = .ok p' ∧
        p.Alike (commentedTree.respelling bareTree) p' ∧ freeVariables p = freeVariables p') ∧
      ∀ settings, @declaresSketch .bundled settings commentedTree.text
          (parseWith readMarked commentedTree.text) =
        @declaresSketch .bundled settings bareTree.text (parseWith readMarked bareTree.text) := by
  have tokens := plain_commentedTree.mono fun _ => Plain.tokens
  have tokens' := plain_bareTree.mono fun _ => Plain.tokens
  obtain ⟨lowers, _, parses⟩ :=
    @analyses_of_recommented _ _ .bundled recommented_commentedTree tokens tokens'
  obtain ⟨p', lowered, alike, free, _, _⟩ := lowers _ program_commentedTree
  refine ⟨recommented_commentedTree, ⟨tokens, tokens'⟩,
    ⟨_, p', program_commentedTree, lowered, alike, free⟩, fun settings => ?_⟩
  exact (parses readMarked settings _ _ anonymous anonymous rfl rfl rfl).2.2

/-- A comment inside a key that is a pattern, and one inside a literal, are seen in the program, which has
no key that is computed. -/
theorem program_shows_comments :
    commentedTree.Recommented bareTree ∧
      (commentedTree.hasError = false ∧ bareTree.hasError = false) ∧
      (commentedTree.Everywhere Plain ∧ bareTree.Everywhere Plain) ∧
      Lowering.program commentedTree = .ok (markedProgram "\x7ba/*c*/\x7d" "/ab//*c*/g") ∧
      Lowering.program bareTree = .ok (markedProgram "\x7ba\x7d" "/ab/g") ∧
      Lowering.program commentedTree ≠ Lowering.program bareTree := by
  refine ⟨recommented_commentedTree, ⟨rfl, rfl⟩, ⟨plain_commentedTree, plain_bareTree⟩,
    program_commentedTree, program_bareTree, ?_⟩
  rw [program_commentedTree, program_bareTree]
  simp [markedProgram]

end Example

end SketchSurvey.Analysis
