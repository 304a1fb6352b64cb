import SketchSurvey.Proofs.Sketch.TextualSearch

/-! Declarations in texts that are no scripts. Under a configuration that passed its check the declaration of
one of its functions is found wherever it stands, unless the name ends in a dollar sign: no word ends between
a dollar sign and a parenthesis, so such a declaration is overlooked. -/

set_option autoImplicit false

namespace SketchSurvey.Sketch

open SketchSurvey.Json SketchSurvey.Regex SketchSurvey.Script SketchSurvey.Settings

/-- The word for functions, white space, a name and the parenthesis of its parameters stand somewhere in a
text. -/
def SpellsDeclaration (text name : String) : Prop :=
  ∃ before blanks after,
    text.toList = before ++ ("function".toList ++ (blanks ++ (name.toList ++ '(' :: after))) ∧
      blanks ≠ [] ∧ ∀ c ∈ blanks, Text.isBlank c = true

theorem endsWord_parenthesis_iff {name after : List Char} :
    EndsWord name ('(' :: after) ↔ name.getLast? ≠ some '$' := by
  have noWord : isWordChar false '(' = false := by decide
  constructor
  · intro ends isLast
    obtain ⟨c, follows, isWord⟩ := ends.dollar isLast
    cases follows
    rw [noWord] at isWord
    cases isWord
  · intro noDollar
    refine ⟨?_, fun isLast => absurd isLast noDollar⟩
    intro last _ _ c follows
    cases follows
    exact noWord

theorem SpellsDeclaration.mentions {text name : String} (declared : SpellsDeclaration text name)
    (noDollar : name.toList.getLast? ≠ some '$') : Mentions text name := by
  obtain ⟨before, blanks, after, chars, filled, blank⟩ := declared
  exact ⟨before, blanks, _, chars, filled, blank, endsWord_parenthesis_iff.mpr noDollar⟩

theorem declaresSketch_of_notScript [Host] {s : AnalysisSettings} {r : Regex.Pattern}
    (compiled : s.fallbackRegex = .ok r) (text : String) (e : SyntaxError) :
    declaresSketch s text (.error (.notScript e)) = .ok (r.search text) := by
  rw [declaresSketch, compiled]

/-- A text that is no script and declares one of the configured functions is taken for a sketch if the name of
the function does not end in a dollar sign. If it does, the declaration does not count: then it takes a
mention of one of the functions elsewhere. -/
theorem declaresSketch_of_spellsDeclaration [Host] {homes : Files.Path.Homes} {v : Value} {strict : Bool}
    {validated : Validated} (passed : validate homes v strict = .ok validated)
    {name : String} (member : name ∈ validated.config.sketchFunctions)
    {read : String → Script.Node} {text fileName : String} {e : SyntaxError}
    (declared : SpellsDeclaration text name)
    (broken : parseWith read text fileName = .error (.notScript e)) :
    ∃ found, declaresSketch (.ofConfig validated.config) text (parseWith read text fileName) = .ok found ∧
      (found = true ↔ name.toList.getLast? ≠ some '$' ∨
        ∃ other ∈ validated.config.sketchFunctions, Mentions text other) := by
  have sound := sound_of_validate passed
  obtain ⟨found, judged, mentioned⟩ :=
    declaresSketch_iff_mentions (s := .ofConfig validated.config) sound.nonempty sound.areNames.plain broken
  refine ⟨found, judged, mentioned.trans ?_⟩
  constructor
  · exact .inr
  · rintro (noDollar | elsewhere)
    · exact ⟨name, member, declared.mentions noDollar⟩
    · exact elsewhere

section Dollar

/-- Names with a dollar sign at either end. -/
def dollarConfig : Value := .object [
  ("sketch_functions", .array [.string "draw$", .string "$draw"])]

theorem validate_dollarConfig :
    ∃ validated, @validate .bundled { own := "/home/me" } dollarConfig true = .ok validated ∧
      validated.config.sketchFunctions = ["draw$", "$draw"] := by
  have given : (@validate .bundled { own := "/home/me" } dollarConfig true).toOption.map
      (·.config.sketchFunctions) = some ["draw$", "$draw"] := by
    decide +kernel
  cases checked : @validate .bundled { own := "/home/me" } dollarConfig true with
  | ok validated =>
      rw [checked] at given
      exact ⟨validated, rfl, Option.some.inj given⟩
  | error =>
      rw [checked] at given
      cases given

/-- The tree of a text that ends within the parameters of a function with this name. -/
def unfinishedDeclaration (name : String) : Script.Node :=
  let text := "function " ++ name ++ "("
  .mk "program" true false true 0 text none [
    .mk "ERROR" true false true 0 text none [
      .mk "function" false false false 0 "function" none [],
      .mk "identifier" true false false 0 name none [],
      .mk "(" false false false 0 "(" none []]]

theorem parseWith_unfinishedDeclaration (name : String) :
    ∃ e, parseWith (fun _ => unfinishedDeclaration name) ("function " ++ name ++ "(") = .error (.notScript e) :=
  ⟨_, rfl⟩

theorem forall_isBlank_space : ∀ c ∈ [' '], Text.isBlank c = true :=
  List.forall_mem_singleton.mpr (by decide)

theorem declaresSketch_of_spellsDeclaration_dollarFirst :
    ∃ validated, @validate .bundled { own := "/home/me" } dollarConfig true = .ok validated ∧
      "$draw" ∈ validated.config.sketchFunctions ∧
      SpellsDeclaration "function $draw(" "$draw" ∧
      ∃ found, @declaresSketch .bundled (.ofConfig validated.config) "function $draw("
          (parseWith (fun _ => unfinishedDeclaration "$draw") "function $draw(") = .ok found ∧
        (found = true ↔ "$draw".toList.getLast? ≠ some '$' ∨
          ∃ other ∈ validated.config.sketchFunctions, Mentions "function $draw(" other) := by
  obtain ⟨validated, passed, names⟩ := validate_dollarConfig
  have member : "$draw" ∈ validated.config.sketchFunctions := by
    rw [names]
    decide
  have declared : SpellsDeclaration "function $draw(" "$draw" :=
    ⟨[], [' '], [], rfl, nofun, forall_isBlank_space⟩
  obtain ⟨e, broken⟩ := parseWith_unfinishedDeclaration "$draw"
  exact ⟨validated, passed, member, declared,
    @declaresSketch_of_spellsDeclaration .bundled _ _ _ _ passed _ member _ _ _ _ declared broken⟩

/-- It is not so that the declaration of every configured function is found. -/
theorem not_declaresSketch_dollarLast :
    ∃ validated, @validate .bundled { own := "/home/me" } dollarConfig true = .ok validated ∧
      "draw$" ∈ validated.config.sketchFunctions ∧
      SpellsDeclaration "function draw$(" "draw$" ∧
      @declaresSketch .bundled (.ofConfig validated.config) "function draw$("
        (parseWith (fun _ => unfinishedDeclaration "draw$") "function draw$(") = .ok false := by
  obtain ⟨validated, passed, names⟩ := validate_dollarConfig
  refine ⟨validated, passed, ?_, ⟨[], [' '], [], rfl, nofun, forall_isBlank_space⟩, ?_⟩
  · rw [names]
    decide
  · have compiled : @AnalysisSettings.fallbackRegex .bundled (.ofConfig validated.config) = .ok _ :=
      @compile_fallbackPattern .bundled validated.config.sketchFunctions
    obtain ⟨e, broken⟩ := parseWith_unfinishedDeclaration "draw$"
    rw [show "function draw$(" = "function " ++ "draw$" ++ "(" from rfl, broken]
    refine (@declaresSketch_of_notScript .bundled _ _ compiled _ _).trans (congrArg _ ?_)
    rw [names]
    decide +kernel

end Dollar

end SketchSurvey.Sketch
