import SketchSurvey.Proofs.Files.Extension
import SketchSurvey.Proofs.Files.TextFile
import SketchSurvey.Sketch.Scan

/-! What it takes to be judged a sketch, and when an entry cannot be judged at all. -/

set_option autoImplicit false

namespace SketchSurvey.Sketch

open SketchSurvey.Files SketchSurvey.Log SketchSurvey.Settings

theorem hasExtension_join {name : String} (undivided : '/' ∉ name.toList) (extensions : List String)
    (dir : String) :
    hasExtension extensions (Path.join dir name) = hasExtension extensions name := by
  rw [hasExtension, hasExtension, Path.extension_join undivided]

theorem hasExtension_markup_iff {name : String} (undivided : '/' ∉ name.toList) :
    hasExtension markupExtensions name = true ↔ HasEnding "htm" name ∨ HasEnding "html" name := by
  rw [hasExtension, List.contains_iff_mem, markupExtensions, List.mem_cons, List.mem_singleton]
  exact or_congr
    (Path.lower_extension_eq_iff "htm" undivided (by decide) (by decide))
    (Path.lower_extension_eq_iff "html" undivided (by decide) (by decide))

theorem hasExtension_script_iff {name : String} (undivided : '/' ∉ name.toList) :
    hasExtension scriptExtensions name = true ↔ HasEnding "js" name := by
  rw [hasExtension, List.contains_iff_mem, scriptExtensions, List.mem_singleton]
  exact Path.lower_extension_eq_iff "js" undivided (by decide) (by decide)

/-- Whether a test says yes; one that fails does not. -/
def saysYes {ε : Type} (judged : Logged ε Bool) : Bool :=
  match judged.result with
  | .ok b => b
  | .error _ => false

theorem saysYes_iff {ε : Type} {judged : Logged ε Bool} :
    saysYes judged = true ↔ judged.result = .ok true := by
  rw [saysYes]
  split <;> simp_all

/-- Items are kept exactly if the test never fails, and those are that it says yes to. -/
theorem keepIf_eq_ok_iff {ε α : Type} {test : α → Logged ε Bool} {items kept : List α} :
    (keepIf test items).result = .ok kept ↔
      (∀ a ∈ items, ∃ b, (test a).result = .ok b) ∧
        kept = items.filter fun a => saysYes (test a) := by
  induction items generalizing kept with
  | nil => simp [keepIf, eq_comm]
  | cons item rest ih =>
      rw [keepIf, Logged.result_bind_eq_ok_iff, List.forall_mem_cons, List.filter_cons]
      simp only [Logged.result_bind_eq_ok_iff, ih, Logged.result_pure, Except.ok.injEq]
      constructor
      · rintro ⟨b, judged, _, ⟨others, rfl⟩, rfl⟩
        refine ⟨⟨⟨b, judged⟩, others⟩, ?_⟩
        rw [saysYes, judged]
      · rintro ⟨⟨⟨b, judged⟩, others⟩, rfl⟩
        refine ⟨b, judged, _, ⟨others, rfl⟩, ?_⟩
        rw [saysYes, judged]

theorem keepIf_returns {ε α : Type} {test : α → Logged ε Bool} (items : List α)
    (judged : ∀ a ∈ items, ∃ b, (test a).result = .ok b) :
    ∃ kept, (keepIf test items).result = .ok kept :=
  ⟨_, keepIf_eq_ok_iff.mpr ⟨judged, rfl⟩⟩

/-- A warning about a file that is passed over turns no answer into another one. -/
theorem skipUnreadable_eq_true_iff {path : String} {judged : Logged Problem Bool} :
    (skipUnreadable path judged).result = .ok true ↔ judged.result = .ok true := by
  rw [skipUnreadable]
  cases answer : judged.result with
  | ok b => rfl
  | error p =>
      dsimp only
      cases skipReason? p with
      | none => simp
      | some reason => simp [Logged.writeAll, Logged.write, Logged.result_bind_eq_ok_iff]

theorem skipUnreadable_returns_iff {path : String} {judged : Logged Problem Bool} :
    (∃ b, (skipUnreadable path judged).result = .ok b) ↔
      ∀ p, judged.result = .error p → (skipReason? p).isSome := by
  rw [skipUnreadable]
  cases answer : judged.result with
  | ok b => simp
  | error p =>
      dsimp only
      cases reason : skipReason? p with
      | none => simp [reason]
      | some reason =>
          simp [Logged.writeAll, Logged.write, Logged.result_bind_eq_ok_iff, reason]

/-- How an entry is judged by its text, the log left out. -/
def judgeBy (fs : FileSystem) (limit : Int) (extensions : List String)
    (judge : String → Except JudgeProblem Bool) (path : String) : Except Problem Bool :=
  if fs.isDirectory path || !hasExtension extensions path then .ok false
  else
    match fs.readText path limit with
    | .ok text => (judge text).mapError .judge
    | .error p => .error (.read p)

theorem readText_bind_result {α : Type} (fs : FileSystem) (path : String) (limit : Int)
    (next : String → Logged Problem α) :
    (readText fs path limit >>= next).result =
      match fs.readText path limit with
      | .ok text => (next text).result
      | .error p => .error (.read p) := by
  cases read : fs.readText path limit with
  | ok text =>
      rw [Logged.bind_of_ok (a := text) (by rw [readText, read]; rfl)]
  | error p =>
      rw [Logged.bind_of_error (e := .read p) (by rw [readText, read]; rfl)]

theorem judgeMarkup_result [Host] (fs : FileSystem) (s : AnalysisSettings) (path : String) :
    (judgeMarkup fs s path).result =
      judgeBy fs s.maxFileBytes markupExtensions (isSketchMarkup s) path := by
  rw [judgeMarkup, judgeBy]
  split
  · rfl
  · exact readText_bind_result ..

/-- Whether a text declares one of some functions does not depend on the name of its file. -/
theorem declaresSketch_parseOn [Host] (s : AnalysisSettings) (text fileName : String) :
    declaresSketch s text (Script.parseOn text fileName) = isSketchScript s text := by
  rw [isSketchScript, Script.parseOn, Script.parseOn]
  split
  · rfl
  · rw [Script.parseWith, Script.parseWith]
    split <;> rfl

theorem judgeScript_result [Host] (fs : FileSystem) (s : AnalysisSettings) (path : String) :
    (judgeScript fs s path).result =
      judgeBy fs s.maxFileBytes scriptExtensions (isSketchScript s) path := by
  rw [judgeScript, judgeBy]
  split
  · rfl
  · rw [readText_bind_result]
    cases fs.readText path s.maxFileBytes with
    | error p => rfl
    | ok text =>
        dsimp only
        rw [Logged.bind_of_ok (a := ()) (by rfl), declaresSketch_parseOn, Logged.ofExcept]

variable {fs : FileSystem} {limit : Int} {extensions : List String}
  {judge : String → Except JudgeProblem Bool} {path : String}

theorem judgeBy_eq_true_iff :
    judgeBy fs limit extensions judge path = .ok true ↔
      hasExtension extensions path = true ∧
        ∃ text, fs.Holds limit path text ∧ judge text = .ok true := by
  simp only [← FileSystem.readText_eq_ok_iff]
  rw [judgeBy]
  split
  · next other =>
      rw [Bool.or_eq_true, Bool.not_eq_true'] at other
      constructor
      · exact nofun
      · rintro ⟨ending, text, read, -⟩
        rw [(FileSystem.readText_eq_ok_iff.mp read).isDirectory_eq_false, ending] at other
        simp at other
  · next relevant =>
      rw [Bool.or_eq_true, not_or, Bool.not_eq_true', Bool.not_eq_false] at relevant
      cases read : fs.readText path limit with
      | error q => simp
      | ok text =>
          cases answer : judge text with
          | ok b => simp [relevant, answer, Except.mapError]
          | error q => simp [answer, Except.mapError]

/-- Judging an entry that is no directory fails if it cannot be read, or if its text cannot be judged. -/
theorem judgeBy_eq_error_iff {p : Problem} :
    judgeBy fs limit extensions judge path = .error p ↔
      fs.isDirectory path = false ∧ hasExtension extensions path = true ∧
        ((∃ q, fs.readText path limit = .error q ∧ p = .read q) ∨
          ∃ text q, fs.Holds limit path text ∧ judge text = .error q ∧ p = .judge q) := by
  simp only [← FileSystem.readText_eq_ok_iff]
  rw [judgeBy]
  split
  · next other =>
      rw [Bool.or_eq_true, Bool.not_eq_true'] at other
      constructor
      · exact nofun
      · rintro ⟨noDirectory, ending, -⟩
        rw [noDirectory, ending] at other
        simp at other
  · next relevant =>
      rw [Bool.or_eq_true, not_or, Bool.not_eq_true', Bool.not_eq_false, Bool.not_eq_true] at relevant
      cases read : fs.readText path limit with
      | error q => simp [relevant, eq_comm]
      | ok text =>
          cases answer : judge text with
          | ok b => simp [relevant, answer, Except.mapError]
          | error q => simp [relevant, answer, Except.mapError, eq_comm]

end SketchSurvey.Sketch
