import SketchSurvey.Proofs.Json.RoundTrip
import SketchSurvey.Sketch.Report

/-! The text of a report, line by line: two lines give the name of the file and the message, each in a literal
from which it can be read, and all others are the same in every report. -/

set_option autoImplicit false

namespace SketchSurvey.Json

/-- The characters of the first block that can be seen, and the space. -/
def IsPrintable (c : Char) : Prop := ' ' ≤ c ∧ c ≤ '~'

/-- A literal that stands for a text: pieces between quotes, printable throughout, that are read as the text. -/
structure IsLiteralOf (literal s : String) : Prop where
  printable : ∀ c ∈ literal.toList, IsPrintable c
  quoted : ∃ content, literal.toList = '"' :: content ++ ['"'] ∧ ArePieces content
  decoded : parse literal = .ok (.string s)

theorem IsHexDigit.isPrintable {c : Char} (digit : IsHexDigit c) : IsPrintable c := by
  obtain ⟨n, bound, rfl⟩ := digit
  have all : ∀ n : Fin 16, ' ' ≤ hexDigit n ∧ hexDigit n ≤ '~' := by decide
  exact all ⟨n, bound⟩

theorem IsPiece.isPrintable {cs : List Char} (piece : IsPiece cs) : ∀ c ∈ cs, IsPrintable c := by
  cases piece with
  | plain low high =>
      intro c member
      obtain rfl := List.mem_singleton.mp member
      exact ⟨low, high⟩
  | short known =>
      have backslash : IsPrintable '\\' := ⟨by decide, by decide⟩
      simp only [List.mem_cons, List.not_mem_nil, or_false] at known
      simp only [List.forall_mem_cons]
      refine ⟨backslash, ?_, List.forall_mem_nil _⟩
      rcases known with rfl | rfl | rfl | rfl | rfl | rfl | rfl <;> exact ⟨by decide, by decide⟩
  | code first second third fourth =>
      have backslash : IsPrintable '\\' := ⟨by decide, by decide⟩
      have mark : IsPrintable 'u' := ⟨by decide, by decide⟩
      simp only [List.forall_mem_cons]
      exact ⟨backslash, mark, first.isPrintable, second.isPrintable, third.isPrintable, fourth.isPrintable,
        List.forall_mem_nil _⟩

theorem ArePieces.isPrintable {cs : List Char} (pieces : ArePieces cs) : ∀ c ∈ cs, IsPrintable c := by
  induction pieces with
  | nil => exact List.forall_mem_nil _
  | cons piece _ ih => exact List.forall_mem_append.mpr ⟨piece.isPrintable, ih⟩

theorem parse_quote (s : String) : parse (quote true s) = .ok (.string s) := by
  have blank : ∀ c ∈ [' '], isSpace c = true := List.forall_mem_singleton.mpr rfl
  have spaced : ({} : Layout).IsSpaced := ⟨⟨[' '], rfl, blank⟩, ⟨[' '], rfl, blank⟩⟩
  have read : parse (write {} (.string s) ++ "") = .ok (.string s) :=
    parse_write spaced (.string s) (List.forall_mem_nil _)
  rw [String.append_empty, write, render] at read
  exact read

theorem isLiteralOf_quote (s : String) : IsLiteralOf (quote true s) s := by
  have mark : IsPrintable '"' := ⟨by decide, by decide⟩
  have pieces := arePieces_flatMap s.toList
  refine ⟨?_, ⟨_, toList_quote true s, pieces⟩, parse_quote s⟩
  rw [toList_quote]
  simp only [List.forall_mem_cons, List.forall_mem_append]
  exact ⟨mark, pieces.isPrintable, mark, List.forall_mem_nil _⟩

theorem IsLiteralOf.unique {literal s t : String} (first : IsLiteralOf literal s)
    (second : IsLiteralOf literal t) : s = t := by
  have same := first.decoded.symm.trans second.decoded
  exact Value.string.inj (Except.ok.inj same)

theorem IsLiteralOf.not_mem_lineFeed {literal s : String} (isLiteral : IsLiteralOf literal s) :
    '\n' ∉ literal.toList :=
  fun member => absurd (isLiteral.printable _ member).1 (by decide)

end SketchSurvey.Json

namespace SketchSurvey.Files.Path

/-- The name that stands in a path after its last slash, or the whole path if it has none. -/
def IsLastName (path name : String) : Prop :=
  ∃ before, path = before ++ name ∧ '/' ∉ name.toList ∧ ∀ c ∈ before.toList.getLast?, c = '/'

theorem isLastName_baseName (path : String) : IsLastName path (baseName path) := by
  have whole := List.takeWhile_append_dropWhile (p := (· != '/')) (l := path.toList.reverse)
  refine ⟨String.ofList (path.toList.reverse.dropWhile (· != '/')).reverse, ?_, ?_, ?_⟩
  · rw [← String.toList_inj, String.toList_append, String.toList_ofList, baseName, String.toList_ofList,
      nameList, ← List.reverse_append, whole, List.reverse_reverse]
  · rw [baseName, String.toList_ofList, nameList, List.mem_reverse]
    intro member
    simpa using List.all_eq_true.mp List.all_takeWhile _ member
  · rw [String.toList_ofList, List.getLast?_reverse]
    intro c first
    have stops := List.head?_dropWhile_not (· != '/') path.toList.reverse
    rw [first] at stops
    simpa using stops

theorem baseName_append_slash (dir path : String) : baseName (dir ++ "/" ++ path) = baseName path := by
  have stops (cs ds : List Char) : (cs ++ '/' :: ds).takeWhile (· != '/') = cs.takeWhile (· != '/') := by
    induction cs with
    | nil => rfl
    | cons c cs ih => rw [List.cons_append, List.takeWhile_cons, List.takeWhile_cons, ih]
  have chars : (dir ++ "/" ++ path).toList.reverse = path.toList.reverse ++ '/' :: dir.toList.reverse := by
    simp
  rw [baseName, baseName, nameList, nameList, chars, stops]

end SketchSurvey.Files.Path

namespace SketchSurvey.Sketch

open SketchSurvey.Files SketchSurvey.Json

theorem splitAt_join {lines : List String} (unbroken : ∀ line ∈ lines, '\n' ∉ line.toList) :
    Text.splitAt '\n' (String.join (lines.map (· ++ "\n"))) = lines ++ [""] := by
  have joined : (String.join (lines.map (· ++ "\n"))).toList =
      ['\n'].intercalate (lines.map String.toList ++ [[]]) := by
    clear unbroken
    induction lines with
    | nil => rfl
    | cons line lines ih =>
        rw [List.map_cons, String.join_cons, String.toList_append, ih]
        cases lines <;> simp
  have pieces : ∀ piece ∈ lines.map String.toList ++ [[]], '\n' ∉ piece := by
    simp only [List.forall_mem_append, List.forall_mem_map, List.forall_mem_singleton]
    exact ⟨unbroken, List.not_mem_nil⟩
  rw [Text.splitAt, joined, List.splitOn_intercalate _ pieces (by simp)]
  simp [Function.comp_def]

/-- The lines of a report after the one with the message, and what follows the last of them. -/
def linesAfterMessage : List String := (reportLines "" "").drop 3 ++ [""]

theorem splitAt_syntaxErrorReport (fileName message : String) :
    Text.splitAt '\n' (syntaxErrorReport fileName message) =
      "(function () \x7b" :: ("  var fileName = " ++ quote true (Path.baseName fileName) ++ ";") ::
        ("  var message = " ++ quote true message ++ ";") :: linesAfterMessage := by
  have declaration {before : String} (unbroken : '\n' ∉ before.toList) (s : String) :
      '\n' ∉ (before ++ quote true s ++ ";").toList := by
    simp only [String.toList_append, List.mem_append, not_or]
    exact ⟨⟨unbroken, (isLiteralOf_quote s).not_mem_lineFeed⟩, by decide⟩
  have unbroken : ∀ line ∈ reportLines (quote true (Path.baseName fileName)) (quote true message),
      '\n' ∉ line.toList := by
    rw [reportLines, List.forall_mem_cons, List.forall_mem_cons, List.forall_mem_cons]
    exact ⟨by decide, declaration (by decide) _, declaration (by decide) _, by decide +kernel⟩
  exact splitAt_join unbroken

theorem quote_inj {s t : String} (same : quote true s = quote true t) : s = t :=
  (same ▸ isLiteralOf_quote s).unique (isLiteralOf_quote t)

theorem syntaxErrorReport_eq_iff {fileName fileName' message message' : String} :
    syntaxErrorReport fileName message = syntaxErrorReport fileName' message' ↔
      Path.baseName fileName = Path.baseName fileName' ∧ message = message' := by
  constructor
  · intro same
    have lines := congrArg (Text.splitAt '\n') same
    simp only [splitAt_syntaxErrorReport, List.cons.injEq, String.append_left_inj, String.append_right_inj,
      and_true, true_and] at lines
    exact ⟨quote_inj lines.1, quote_inj lines.2⟩
  · rintro ⟨sameName, rfl⟩
    rw [syntaxErrorReport, syntaxErrorReport, sameName]

/-- All reports have the same lines but for the second and the third, which give the last name in the path of
the file and the message in literals. So reports differ where these do, and nowhere else: what stands in the
path before the last name leaves no trace. -/
theorem syntaxErrorReport_faithful :
    (∃ first rest, ∀ fileName message, ∃ file said,
      Text.splitAt '\n' (syntaxErrorReport fileName message) =
        first :: ("  var fileName = " ++ file ++ ";") :: ("  var message = " ++ said ++ ";") :: rest ∧
      IsLiteralOf file (Path.baseName fileName) ∧ IsLiteralOf said message) ∧
    (∀ path, Path.IsLastName path (Path.baseName path)) ∧
    (∀ fileName fileName' message message',
      syntaxErrorReport fileName message = syntaxErrorReport fileName' message' ↔
        Path.baseName fileName = Path.baseName fileName' ∧ message = message') ∧
    ∀ dir fileName message,
      syntaxErrorReport (dir ++ "/" ++ fileName) message = syntaxErrorReport fileName message := by
  refine ⟨⟨"(function () \x7b", linesAfterMessage, ?_⟩, Path.isLastName_baseName, ?_, ?_⟩
  · intro fileName message
    exact ⟨_, _, splitAt_syntaxErrorReport fileName message, isLiteralOf_quote _, isLiteralOf_quote _⟩
  · intro fileName fileName' message message'
    exact syntaxErrorReport_eq_iff
  · intro dir fileName message
    exact syntaxErrorReport_eq_iff.mpr ⟨Path.baseName_append_slash dir fileName, rfl⟩

end SketchSurvey.Sketch
