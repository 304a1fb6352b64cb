import SketchSurvey.Bundled
import SketchSurvey.Proofs.Script.Layout
import SketchSurvey.Proofs.Script.WellFormed
import SketchSurvey.Sketch.Classify
import SketchSurvey.Sketch.Report

/-! The report of a script that cannot be read is itself a script of one statement, whatever the name of
the file and the message hold, and declares nothing that starts a sketch. -/

set_option autoImplicit false

namespace SketchSurvey.Sketch

open SketchSurvey.Script
open Token (comma semicolon)

section Lines

open Mode (Scans)

/-- The words of each line of a report, given its two texts. -/
def reportWords (file message : String) : List (List Word) := [
  [.opens .round, .mark "function", .opens .round, .closes .round, .opens .curly],
  [.mark "var", .name "fileName", .mark "=", .mark file, .mark ";"],
  [.mark "var", .name "message", .mark "=", .mark message, .mark ";"],
  [.name "console", .mark ".", .name "error", .opens .round, .mark "'Syntax error in '", .mark "+",
    .name "fileName", .mark "+", .mark "': '", .mark "+", .name "message", .closes .round, .mark ";"],
  [.mark "function", .name "show", .opens .round, .closes .round, .opens .curly],
  [.mark "var", .name "el", .mark "=", .name "document", .mark ".", .name "createElement",
    .opens .round, .mark "'pre'", .closes .round, .mark ";"],
  [.name "el", .mark ".", .name "className", .mark "=", .mark "'p5-syntax-error'", .mark ";"],
  [.name "el", .mark ".", .name "style", .mark ".", .name "color", .mark "=", .mark "'#b00020'",
    .mark ";"],
  [.name "el", .mark ".", .name "textContent", .mark "=", .mark "'Syntax error in '", .mark "+",
    .name "fileName", .mark "+", .mark "'\\n'", .mark "+", .name "message", .mark ";"],
  [.name "document", .mark ".", .name "body", .mark ".", .name "appendChild", .opens .round,
    .name "el", .closes .round, .mark ";"],
  [.closes .curly],
  [.mark "if", .opens .round, .name "document", .mark ".", .name "body", .closes .round,
    .opens .curly],
  [.name "show", .opens .round, .closes .round, .mark ";"],
  [.closes .curly, .mark "else", .opens .curly],
  [.name "document", .mark ".", .name "addEventListener", .opens .round,
    .mark "'DOMContentLoaded'", .mark ",", .name "show", .closes .round, .mark ";"],
  [.closes .curly],
  [.closes .curly, .closes .round, .opens .round, .closes .round, .mark ";"]]

/-- A line has certain words, none of which goes on in the next line. -/
def LineScans (line : String) (words : List Word) : Prop :=
  Scans .between (line ++ "\n").toList words .between

instance (line : String) (words : List Word) : Decidable (LineScans line words) :=
  inferInstanceAs (Decidable (Scans _ _ _ _))

theorem scans_join {lines : List String} {words : List (List Word)}
    (each : List.Forall₂ LineScans lines words) :
    Scans .between (String.join (lines.map (· ++ "\n"))).toList words.flatten .between := by
  induction each with
  | nil => exact .nil
  | cons first _ ih =>
      rw [List.map_cons, String.join_cons, String.toList_append, List.flatten_cons]
      exact first.append ih

/-- A line that declares a variable with a text for its value. -/
theorem lineScans_declaration {before : String} {words : List Word}
    (start : Scans .between before.toList words .between) (s : String) :
    LineScans (before ++ Json.quote true s ++ ";")
      (words ++ [.mark (Json.quote true s), .mark ";"]) := by
  have last : Scans .between (";" ++ "\n").toList [.mark ";"] .between := by decide
  have whole := start.append ((scans_quote s).append last)
  simpa [LineScans] using whole

theorem scans_syntaxErrorReport (fileName message : String) :
    Scans .between (syntaxErrorReport fileName message).toList
      (reportWords (Json.quote true (Files.Path.baseName fileName))
        (Json.quote true message)).flatten .between := by
  have file : LineScans ("  var fileName = " ++ Json.quote true (Files.Path.baseName fileName) ++ ";")
      ([.mark "var", .name "fileName", .mark "="] ++
        [.mark (Json.quote true (Files.Path.baseName fileName)), .mark ";"]) :=
    lineScans_declaration (by decide) _
  have said : LineScans ("  var message = " ++ Json.quote true message ++ ";")
      ([.mark "var", .name "message", .mark "="] ++ [.mark (Json.quote true message), .mark ";"]) :=
    lineScans_declaration (by decide) _
  -- All other lines are fixed, so that their words can be computed.
  exact scans_join (.cons (by decide) (.cons file (.cons said (by decide +kernel))))

end Lines

section Tree

open Draft

/-- The token of a text in single quotes. -/
def quotedToken (content : String) : Token := .mark (Quote.single.literal content.toList)

/-- The tokens of the sum of what is known about the error. -/
def errorTokens (middle : String) : List Token :=
  [quotedToken "Syntax error in ", .mark "+", .name "fileName", .mark "+", quotedToken middle,
    .mark "+", .name "message"]

def errorDraft (row : Nat) (middle : Draft) : Draft :=
  sum row (sum row (sum row (plain row .single "Syntax error in ") (name row "fileName")) middle)
    (name row "message")

/-- A line feed as a script has it in quotes. -/
def lineFeedDraft (row : Nat) : Draft :=
  quoted row .single ['\\', 'n'] [.leaf "escape_sequence" none row "\\n"]

/-- The tokens of the statements that show the error on the page. -/
def showTokens : List (List Token) := [
  [.mark "var", .name "el", .mark "=", .name "document", .mark ".", .name "createElement",
    .group .round [quotedToken "pre"], semicolon],
  [.name "el", .mark ".", .name "className", .mark "=", quotedToken "p5-syntax-error", semicolon],
  [.name "el", .mark ".", .name "style", .mark ".", .name "color", .mark "=", quotedToken "#b00020",
    semicolon],
  [.name "el", .mark ".", .name "textContent", .mark "="] ++ errorTokens "\\n" ++ [semicolon],
  [.name "document", .mark ".", .name "body", .mark ".", .name "appendChild",
    .group .round [.name "el"], semicolon]]

/-- The trees of these statements. -/
def showDrafts : List Draft := [
  declaration 5 "el" (call 5 5 (path 5 "document" ["createElement"]) [plain 5 .single "pre"]),
  statement 6 6 (assignment 6 (path 6 "el" ["className"]) (plain 6 .single "p5-syntax-error")),
  statement 7 7 (assignment 7 (path 7 "el" ["style", "color"]) (plain 7 .single "#b00020")),
  statement 8 8 (assignment 8 (path 8 "el" ["textContent"]) (errorDraft 8 (lineFeedDraft 8))),
  statement 9 9 (call 9 9 (path 9 "document" ["body", "appendChild"]) [name 9 "el"])]

/-- The tokens of the statements of a report. -/
def bodyTokens (file message : String) : List (List Token) := [
  [.mark "var", .name "fileName", .mark "=", .mark file, semicolon],
  [.mark "var", .name "message", .mark "=", .mark message, semicolon],
  [.name "console", .mark ".", .name "error", .group .round (errorTokens ": "), semicolon],
  [.mark "function", .name "show", .group .round [], .group .curly showTokens.flatten],
  [.mark "if", .group .round [.name "document", .mark ".", .name "body"],
    .group .curly [.name "show", .group .round [], semicolon], .mark "else",
    .group .curly [.name "document", .mark ".", .name "addEventListener",
      .group .round [quotedToken "DOMContentLoaded", comma, .name "show"], semicolon]]]

/-- The trees of these statements. -/
def bodyDrafts (file message : Draft) : List Draft := [
  declaration 1 "fileName" file,
  declaration 2 "message" message,
  statement 3 3 (call 3 3 (path 3 "console" ["error"]) [errorDraft 3 (plain 3 .single ": ")]),
  functionDeclaration 4 "show" (block 4 10 "  " showDrafts),
  ifElse 11 13 (parenthesized 11 11 (path 11 "document" ["body"]))
    (block 11 13 "  " [statement 12 12 (call 12 12 (path 12 "show" []) [])])
    (block 13 15 "  " [statement 14 14 (call 14 14 (path 14 "document" ["addEventListener"])
      [plain 14 .single "DOMContentLoaded", name 14 "show"])])]

/-- The tokens of the function that a report runs. -/
def runTokens (file message : String) : List Token :=
  [.mark "function", .group .round [], .group .curly (bodyTokens file message).flatten]

def reportTokens (file message : String) : List Token :=
  [.group .round (runTokens file message), .group .round [], semicolon]

def reportTree (file message : Draft) : Node :=
  program (statement 0 16 (call 0 16
    (parenthesized 0 16 (function 0 (block 0 16 "" (bodyDrafts file message)))) []))

theorem gather_reportWords (file message : String) :
    gather [] [] (reportWords file message).flatten = some (reportTokens file message) := by
  cbv

theorem tokensOfText_syntaxErrorReport (fileName message : String) :
    tokensOfText (syntaxErrorReport fileName message) =
      some (reportTokens (Json.quote true (Files.Path.baseName fileName)) (Json.quote true message)) := by
  have scanned : Mode.between.scan (syntaxErrorReport fileName message).toList = _ :=
    scans_syntaxErrorReport fileName message
  rw [tokensOfText, wordsOfText, scanned]
  simp only [Option.bind_some, Mode.last, Option.map_some, List.append_nil, gather_reportWords]

theorem isExpression_quotedToken {row : Nat} {content : String} (nonempty : content ≠ "")
    (known : content.toList.all fun c => (Grammar.unescaped '\'').contains c.toNat) :
    (plain row .single content).IsExpression [quotedToken content] :=
  isExpression_plain nonempty known

theorem isExpression_lineFeedDraft {row : Nat} : (lineFeedDraft row).IsExpression [quotedToken "\\n"] :=
  isExpression_quoted (.escape row (Grammar.isToken_short (by decide)) .nil)

theorem isExpression_errorDraft {row : Nat} {middle : Draft} {text : String}
    (primary : middle.kind ∈ primaryKinds) (isText : middle.IsExpression [quotedToken text]) :
    (errorDraft row middle).IsExpression (errorTokens text) := by
  have start : (plain row .single "Syntax error in ").IsExpression [quotedToken "Syntax error in "] :=
    isExpression_quotedToken (by decide) (by decide)
  have fileName : (name row "fileName").IsExpression [.name "fileName"] :=
    isExpression_name (by decide)
  have message : (name row "message").IsExpression [.name "message"] := isExpression_name (by decide)
  have named : (sum row (plain row .single "Syntax error in ") (name row "fileName")).IsExpression
      [quotedToken "Syntax error in ", .mark "+", .name "fileName"] :=
    isExpression_sum (by simp [primaryKinds]) start (by simp [primaryKinds]) fileName
  exact isExpression_sum (by simp) (isExpression_sum (by simp) named primary isText)
    (by simp [primaryKinds]) message

theorem showDrafts_areStatements : List.Forall₂ IsStatement showDrafts showTokens := by
  refine .cons ?_ (.cons ?_ (.cons ?_ (.cons ?_ (.cons ?_ .nil))))
  · exact isStatement_declaration (by decide) (isExpression_call (by decide)
      (isExpression_path (by decide) (by decide))
      (.cons (isExpression_quotedToken (by decide) (by decide)) .nil))
  · exact isStatement_set (by decide) (by decide) (isExpression_quotedToken (by decide) (by decide))
  · exact isStatement_set (by decide) (by decide) (isExpression_quotedToken (by decide) (by decide))
  · exact isStatement_set (by decide) (by decide)
      (isExpression_errorDraft (by decide) isExpression_lineFeedDraft)
  · exact isStatement_run (by decide) (by decide) (.cons (isExpression_name (by decide)) .nil)

theorem bodyDrafts_areStatements {file message : Draft} {fileText messageText : String}
    (isFile : file.IsExpression [.mark fileText])
    (isMessage : message.IsExpression [.mark messageText]) :
    List.Forall₂ IsStatement (bodyDrafts file message) (bodyTokens fileText messageText) := by
  refine .cons ?_ (.cons ?_ (.cons ?_ (.cons ?_ (.cons ?_ .nil))))
  · exact isStatement_declaration (by decide) isFile
  · exact isStatement_declaration (by decide) isMessage
  · have isColon : (plain 3 .single ": ").IsExpression [quotedToken ": "] :=
      isExpression_quotedToken (by decide) (by decide)
    exact isStatement_run (by decide) (by decide)
      (.cons (isExpression_errorDraft (by decide) isColon) .nil)
  · exact isStatement_function (by decide) showDrafts_areStatements
  · have whenLoaded : (plain 14 .single "DOMContentLoaded").IsExpression
        [quotedToken "DOMContentLoaded"] :=
      isExpression_quotedToken (by decide) (by decide)
    refine isStatement_ifElse (isExpression_parenthesized (isExpression_path (by decide) (by decide)))
      (isStatement_block_single ?_) (isStatement_block_single ?_)
    · exact isStatement_run (by decide) (by decide) .nil
    · exact isStatement_run (by decide) (by decide)
        (.cons whenLoaded (.cons (isExpression_name (by decide)) .nil))

theorem writtenProgram_reportTree {file message : Draft} {fileText messageText : String}
    (isFile : file.IsExpression [.mark fileText])
    (isMessage : message.IsExpression [.mark messageText]) :
    WrittenProgram (reportTree file message) (reportTokens fileText messageText) := by
  have isFunction : (function 0 (block 0 16 "" (bodyDrafts file message))).IsExpression
      (runTokens fileText messageText) :=
    isExpression_function (bodyDrafts_areStatements isFile isMessage)
  exact writtenProgram_program (isStatement_statement (by simp)
    (isExpression_call (by simp [primaryKinds]) (isExpression_parenthesized isFunction) .nil))

/-- Every report has a tree. -/
theorem exists_reportTree (fileName message : String) :
    ∃ root, WrittenProgram root
      (reportTokens (Json.quote true (Files.Path.baseName fileName)) (Json.quote true message)) := by
  obtain ⟨content, nodes, same, pieces⟩ := exists_literal_eq (Files.Path.baseName fileName)
  obtain ⟨content', nodes', same', pieces'⟩ := exists_literal_eq message
  rw [same, same']
  exact ⟨reportTree (quoted 1 .double content nodes) (quoted 2 .double content' nodes'),
    writtenProgram_reportTree (isExpression_quoted pieces) (isExpression_quoted pieces')⟩

end Tree

/-- A script of one expression declares no function. -/
theorem declaresSketch_expression [Host] (s : Settings.AnalysisSettings) (text : String) (e : Expr) :
    declaresSketch s text (.ok { body := [.expression e] }) = .ok false := by
  have nothing : (s.sketchFunctions.any fun name => [].contains name) = false :=
    List.any_eq_false.mpr fun _ _ => Bool.false_ne_true
  exact congrArg Except.ok nothing

/-- The report of a script that cannot be read is a script of one expression, which is no sketch. -/
theorem parseWith_syntaxErrorReport [Host] {read : String → Node} {fileName message : String}
    (follows : ReadsWritten read (syntaxErrorReport fileName message)) (name : String) :
    ∃ e, parseWith read (syntaxErrorReport fileName message) name = .ok { body := [.expression e] } ∧
      ∀ s, declaresSketch s (syntaxErrorReport fileName message)
        (parseWith read (syntaxErrorReport fileName message) name) = .ok false := by
  have tree := follows _ (tokensOfText_syntaxErrorReport fileName message)
    (exists_reportTree fileName message)
  obtain ⟨e, lowered⟩ := tree.lowers_groups
  have parsed : parseWith read (syntaxErrorReport fileName message) name =
      .ok { body := [.expression e] } := by
    rw [parseWith_of_hasParts tree.hasError_eq_false tree.hasParts, lowered]
  refine ⟨e, parsed, ?_⟩
  intro s
  rw [parsed]
  exact declaresSketch_expression s _ e

section Declaring

open Node (leaf)

/-- The tree of the name of a file with a quote in it. -/
def quotedName : Draft :=
  Draft.quoted 1 .double "a\\\"b.js".toList
    [leaf "string_fragment" none 1 "a", leaf "escape_sequence" none 1 "\\\"",
      leaf "string_fragment" none 1 "b.js"]

def namedSetup : Draft := Draft.plain 2 .double "Line 1: function setup("

theorem quotedName_isExpression :
    quotedName.IsExpression [.mark (Json.quote true (Files.Path.baseName "sketches/a\"b.js"))] := by
  have same : Json.quote true (Files.Path.baseName "sketches/a\"b.js") =
      Quote.double.literal "a\\\"b.js".toList := by
    decide
  have before : Grammar.IsToken Quote.double.fragment ['a'] :=
    Quote.isToken_fragment (by decide) (List.all_eq_true.mp (by decide))
  have after : Grammar.IsToken Quote.double.fragment "b.js".toList :=
    Quote.isToken_fragment (by decide) (List.all_eq_true.mp (by decide))
  rw [same]
  exact Draft.isExpression_quoted
    (.fragment 1 before (.escape 1 (Grammar.isToken_short (by decide)) (.fragment 1 after .nil)))

theorem namedSetup_isExpression :
    namedSetup.IsExpression [.mark (Json.quote true "Line 1: function setup(")] := by
  have same : Json.quote true "Line 1: function setup(" =
      Quote.double.literal "Line 1: function setup(".toList := by
    decide
  rw [same]
  exact Draft.isExpression_plain (by decide) (by decide)

/-- A message that declares a function where it is taken for a script. -/
theorem parseWith_syntaxErrorReport_setup :
    let report := syntaxErrorReport "sketches/a\"b.js" "Line 1: function setup("
    let read (_ : String) := reportTree quotedName namedSetup
    (reportTree quotedName namedSetup).text = report ∧ ReadsWritten read report ∧
      ∃ e, parseWith read report anonymous = .ok { body := [.expression e] } ∧
        ∀ s, @declaresSketch .bundled s report (parseWith read report anonymous) = .ok false := by
  intro report read
  have follows : ReadsWritten read report := by
    intro ts found _
    cases (tokensOfText_syntaxErrorReport _ _).symm.trans found
    exact writtenProgram_reportTree quotedName_isExpression namedSetup_isExpression
  exact ⟨by decide +kernel, follows, @parseWith_syntaxErrorReport .bundled _ _ _ follows anonymous⟩

end Declaring

end SketchSurvey.Sketch
