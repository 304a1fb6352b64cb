import SketchSurvey.Proofs.Json.Quote
import SketchSurvey.Proofs.Script.SyntaxTree
import SketchSurvey.Proofs.Script.Words
import SketchSurvey.Script.Grammar.Productions

/-! Texts in quotes as the grammar of scripts has them, and that a text written by its JSON escapes is one
of them. -/

set_option autoImplicit false

namespace SketchSurvey.Script.Grammar

/-- The texts of a shape. -/
inductive Shape.Matches : Shape → List Char → Prop where
  | empty : Shape.Matches .empty []
  | chars {set c} : set.contains c.toNat = true → Shape.Matches (.chars set) [c]
  | seq {first second text more} : Shape.Matches first text → Shape.Matches second more →
      Shape.Matches (.seq first second) (text ++ more)
  | left {first second text} : Shape.Matches first text → Shape.Matches (.either first second) text
  | right {first second text} : Shape.Matches second text → Shape.Matches (.either first second) text
  | once {body text} : Shape.Matches body text → Shape.Matches (.many1 body) text
  | again {body text more} : Shape.Matches body text → Shape.Matches (.many1 body) more →
      Shape.Matches (.many1 body) (text ++ more)

/-- The shape of a token of the grammar. -/
def tokenShape? (name : String) : Option Shape :=
  match literalRules.lookup name with
  | some (.token rule) => some rule.body.toShape
  | _ => none

/-- The grammar has a text as one of its tokens. -/
def IsToken (name : String) (text : List Char) : Prop :=
  ∃ shape, tokenShape? name = some shape ∧ shape.Matches text

/-- The characters that stand for themselves between certain quotes. -/
def unescaped (quote : Char) : CharSet := (CharSet.ofString (String.ofList [quote] ++ "\\\r\n")).complement

theorem tokenShape?_double :
    tokenShape? "unescaped_double_string_fragment" = some (.many1 (.chars (unescaped '"'))) :=
  rfl

theorem tokenShape?_single :
    tokenShape? "unescaped_single_string_fragment" = some (.many1 (.chars (unescaped '\''))) :=
  rfl

/-- What may follow the backslash of an escape. -/
def escapeShapes : List Shape := [
  (CharSet.ofString "xu" ++ CharSet.range '0' '7').complement,
  .all [CharSet.range '0' '7', .upTo 2 (CharSet.range '0' '7')],
  .all ["x", .exactly 2 CharSet.hexDigit],
  .all ["u", .exactly 4 CharSet.hexDigit],
  .all ["u\x7b", .many1 CharSet.hexDigit, "\x7d"],
  .all [CharSet.ofString "\r?", CharSet.ofString "\n" ++ CharSet.lineSeparator]]

theorem tokenShape?_escape :
    tokenShape? "escape_sequence" = some (.all ["\\", .oneOf escapeShapes]) :=
  rfl

theorem unescaped_double :
    unescaped '"' = ⟨[(1, 9), (11, 12), (14, 33), (35, 91), (93, 0x10FFFF)]⟩ := rfl

theorem matches_many1 {set : CharSet} {text : List Char} (nonempty : text ≠ [])
    (known : ∀ c ∈ text, set.contains c.toNat = true) :
    (Shape.many1 (.chars set)).Matches text := by
  induction text with
  | nil => exact absurd rfl nonempty
  | cons c rest ih =>
      have first : (Shape.chars set).Matches [c] := .chars (known c (.head _))
      cases rest with
      | nil => exact .once first
      | cons d later =>
          exact .again first (ih (List.cons_ne_nil _ _) fun c member => known c (.tail _ member))

theorem isToken_short {c : Char}
    (known : (CharSet.ofString "xu" ++ CharSet.range '0' '7').complement.contains c.toNat = true) :
    IsToken "escape_sequence" ['\\', c] := by
  have backslash : (Shape.chars (.single '\\')).Matches ['\\'] := .chars (by decide)
  exact ⟨_, tokenShape?_escape, .seq backslash (.left (.chars known))⟩

/-- A code in four digits. -/
theorem isToken_code {a b c d : Char} (isA : CharSet.hexDigit.contains a.toNat = true)
    (isB : CharSet.hexDigit.contains b.toNat = true) (isC : CharSet.hexDigit.contains c.toNat = true)
    (isD : CharSet.hexDigit.contains d.toNat = true) :
    IsToken "escape_sequence" ['\\', 'u', a, b, c, d] := by
  have digits : (Shape.exactly 4 CharSet.hexDigit).Matches [a, b, c, d] := 
    .seq (.chars isA) (.seq (.chars isB) (.seq (.chars isC) (.chars isD)))
  exact ⟨_, tokenShape?_escape, .seq (.chars (by decide))
    (.right (.right (.right (.left (.seq (.chars (by decide)) digits)))))⟩

end SketchSurvey.Script.Grammar

namespace SketchSurvey.Script

open Grammar (IsToken unescaped)
open Node (branch leaf word)

inductive Quote where
  | single
  | double

namespace Quote

def mark : Quote → Char
  | single => '\''
  | double => '"'

/-- The token of what stands for itself between the quotes. -/
def fragment : Quote → String
  | single => "unescaped_single_string_fragment"
  | double => "unescaped_double_string_fragment"

/-- A text in its quotes. -/
def literal (quote : Quote) (content : List Char) : String :=
  String.ofList (quote.mark :: content ++ [quote.mark])

theorem isToken_fragment {quote : Quote} {text : List Char} (nonempty : text ≠ [])
    (known : ∀ c ∈ text, (unescaped quote.mark).contains c.toNat = true) :
    IsToken quote.fragment text := by
  cases quote with
  | single => exact ⟨_, Grammar.tokenShape?_single, Grammar.matches_many1 nonempty known⟩
  | double => exact ⟨_, Grammar.tokenShape?_double, Grammar.matches_many1 nonempty known⟩

end Quote

/-- The trees of what stands between quotes. -/
inductive Pieces (quote : Quote) : List Char → List Node → Prop where
  | nil : Pieces quote [] []
  | fragment {text rest nodes} (row : Nat) : IsToken quote.fragment text → Pieces quote rest nodes →
      Pieces quote (text ++ rest) (leaf "string_fragment" none row (String.ofList text) :: nodes)
  | escape {text rest nodes} (row : Nat) : IsToken "escape_sequence" text → Pieces quote rest nodes →
      Pieces quote (text ++ rest) (leaf "escape_sequence" none row (String.ofList text) :: nodes)

section Written

open Json (IsPiece ArePieces IsHexDigit)

theorem contains_hexDigit {c : Char} (isDigit : IsHexDigit c) :
    Grammar.CharSet.hexDigit.contains c.toNat = true := by
  obtain ⟨n, small, rfl⟩ := isDigit
  revert n
  decide

theorem contains_unescaped {c : Char} (atLeast : 0x20 ≤ c.toNat) (atMost : c.toNat ≤ 0x7E)
    (notQuote : c ≠ '"') (notBackslash : c ≠ '\\') : (unescaped '"').contains c.toNat = true := by
  have notQuote : c.toNat ≠ 34 := fun same => notQuote (Char.toNat_inj.mp same)
  have notBackslash : c.toNat ≠ 92 := fun same => notBackslash (Char.toNat_inj.mp same)
  rw [Grammar.unescaped_double, Grammar.CharSet.contains]
  simp only [List.any_cons, List.any_nil, Bool.or_false, Bool.or_eq_true, Bool.and_eq_true,
    decide_eq_true_eq]
  omega

theorem exists_pieces_cons {p rest : List Char} {nodes : List Node} (isPiece : IsPiece p)
    (pieces : Pieces .double rest nodes) : ∃ nodes, Pieces .double (p ++ rest) nodes := by
  cases isPiece with
  | @plain c atLeast atMost notQuote notBackslash =>
      have isFragment : IsToken Quote.double.fragment [c] := by
        refine Quote.isToken_fragment (List.cons_ne_nil _ _) ?_
        intro d member
        cases List.mem_singleton.mp member
        exact contains_unescaped atLeast atMost notQuote notBackslash
      exact ⟨_, .fragment 0 isFragment pieces⟩
  | @short c known =>
      have isShort : ['"', '\\', 'n', 'r', 't', 'f', 'b'].all fun c =>
          (Grammar.CharSet.ofString "xu" ++ Grammar.CharSet.range '0' '7').complement.contains
            c.toNat := by
        decide
      exact ⟨_, .escape 0 (Grammar.isToken_short (List.all_eq_true.mp isShort c known)) pieces⟩
  | code a b c d =>
      exact ⟨_, .escape 0 (Grammar.isToken_code (contains_hexDigit a) (contains_hexDigit b)
        (contains_hexDigit c) (contains_hexDigit d)) pieces⟩

/-- What a text is written as between its quotes has a tree. -/
theorem exists_pieces {content : List Char} (arePieces : ArePieces content) :
    ∃ nodes, Pieces .double content nodes := by
  induction arePieces with
  | nil => exact ⟨[], .nil⟩
  | cons isPiece _ ih =>
      obtain ⟨nodes, isRest⟩ := ih
      exact exists_pieces_cons isPiece isRest

open Mode (Scans)

/-- A character that neither ends a text in quotes nor starts an escape. -/
theorem scans_plain {c : Char} {read : List Char} (notQuote : c ≠ '"') (notBackslash : c ≠ '\\')
    (sameLine : c ≠ '\n' ∧ c ≠ '\r') : Scans (.text '"' read) [c] [] (.text '"' (c :: read)) := by
  refine Scans.single ?_
  simp [Mode.step, notQuote, notBackslash, sameLine]

theorem scans_escape {c : Char} {read : List Char} (sameLine : c ≠ '\n' ∧ c ≠ '\r') :
    Scans (.text '"' read) ['\\', c] [] (.text '"' (c :: '\\' :: read)) := by
  have backslash : Scans (.text '"' read) ['\\'] [] (.escaped '"' ('\\' :: read)) :=
    .single (by simp [Mode.step])
  have escaped : Scans (.escaped '"' ('\\' :: read)) [c] [] (.text '"' (c :: '\\' :: read)) :=
    .single (by simp [Mode.step, sameLine])
  exact backslash.append escaped

theorem scans_hexDigit {c : Char} {read : List Char} (isDigit : IsHexDigit c) :
    Scans (.text '"' read) [c] [] (.text '"' (c :: read)) := by
  have plain : ∀ n < 16, Json.hexDigit n ≠ '"' ∧ Json.hexDigit n ≠ '\\' ∧
      Json.hexDigit n ≠ '\n' ∧ Json.hexDigit n ≠ '\r' := by
    decide
  obtain ⟨n, small, rfl⟩ := isDigit
  obtain ⟨notQuote, notBackslash, sameLine⟩ := plain n small
  exact scans_plain notQuote notBackslash sameLine

/-- A piece does not end the text that it stands in. -/
theorem scans_piece {p read : List Char} (isPiece : IsPiece p) :
    Scans (.text '"' read) p [] (.text '"' (p.reverse ++ read)) := by
  cases isPiece with
  | @plain c atLeast atMost notQuote notBackslash =>
      refine scans_plain notQuote notBackslash ⟨?_, ?_⟩
      · rintro rfl
        exact absurd atLeast (by decide)
      · rintro rfl
        exact absurd atLeast (by decide)
  | @short c known =>
      refine scans_escape ⟨?_, ?_⟩
      · rintro rfl
        exact absurd known (by decide)
      · rintro rfl
        exact absurd known (by decide)
  | code a b c d =>
      exact (scans_escape (by decide)).append ((scans_hexDigit a).append ((scans_hexDigit b).append
        ((scans_hexDigit c).append (scans_hexDigit d))))

theorem scans_pieces {content : List Char} (arePieces : ArePieces content) (read : List Char) :
    Scans (.text '"' read) content [] (.text '"' (content.reverse ++ read)) := by
  induction arePieces generalizing read with
  | nil => exact .nil
  | @cons p rest isPiece _ ih =>
      have first : Scans (.text '"' read) p [] (.text '"' (p.reverse ++ read)) := scans_piece isPiece
      rw [List.reverse_append, List.append_assoc]
      exact first.append (ih (p.reverse ++ read))

/-- A text that is written in quotes is one word. -/
theorem scans_quote (s : String) :
    Scans .between (Json.quote true s).toList [.mark (Json.quote true s)] .between := by
  obtain ⟨content, same, arePieces⟩ := Json.exists_quote_eq s
  have first : Scans .between ['"'] [] (.text '"' ['"']) := .single rfl
  have inner := scans_pieces arePieces ['"']
  have last : Scans (.text '"' (content.reverse ++ ['"'])) ['"']
      [.mark (Mode.spelled ('"' :: (content.reverse ++ ['"'])))] .between :=
    .single (by simp [Mode.step])
  have whole := first.append (inner.append last)
  rw [same, String.toList_ofList]
  simpa [Mode.spelled] using whole

/-- A text that is written in quotes has a tree. -/
theorem exists_literal_eq (s : String) :
    ∃ content nodes, Json.quote true s = Quote.double.literal content ∧
      Pieces .double content nodes := by
  obtain ⟨content, same, arePieces⟩ := Json.exists_quote_eq s
  obtain ⟨nodes, isTree⟩ := exists_pieces arePieces
  exact ⟨content, nodes, same, isTree⟩

end Written

end SketchSurvey.Script
