import SketchSurvey.Json.Writer

/-! How a text is written in quotes: the ways in which a character is written, and what stands between the
quotes when all characters are written in the first block. -/

set_option autoImplicit false

namespace SketchSurvey.Json

/-- The short escapes: the letter behind the backslash, and the character that it stands for. -/
def shortEscapes : List (Char × Char) := [('"', '"'), ('\\', '\\'), ('n', '\n'), ('r', '\r'), ('t', '\t'),
  ('f', '\x0c'), ('b', '\x08')]

/-- The ways in which a character is written. -/
inductive Escapes (ascii : Bool) (c : Char) : List Char → Prop where
  | short {d : Char} : (d, c) ∈ shortEscapes → Escapes ascii c ['\\', d]
  | code : c.toNat < 0x10000 → Escapes ascii c (codeEscape c.toNat)
  | pair : 0x10000 ≤ c.toNat → Escapes ascii c
      (codeEscape (0xD800 + (c.toNat - 0x10000) / 1024) ++ codeEscape (0xDC00 + (c.toNat - 0x10000) % 1024))
  | plain : c ≠ '"' → c ≠ '\\' → 0x20 ≤ c.toNat → (ascii = true → c.toNat ≤ 0x7E) → Escapes ascii c [c]

theorem Escapes.ite {ascii : Bool} {c : Char} {p : Prop} [Decidable p] {cs ds : List Char}
    (yes : p → Escapes ascii c cs) (no : ¬p → Escapes ascii c ds) :
    Escapes ascii c (if p then cs else ds) := by
  by_cases holds : p
  · rw [if_pos holds]
    exact yes holds
  · rw [if_neg holds]
    exact no holds

/-- What is written for a character is one of its escapes, or the character itself. -/
theorem escapes_escapeChar (ascii : Bool) (c : Char) : Escapes ascii c (escapeChar ascii c) := by
  have short {d e : Char} (known : (d, e) ∈ shortEscapes) (same : c = e) : Escapes ascii c ['\\', d] :=
    .short (same ▸ known)
  rw [escapeChar]
  refine .ite (short (by decide)) fun notQuote => ?_
  refine .ite (short (by decide)) fun notBackslash => ?_
  iterate 5 refine .ite (short (by decide)) fun _ => ?_
  refine .ite (fun control => .code (by omega)) fun notControl => ?_
  refine .ite (fun _ => ?_) fun inBlock => ?_
  · exact .ite .code fun beyond => .pair (Nat.not_lt.mp beyond)
  · refine .plain notQuote notBackslash (Nat.not_lt.mp notControl) fun inAscii => ?_
    simpa [inAscii] using inBlock

/-- The digits of a code. -/
def IsHexDigit (c : Char) : Prop := ∃ n, n < 16 ∧ c = hexDigit n

/-- What may stand between the quotes: a character that stands for itself, a short escape or a code. -/
inductive IsPiece : List Char → Prop where
  | plain {c : Char} : 0x20 ≤ c.toNat → c.toNat ≤ 0x7E → c ≠ '"' → c ≠ '\\' → IsPiece [c]
  | short {c : Char} : c ∈ ['"', '\\', 'n', 'r', 't', 'f', 'b'] → IsPiece ['\\', c]
  | code {a b c d : Char} : IsHexDigit a → IsHexDigit b → IsHexDigit c → IsHexDigit d →
      IsPiece ['\\', 'u', a, b, c, d]

/-- Pieces one after another. -/
inductive ArePieces : List Char → Prop where
  | nil : ArePieces []
  | cons {p rest : List Char} : IsPiece p → ArePieces rest → ArePieces (p ++ rest)

theorem IsPiece.arePieces {p : List Char} (isPiece : IsPiece p) : ArePieces p := by
  have only := ArePieces.cons isPiece .nil
  rwa [List.append_nil] at only

theorem ArePieces.append {cs ds : List Char} (first : ArePieces cs) (second : ArePieces ds) :
    ArePieces (cs ++ ds) := by
  induction first with
  | nil => exact second
  | cons isPiece _ ih =>
      rw [List.append_assoc]
      exact .cons isPiece ih

theorem isHexDigit_mod (n : Nat) : IsHexDigit (hexDigit (n % 16)) :=
  ⟨n % 16, Nat.mod_lt n (by decide), rfl⟩

theorem isPiece_codeEscape (n : Nat) : IsPiece (codeEscape n) :=
  .code (isHexDigit_mod _) (isHexDigit_mod _) (isHexDigit_mod _) (isHexDigit_mod _)

theorem arePieces_escapeChar (c : Char) : ArePieces (escapeChar true c) := by
  have escapes := escapes_escapeChar true c
  generalize escapeChar true c = cs at escapes
  cases escapes with
  | short known => exact (IsPiece.short (List.mem_map_of_mem (f := Prod.fst) known)).arePieces
  | code => exact (isPiece_codeEscape _).arePieces
  | pair => exact (isPiece_codeEscape _).arePieces.append (isPiece_codeEscape _).arePieces
  | plain notQuote notBackslash notControl inBlock =>
      exact (IsPiece.plain notControl (inBlock rfl) notQuote notBackslash).arePieces

theorem arePieces_flatMap (cs : List Char) : ArePieces (cs.flatMap (escapeChar true)) := by
  induction cs with
  | nil => exact .nil
  | cons c cs ih =>
      rw [List.flatMap_cons]
      exact (arePieces_escapeChar c).append ih

/-- A quoted text is made of pieces between its quotes. -/
theorem exists_quote_eq (s : String) :
    ∃ content, quote true s = String.ofList ('"' :: content ++ ['"']) ∧ ArePieces content :=
  ⟨s.toList.flatMap (escapeChar true), rfl, arePieces_flatMap s.toList⟩

end SketchSurvey.Json
