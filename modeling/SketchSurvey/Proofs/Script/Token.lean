import Mathlib.Data.List.Basic

/-! The words of a script, with what stands in brackets taken together. -/

set_option autoImplicit false

namespace SketchSurvey.Script

inductive Bracket where
  | round
  | square
  | curly
  deriving DecidableEq, Repr

namespace Bracket

def opening : Bracket → String
  | round => "("
  | square => "["
  | curly => "\x7b"

def closing : Bracket → String
  | round => ")"
  | square => "]"
  | curly => "\x7d"

end Bracket

inductive Token where
  | name (text : String)
  | number (text : String)
  /-- A word that is no name, an operator or a mark between other words. -/
  | mark (text : String)
  | group (bracket : Bracket) (inner : List Token)

namespace Token

mutual

/-- The words that a token is written as. -/
def words : Token → List String
  | .name text => [text]
  | .number text => [text]
  | .mark text => [text]
  | .group bracket inner => bracket.opening :: wordsOf inner ++ [bracket.closing]

def wordsOf : List Token → List String
  | [] => []
  | t :: rest => t.words ++ wordsOf rest

end

/-- The text of some tokens, with a blank between any two words. -/
def spell (ts : List Token) : String := " ".intercalate (wordsOf ts)

def comma : Token := .mark ","

def semicolon : Token := .mark ";"

theorem semicolon_ne_comma : semicolon ≠ comma := fun same =>
  absurd (Token.mark.inj same) (by decide)

/-- Items with commas between them. -/
def separated : List (List Token) → List Token
  | [] => []
  | [item] => item
  | item :: next :: rest => item ++ comma :: separated (next :: rest)

/-- What stands before a separator is known if it holds no separator itself. -/
theorem append_cons_inj {separator : Token} {before before' after after' : List Token}
    (absent : separator ∉ before) (absent' : separator ∉ before')
    (same : before ++ separator :: after = before' ++ separator :: after') :
    before = before' ∧ after = after' := by
  induction before generalizing before' with
  | nil =>
      cases before' with
      | nil => exact ⟨rfl, (List.cons.inj same).2⟩
      | cons first rest =>
          cases (List.cons.inj same).1
          exact absurd (.head _) absent'
  | cons first rest ih =>
      cases before' with
      | nil =>
          cases (List.cons.inj same).1
          exact absurd (.head _) absent
      | cons first' rest' =>
          obtain ⟨rfl, later⟩ := List.cons.inj same
          obtain ⟨rfl, rfl⟩ := ih (List.not_mem_of_not_mem_cons absent)
            (List.not_mem_of_not_mem_cons absent') later
          exact ⟨rfl, rfl⟩

/-- Three tokens that are divided by one of them into two parts are divided in the middle. -/
theorem append_cons_eq_triple {front back : List Token} {middle a b c : Token}
    (before : front ≠ []) (after : back ≠ []) (same : front ++ middle :: back = [a, b, c]) :
    front = [a] ∧ middle = b ∧ back = [c] := by
  match front, back with
  | [], _ => exact absurd rfl before
  | [first], [] => exact absurd rfl after
  | [first], [last] =>
      cases same
      exact ⟨rfl, rfl, rfl⟩
  | [first], _ :: _ :: _ => cases same
  | [_, _], [] => exact absurd rfl after
  | [_, _], _ :: _ => cases same
  | _ :: _ :: _ :: _, back => simp at same

end Token

end SketchSurvey.Script
