/-!
Patterns of names: `*` stands for any characters, `?` for one, and a set in brackets for one of its
members or, with `!` first, for one that is none of them.
-/

set_option autoImplicit false

namespace SketchSurvey.Files.Glob

inductive Item where
  | anyText
  | anyChar
  | literal (c : Char)
  | set (negated : Bool) (ranges : List (Char × Char))
  deriving BEq, Repr, DecidableEq

/-- Divides a set at its hyphens. A hyphen among the first `skip` characters stands for itself, and so
does one right after another that divides. -/
def chunks (skip : Nat) : Nat → List Char → List (List Char)
  | 0, cs => [cs]
  | fuel + 1, cs =>
    let front := (cs.drop skip).takeWhile (· != '-')
    match cs.drop (skip + front.length) with
    | [] => [cs]
    | _ :: rest => (cs.take skip ++ front) :: chunks 2 fuel rest

/-- A hyphen at the end stands for itself. -/
def closeLast : List (List Char) → List (List Char)
  | [c, []] => [c ++ ['-']]
  | c :: rest => c :: closeLast rest
  | [] => []

/-- Takes out a range that ends before it starts. -/
def dropReversed (c : List Char) : List (List Char) → List (List Char)
  | [] => [c]
  | d :: rest =>
    match c.getLast?, d.head? with
    | some first, some last =>
      if first > last then (c.dropLast ++ d.tail) :: rest else c :: d :: rest
    | _, _ => c :: d :: rest

/-- The members of a set: where two parts meet, the characters on both sides bound a range. -/
def ranges : List (List Char) → List (Char × Char)
  | [] => []
  | [c] => c.map fun x => (x, x)
  | c :: d :: rest =>
    match c.getLast?, d with
    | some first, last :: more =>
      c.dropLast.map (fun x => (x, x)) ++ [(first, last)] ++ ranges (more :: rest)
    | _, _ => c.map (fun x => (x, x)) ++ ranges (d :: rest)
termination_by parts => parts.length

/-- The set with the given text between its brackets. -/
def setItem (content : List Char) : Item :=
  let skip := if content.head? = some '!' then 2 else 1
  match (closeLast (chunks skip content.length content)).foldr dropReversed [] with
  | [['!']] => .anyChar
  | ('!' :: c) :: rest => .set true (ranges (c :: rest))
  | parts => .set false (ranges parts)

/-- The text between the brackets of a set, and what follows them, given what follows the opening one. A
closing bracket that comes first is a member. -/
def bracketed? (cs : List Char) : Option (List Char × List Char) :=
  let bang := cs.takeWhile (· == '!') |>.take 1
  let first := (cs.drop bang.length).takeWhile (· == ']') |>.take 1
  let start := bang ++ first
  let body := (cs.drop start.length).takeWhile (· != ']')
  match cs.drop (start.length + body.length) with
  | [] => none
  | _ :: rest => some (start ++ body, rest)

/-- Reads a pattern. A bracket that is not closed stands for itself. -/
def itemsOf : Nat → List Char → List Item
  | 0, _ => []
  | _, [] => []
  | fuel + 1, c :: rest =>
    if c = '*' then .anyText :: itemsOf fuel rest
    else if c = '?' then .anyChar :: itemsOf fuel rest
    else if c = '[' then
      match bracketed? rest with
      | some (content, after) => setItem content :: itemsOf fuel after
      | none => .literal c :: itemsOf fuel rest
    else .literal c :: itemsOf fuel rest

def Item.accepts (i : Item) (c : Char) : Bool :=
  match i with
  | anyText => false
  | anyChar => true
  | literal d => c == d
  | set negated rs => (rs.any fun (first, last) => first ≤ c && c ≤ last) != negated

/-- Whether a whole text is as a pattern says. -/
def matchesItems : List Item → List Char → Bool
  | [], cs => cs.isEmpty
  | .anyText :: items, [] => matchesItems items []
  | .anyText :: items, c :: cs => matchesItems items (c :: cs) || matchesItems (.anyText :: items) cs
  | _ :: _, [] => false
  | i :: items, c :: cs => i.accepts c && matchesItems items cs
termination_by items cs => items.length + cs.length

def matchesName (pattern name : String) : Bool :=
  matchesItems (itemsOf (pattern.length + 1) pattern.toList) name.toList

end SketchSurvey.Files.Glob
