/-!
Regular expressions as trees.
-/

set_option autoImplicit false

namespace SketchSurvey.Regex

/-- What letters in `(?...)` turn on. -/
structure Flags where
  ignoreCase : Bool := false
  multiLine : Bool := false
  dotAll : Bool := false
  verbose : Bool := false
  /-- Classes of characters know the first block only. -/
  ascii : Bool := false
  unicode : Bool := false
  locale : Bool := false
  template : Bool := false
  deriving BEq, Repr, Inhabited

namespace Flags

def ofLetter? : Char → Option Flags
  | 'i' => some { ignoreCase := true }
  | 'L' => some { locale := true }
  | 'm' => some { multiLine := true }
  | 's' => some { dotAll := true }
  | 'x' => some { verbose := true }
  | 'a' => some { ascii := true }
  | 't' => some { template := true }
  | 'u' => some { unicode := true }
  | _ => none

def join (f g : Flags) : Flags where
  ignoreCase := f.ignoreCase || g.ignoreCase
  multiLine := f.multiLine || g.multiLine
  dotAll := f.dotAll || g.dotAll
  verbose := f.verbose || g.verbose
  ascii := f.ascii || g.ascii
  unicode := f.unicode || g.unicode
  locale := f.locale || g.locale
  template := f.template || g.template

/-- The flags of one that are not in the other. -/
def without (f g : Flags) : Flags where
  ignoreCase := f.ignoreCase && !g.ignoreCase
  multiLine := f.multiLine && !g.multiLine
  dotAll := f.dotAll && !g.dotAll
  verbose := f.verbose && !g.verbose
  ascii := f.ascii && !g.ascii
  unicode := f.unicode && !g.unicode
  locale := f.locale && !g.locale
  template := f.template && !g.template

/-- Flags that say what a letter is. Only one of them can hold. -/
def choosesLetters (f : Flags) : Bool := f.ascii || f.unicode || f.locale

def letterChoices (f : Flags) : Nat := f.ascii.toNat + f.unicode.toNat + f.locale.toNat

def meets (f g : Flags) : Bool :=
  (f.ignoreCase && g.ignoreCase) || (f.multiLine && g.multiLine) || (f.dotAll && g.dotAll) ||
    (f.verbose && g.verbose) || (f.ascii && g.ascii) || (f.unicode && g.unicode) ||
    (f.locale && g.locale) || (f.template && g.template)

def isEmpty (f : Flags) : Bool := f == {}

/-- The flags inside a group that turns some on and some off. -/
def inside (outer on off : Flags) : Flags :=
  let outer := if on.choosesLetters then
      { outer with ascii := false, unicode := false, locale := false }
    else outer
  (outer.join on).without off

end Flags

inductive Category where
  | digit
  | space
  | word
  deriving BEq, Repr

/-- One item of a set of characters. Characters are code points, as a pattern may name some that no
text holds. -/
inductive SetItem where
  | literal (c : Nat)
  | range (lo hi : Nat)
  | category (negated : Bool) (c : Category)
  deriving BEq, Repr

inductive Anchor where
  | lineStart
  | lineEnd
  | textStart
  | textEnd
  | boundary
  | noBoundary
  deriving BEq, Repr

inductive Greed where
  | greedy
  | lazy
  | possessive
  deriving BEq, Repr

inductive Node where
  | literal (c : Nat)
  | any
  | set (negated : Bool) (items : List SetItem)
  | anchor (a : Anchor)
  /-- A group with or without a number, and the flags that it changes. -/
  | group (number : Option Nat) (on off : Flags) (body : List Node)
  | branch (alternatives : List (List Node))
  /-- No `most` means any number of times. -/
  | repeat (greed : Greed) (least : Nat) (most : Option Nat) (body : List Node)
  | atomic (body : List Node)
  | look (behind negated : Bool) (body : List Node)
  | backreference (group : Nat)
  | conditional (group : Nat) (yes no : List Node)
  deriving Inhabited

/-- The least and the greatest number of characters that something matches. -/
structure Width where
  least : Nat
  most : Nat
  deriving BEq, Repr, Inhabited

namespace Width

/-- Widths are not told apart above this one. -/
def unbounded : Nat := Nat.pow 2 64

def none : Width := ⟨0, 0⟩

def one : Width := ⟨1, 1⟩

def add (a b : Width) : Width := ⟨min (a.least + b.least) unbounded, min (a.most + b.most) unbounded⟩

def either (a b : Width) : Width := ⟨min a.least b.least, max a.most b.most⟩

end Width

mutual

/-- The width of what a node matches, where `groups` are the widths of the groups before it. -/
def Node.width (groups : Nat → Width) : Node → Width
  | .literal _ => .one
  | .any => .one
  | .set _ _ => .one
  | .anchor _ => .none
  | .group _ _ _ body => widthOf groups body
  | .branch alternatives => widthOfBranches groups alternatives
  | .repeat _ least most body =>
    let w := widthOf groups body
    ⟨w.least * least, match most with
      | some n => w.most * n
      | none => if w.most == 0 then 0 else Width.unbounded⟩
  | .atomic body => widthOf groups body
  | .look _ _ _ => .none
  | .backreference g => groups g
  | .conditional _ yes no => (widthOf groups yes).either (widthOf groups no)

def widthOf (groups : Nat → Width) : List Node → Width
  | [] => .none
  | n :: rest => (n.width groups).add (widthOf groups rest)

def widthOfBranches (groups : Nat → Width) : List (List Node) → Width
  | [] => .none
  | [b] => widthOf groups b
  | b :: rest => (widthOf groups b).either (widthOfBranches groups rest)

end

/-- A pattern that was read. -/
structure Pattern where
  source : String
  body : List Node
  flags : Flags
  /-- The widths of the groups, the first group first. -/
  widths : List Width := []

def Pattern.groupWidth (r : Pattern) (group : Nat) : Width := (r.widths[group - 1]?).getD .none

end SketchSurvey.Regex
