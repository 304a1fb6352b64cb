import SketchSurvey.Regex.Reader
import SketchSurvey.Regex.Letters

/-!
Searching a text for a pattern. Choices are tried in order, and the first that leads to a match is
taken.
-/

set_option autoImplicit false

namespace SketchSurvey.Regex

/-- A place in a text: what stands before it, the nearest first, and after it. -/
structure Place where
  before : List Char
  after : List Char
  position : Nat := 0

namespace Place

def next? (p : Place) : Option (Char × Place) :=
  match p.after with
  | c :: rest => some (c, ⟨c :: p.before, rest, p.position + 1⟩)
  | [] => none

/-- The place `n` characters back. -/
def back? : Nat → Place → Option Place
  | 0, p => some p
  | n + 1, p =>
    match p.before with
    | c :: rest => back? n ⟨rest, c :: p.after, p.position - 1⟩
    | [] => none

def isEmptyText (p : Place) : Bool := p.before.isEmpty && p.after.isEmpty

/-- Whether a word starts or ends here. -/
def atBoundary (ascii : Bool) (p : Place) : Bool :=
  (p.before.head?.any (isWordChar ascii)) != (p.after.head?.any (isWordChar ascii))

def holds (f : Flags) (p : Place) : Anchor → Bool
  | .textStart => p.before.isEmpty
  | .textEnd => p.after.isEmpty
  | .lineStart => p.before.isEmpty || (f.multiLine && p.before.head? == some '\n')
  | .lineEnd =>
    p.after.isEmpty || p.after == ['\n'] || (f.multiLine && p.after.head? == some '\n')
  | .boundary => !p.isEmptyText && p.atBoundary f.ascii
  | .noBoundary => !p.isEmptyText && !p.atBoundary f.ascii

end Place

/-- What a match has come to: its place, and the text of the groups that have matched. -/
structure Progress where
  place : Place
  groups : List (Nat × List Char) := []

def Progress.group? (p : Progress) (number : Nat) : Option (List Char) :=
  (p.groups.find? (·.1 == number)).map (·.2)

/-- What is to be matched after a node. -/
abbrev Continue := Progress → Option Progress

/-- Something that matches at a place and goes on. -/
abbrev Matcher := Progress → Continue → Option Progress

/-- Matches one character. -/
def matchChar (test : Char → Bool) : Matcher := fun p k =>
  match p.place.next? with
  | some (c, place) => if test c then k { p with place } else none
  | none => none

/-- Matches a text again. -/
def matchText (f : Flags) : List Char → Matcher
  | [], p, k => k p
  | c :: rest, p, k => matchChar (fun d => f.sameChar c.toNat d.toNat) p fun p => matchText f rest p k

/-- Repeats as often as possible. A round that takes nothing is the last. -/
def repeatGreedy (one : Matcher) (least : Nat) (most : Option Nat) (k : Continue) :
    Nat → Nat → Option Nat → Progress → Option Progress
  | 0, _, _, _ => none
  | fuel + 1, count, last, p =>
    if count < least then
      one p fun p => repeatGreedy one least most k fuel (count + 1) last p
    else
      let again :=
        if most.all (count < ·) && last != some p.place.position then
          one p fun q => repeatGreedy one least most k fuel (count + 1) (some p.place.position) q
        else none
      again <|> k p

/-- Repeats as seldom as possible. -/
def repeatLazy (one : Matcher) (least : Nat) (most : Option Nat) (k : Continue) :
    Nat → Nat → Option Nat → Progress → Option Progress
  | 0, _, _, _ => none
  | fuel + 1, count, last, p =>
    if count < least then
      one p fun p => repeatLazy one least most k fuel (count + 1) last p
    else
      match k p with
      | some r => some r
      | none =>
        if most.all (count < ·) && last != some p.place.position then
          one p fun q => repeatLazy one least most k fuel (count + 1) (some p.place.position) q
        else none

/-- Repeats as often as possible and never gives anything back. -/
def repeatPossessive (one : Matcher) (least : Nat) (most : Option Nat) :
    Nat → Nat → Option Nat → Progress → Option Progress
  | 0, _, _, _ => none
  | fuel + 1, count, last, p =>
    if count < least then
      match one p some with
      | some q => repeatPossessive one least most fuel (count + 1) last q
      | none => none
    else if most.all (count < ·) && last != some p.place.position then
      match one p some with
      | some q => repeatPossessive one least most fuel (count + 1) (some p.place.position) q
      | none => some p
    else some p

/-- A bound on the rounds of a repetition in a text of this length. -/
def roundsFor (length least : Nat) : Nat := length + least + 2

mutual

def Node.matcher (widths : List Node → Nat) (f : Flags) (length : Nat) : Node → Matcher
  | .literal c => matchChar fun d => f.sameChar c d.toNat
  | .any => matchChar fun d => f.dotAll || d != '\n'
  | .set negated items => matchChar fun d => items.any (·.has f d) != negated
  | .anchor a => fun p k => if p.place.holds f a then k p else none
  | .group number on off body => fun p k =>
    matcherOf widths (f.inside on off) length body p fun q =>
      match number with
      | some n =>
        let text := p.place.after.take (q.place.position - p.place.position)
        k { q with groups := (n, text) :: q.groups.filter (·.1 != n) }
      | none => k q
  | .branch alternatives => matcherOfBranches widths f length alternatives
  | .repeat .greedy least most body => fun p k =>
    repeatGreedy (matcherOf widths f length body) least most k (roundsFor length least) 0 none p
  | .repeat .lazy least most body => fun p k =>
    repeatLazy (matcherOf widths f length body) least most k (roundsFor length least) 0 none p
  | .repeat .possessive least most body => fun p k =>
    (repeatPossessive (matcherOf widths f length body) least most (roundsFor length least) 0 none p).bind k
  | .atomic body => fun p k => (matcherOf widths f length body p some).bind k
  | .look behind negated body => fun p k =>
    let start := if behind then p.place.back? (widths body) else some p.place
    match start.bind fun place => matcherOf widths f length body { p with place } some with
    | some q => if negated then none else k { q with place := p.place }
    | none => if negated then k p else none
  | .backreference group => fun p k =>
    match p.group? group with
    | some text => matchText f text p k
    | none => none
  | .conditional group yes no => fun p k =>
    if (p.group? group).isSome then matcherOf widths f length yes p k
    else matcherOf widths f length no p k

def matcherOf (widths : List Node → Nat) (f : Flags) (length : Nat) : List Node → Matcher
  | [] => fun p k => k p
  | n :: rest => fun p k =>
    n.matcher widths f length p fun q => matcherOf widths f length rest q k

def matcherOfBranches (widths : List Node → Nat) (f : Flags) (length : Nat) :
    List (List Node) → Matcher
  | [] => fun _ _ => none
  | b :: rest => fun p k =>
    matcherOf widths f length b p k <|> matcherOfBranches widths f length rest p k

end

/-- Searches from a place on. -/
def searchFrom (m : Matcher) (before : List Char) (position : Nat) : List Char → Option Progress
  | [] => m { place := ⟨before, [], position⟩ } some
  | c :: rest =>
    match m { place := ⟨before, c :: rest, position⟩ } some with
    | some p => some p
    | none => searchFrom m (c :: before) (position + 1) rest

/-- Whether a text holds a match. -/
def Pattern.search (r : Pattern) (text : String) : Bool :=
  let cs := text.toList
  let widths (body : List Node) : Nat := (widthOf r.groupWidth body).least
  (searchFrom (matcherOf widths r.flags cs.length r.body) [] 0 cs).isSome

end SketchSurvey.Regex
