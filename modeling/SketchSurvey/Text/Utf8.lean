import SketchSurvey.Text.Quoted

/-!
Bytes as text. Bytes that are no text are refused, or a mark stands for them: one for the bytes that
could begin a character together.
-/

set_option autoImplicit false

namespace SketchSurvey.Text.Utf8

abbrev Bytes := List UInt8

inductive Fault where
  /-- No character starts with this byte. -/
  | start
  /-- A character does not go on with the byte that follows. -/
  | continuation
  /-- The bytes end within a character. -/
  | truncated
  deriving BEq, Repr, DecidableEq

def Fault.message : Fault → String
  | start => "invalid start byte"
  | continuation => "invalid continuation byte"
  | truncated => "unexpected end of data"

/-- A character, or bytes that are none. -/
inductive Piece where
  | char (c : Char)
  | bad (size : Nat) (fault : Fault)
  deriving BEq, Repr, DecidableEq

/-- What a first byte says: the bits that it gives, how many bytes follow, and between which bounds the
next of them lies. -/
structure Lead where
  bits : Nat
  following : Nat
  low : Nat := 0x80
  high : Nat := 0xBF
  deriving Repr

/-- Longer forms than needed, surrogates, and what lies beyond the last character have no first byte, or
narrower bounds for the second. -/
def lead? (b : UInt8) : Option Lead :=
  let n := b.toNat
  if n < 0x80 then some { bits := n, following := 0 }
  else if n < 0xC2 then none
  else if n < 0xE0 then some { bits := n - 0xC0, following := 1 }
  else if n = 0xE0 then some { bits := 0, following := 2, low := 0xA0 }
  else if n = 0xED then some { bits := 0xD, following := 2, high := 0x9F }
  else if n < 0xF0 then some { bits := n - 0xE0, following := 2 }
  else if n = 0xF0 then some { bits := 0, following := 3, low := 0x90 }
  else if n < 0xF4 then some { bits := n - 0xF0, following := 3 }
  else if n = 0xF4 then some { bits := 4, following := 3, high := 0x8F }
  else none

/-- Reads the bytes that follow a first one; `size` counts those read. -/
def finish (bits size low high : Nat) : Nat → Bytes → Piece × Bytes
  | 0, rest => (.char (Char.ofNat bits), rest)
  | _ + 1, [] => (.bad size .truncated, [])
  | n + 1, b :: rest =>
    if low ≤ b.toNat && b.toNat ≤ high then
      finish (bits * 64 + (b.toNat - 0x80)) (size + 1) 0x80 0xBF n rest
    else (.bad size .continuation, b :: rest)

theorem length_finish_le (bits size low high n : Nat) (bytes : Bytes) :
    (finish bits size low high n bytes).2.length ≤ bytes.length := by
  induction n generalizing bits size low high bytes with
  | zero => simp [finish]
  | succ n ih =>
    cases bytes with
    | nil => simp [finish]
    | cons b rest =>
      simp only [finish]
      split
      · exact Nat.le_succ_of_le (ih ..)
      · exact Nat.le_refl _

/-- The piece that starts with a byte, and what follows it. -/
def next (b : UInt8) (rest : Bytes) : Piece × Bytes :=
  match lead? b with
  | some l => finish l.bits 1 l.low l.high l.following rest
  | none => (.bad 1 .start, rest)

theorem length_next_le (b : UInt8) (rest : Bytes) : (next b rest).2.length ≤ rest.length := by
  unfold next
  split
  · exact length_finish_le ..
  · exact Nat.le_refl _

/-- All pieces in order. -/
def pieces : Bytes → List Piece
  | [] => []
  | b :: rest =>
    have := length_next_le b rest
    (next b rest).1 :: pieces (next b rest).2
termination_by bytes => bytes.length

def replacement : Char := '\uFFFD'

def Piece.orReplacement : Piece → Char
  | char c => c
  | bad _ _ => replacement

/-- The text of any bytes, with marks for those that are none. -/
def decodeAll (bytes : Bytes) : List Char := (pieces bytes).map Piece.orReplacement

/-- Bytes that are no text, and where they stand. -/
structure Problem where
  position : Nat
  bytes : Bytes
  fault : Fault
  deriving BEq, Repr

def Problem.message (p : Problem) : String :=
  let place := match p.bytes with
    | [b] => "byte 0x" ++ String.ofList (hexDigits 2 b.toNat) ++ " in position " ++ toString p.position
    | bs => "bytes in position " ++ toString p.position ++ "-" ++
      toString (p.position + bs.length - 1)
  "'utf-8' codec can't decode " ++ place ++ ": " ++ p.fault.message

/-- Reads a text; `position` counts the bytes before. -/
def decodeFrom (position : Nat) : Bytes → Except Problem (List Char)
  | [] => .ok []
  | b :: rest =>
    have := length_next_le b rest
    match (next b rest).1 with
    | .bad size fault => .error { position, bytes := (b :: rest).take size, fault }
    | .char c => do
      let more ← decodeFrom (position + 1 + (rest.length - (next b rest).2.length)) (next b rest).2
      return c :: more
termination_by bytes => bytes.length

/-- The text of bytes that are one. -/
def decode (bytes : Bytes) : Except Problem (List Char) := decodeFrom 0 bytes

def encode (text : String) : Bytes := text.toUTF8.data.toList

/-- Ends lines in one way: a return, with a line feed after it or alone, becomes a line feed. -/
def unifyLines : List Char → List Char
  | '\r' :: '\n' :: rest => '\n' :: unifyLines rest
  | '\r' :: rest => '\n' :: unifyLines rest
  | c :: rest => c :: unifyLines rest
  | [] => []

end SketchSurvey.Text.Utf8
