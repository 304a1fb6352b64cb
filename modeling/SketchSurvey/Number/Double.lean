/-!
Binary floating-point numbers of double precision, exactly: from a decimal to the nearest number, and
from a number to the shortest decimal that reads back as it.
-/

set_option autoImplicit false

namespace SketchSurvey.Number

/-- A number of 53 binary digits: `mantissa * 2 ^ exponent`, with the least exponent -1074. -/
inductive Double where
  | finite (negative : Bool) (mantissa : Nat) (exponent : Int)
  | infinite (negative : Bool)
  | notANumber
  deriving BEq, Repr, DecidableEq

namespace Double

def precision : Nat := 53

def leastExponent : Int := -1074

def greatestExponent : Int := 971

/-- The quotient rounded to the nearest whole number, a tie to the even one. -/
def roundQuotient (num den : Nat) : Nat :=
  let q := num / den
  let r := num % den
  if 2 * r < den then q
  else if 2 * r > den then q + 1
  else q + q % 2

/-- The nearest number to `num / den`. -/
def ofQuotient (negative : Bool) (num den : Nat) : Double :=
  if num == 0 || den == 0 then .finite negative 0 leastExponent
  else
    -- the exponent at which the quotient has 53 digits, or one of its two neighbours
    let guess : Int := (Nat.log2 num : Int) - (Nat.log2 den : Int) - precision + 1
    let valueAt (e : Int) : Nat :=
      if e ≥ 0 then roundQuotient num (den * Nat.pow 2 e.toNat) else roundQuotient (num * Nat.pow 2 (-e).toNat) den
    let e := if valueAt guess < Nat.pow 2 (precision - 1) then guess - 1 else guess
    let e := max e leastExponent
    let m := valueAt e
    let (m, e) := if m == Nat.pow 2 precision then (Nat.pow 2 (precision - 1), e + 1) else (m, e)
    if e > greatestExponent then .infinite negative else .finite negative m e

/-- The nearest number to `digits * 10 ^ exponent`. -/
def ofDecimal (negative : Bool) (digits : Nat) (exponent : Int) : Double :=
  if digits == 0 then .finite negative 0 leastExponent
  -- beyond these bounds every decimal of so many digits is infinite or zero
  else if exponent > 400 then .infinite negative
  else if exponent + (toString digits).length < -400 then .finite negative 0 leastExponent
  else if exponent ≥ 0 then ofQuotient negative (digits * Nat.pow 10 exponent.toNat) 1
  else ofQuotient negative digits (Nat.pow 10 (-exponent).toNat)

/-- A fraction with the least number of digits that lies between two others, and is nearest to the
value: `digits * 10 ^ exponent`. -/
structure Shortest where
  digits : Nat
  exponent : Int

/-- The decimals of `places` digits around the number: those among the two neighbours that read back
as it. -/
def candidates (m : Nat) (e : Int) (exponent : Int) : List Nat :=
  -- the number over ten to the exponent, as a quotient
  let num := m * (if e ≥ 0 then Nat.pow 2 e.toNat else 1) * (if exponent < 0 then Nat.pow 10 (-exponent).toNat else 1)
  let den := (if e < 0 then Nat.pow 2 (-e).toNat else 1) * (if exponent ≥ 0 then Nat.pow 10 exponent.toNat else 1)
  let q := num / den
  let near := if 2 * (num % den) > den || (2 * (num % den) == den && q % 2 == 1) then [q + 1, q]
    else [q, q + 1]
  near.filter fun d => d != 0 && ofDecimal false d exponent == .finite false m e

/-- How many digits a number has before its point, less one: its decimal exponent. -/
def decimalExponent (m : Nat) (e : Int) : Int :=
  if e ≥ 0 then ((toString (m * Nat.pow 2 e.toNat)).length : Int) - 1
  else
    -- scaled so that the quotient has digits to count
    let scale := (-e).toNat
    ((toString (m * Nat.pow 10 scale / Nat.pow 2 scale)).length : Int) - 1 - scale

/-- Seventeen digits are always enough. -/
def shortest (m : Nat) (e : Int) : Shortest :=
  let top := decimalExponent m e
  let found := (List.range 17).findSome? fun (i : Nat) =>
    let exponent := top - (i : Int)
    (candidates m e exponent).head?.map fun d => (⟨d, exponent⟩ : Shortest)
  found.getD ⟨m, e⟩

def dropTrailingZeros : Nat → Nat → Int → Nat × Int
  | 0, d, e => (d, e)
  | fuel + 1, d, e => if d != 0 && d % 10 == 0 then dropTrailingZeros fuel (d / 10) (e + 1) else (d, e)

/-- Numbers from 0.0001 up to, and without, 10^16 are written without an exponent; one that is whole
keeps a zero after its point. An exponent has a sign and at least two digits. -/
def render : Double → String
  | .notANumber => "NaN"
  | .infinite negative => if negative then "-Infinity" else "Infinity"
  | .finite negative m e =>
    let sign := if negative then "-" else ""
    if m == 0 then sign ++ "0.0"
    else
      let s := shortest m e
      let (d, x) := dropTrailingZeros 400 s.digits s.exponent
      let digits := toString d
      -- the place of the point, counted from the first digit
      let point : Int := digits.length + x
      if -4 < point && point ≤ 16 then
        if x ≥ 0 then sign ++ digits ++ String.ofList (List.replicate x.toNat '0') ++ ".0"
        else if point > 0 then
          sign ++ String.ofList (digits.toList.take point.toNat) ++ "." ++
            String.ofList (digits.toList.drop point.toNat)
        else sign ++ "0." ++ String.ofList (List.replicate (-point).toNat '0') ++ digits
      else
        let exponent := point - 1
        let mark := if exponent < 0 then "-" else "+"
        let size := toString exponent.natAbs
        let size := if size.length < 2 then "0" ++ size else size
        let body := match digits.toList with
          | [] => ""
          | [c] => String.ofList [c]
          | c :: rest => String.ofList (c :: '.' :: rest)
        sign ++ body ++ "e" ++ mark ++ size

end Double

end SketchSurvey.Number
