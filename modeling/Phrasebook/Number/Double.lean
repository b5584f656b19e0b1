/-!
# Phrasebook.Number.Double

Double precision numbers, taken apart exactly.

`view` gives sign, mantissa and binary exponent: a finite double is `± mantissa · 2 ^ exponent`.
`ofRatio` goes the other way, to the double nearest to a ratio of natural numbers, a tie to the even
mantissa; `ofDecimal` reads a decimal with it. `truncate?` and `intAtMost` are exact too.
-/

namespace Phrasebook

namespace Double

def twoTo (n : Nat) : Nat := Nat.pow 2 n

def tenTo (n : Nat) : Nat := Nat.pow 10 n

/-- What a double is. -/
inductive View where
  | nan
  | infinite (negative : Bool)
  | finite (negative : Bool) (mantissa : Nat) (exponent : Int)
  deriving DecidableEq, Repr

/-- Takes the 64 bits apart: one of sign, eleven of exponent, fifty-two of mantissa. -/
def viewBits (bits : Nat) : View :=
  let negative := bits / twoTo 63 % 2 == 1
  let biased := bits / twoTo 52 % twoTo 11
  let fraction := bits % twoTo 52
  if biased == 2047 then if fraction == 0 then .infinite negative else .nan
  else if biased == 0 then .finite negative fraction (-1074)
  else .finite negative (twoTo 52 + fraction) (Int.ofNat biased - 1075)

/-- Sign, mantissa and exponent of a double. -/
def view (x : Float) : View := viewBits x.toBits.toNat

/-- A double that is not a number. -/
def nan : Float := 0.0 / 0.0

/-- Infinity of either sign. -/
def infinity (negative : Bool) : Float :=
  if negative then -(1.0 / 0.0) else 1.0 / 0.0

/-- `num / den`, rounded to the nearest natural number, a tie to the even one. -/
def roundRatio (num den : Nat) : Nat :=
  let q := num / den
  let r := num % den
  if den < 2 * r || (2 * r == den && q % 2 == 1) then q + 1 else q

/-- `num / den · 2 ^ -exponent` as a ratio. -/
def scaled (num den : Nat) (exponent : Int) : Nat × Nat :=
  if 0 ≤ exponent then (num, den * twoTo exponent.toNat) else (num * twoTo (-exponent).toNat, den)

/-- The bits of the nonnegative double nearest to `num / den`; infinity beyond the largest. -/
def bitsOfRatio (num den : Nat) : Nat :=
  if num == 0 then 0 else
    let guess : Int := Int.ofNat num.log2 - Int.ofNat den.log2 - 52
    let low := scaled num den guess
    let exponent := max (if low.1 / low.2 < twoTo 52 then guess - 1 else guess) (-1074)
    let (n, d) := scaled num den exponent
    min ((exponent + 1074).toNat * twoTo 52 + roundRatio n d) (2047 * twoTo 52)

/-- The double nearest to `± num / den`. -/
def ofRatio (negative : Bool) (num den : Nat) : Float :=
  let bits := bitsOfRatio num den
  Float.ofBits (UInt64.ofNat (if negative then twoTo 63 + bits else bits))

/-- The double nearest to `± digits · 10 ^ exponent`. Beyond 400 decimal places either way there is
only infinity or zero, so the power is not computed there. -/
def ofDecimal (negative : Bool) (digits : Nat) (exponent : Int) : Float :=
  let top := exponent + digits.log2 * 3 / 10
  if digits == 0 || top < -400 then ofRatio negative 0 1
  else if 400 < top then infinity negative
  else if 0 ≤ exponent then ofRatio negative (digits * tenTo exponent.toNat) 1
  else ofRatio negative digits (tenTo (-exponent).toNat)

/-- The double nearest to a whole number; `none` where that is infinity. -/
def ofInt? (n : Int) : Option Float :=
  if bitsOfRatio n.natAbs 1 == 2047 * twoTo 52 then none else some (ofRatio (n < 0) n.natAbs 1)

def View.truncate? : View → Option Int
  | .finite negative mantissa exponent =>
    let whole := if 0 ≤ exponent then mantissa * twoTo exponent.toNat
      else mantissa / twoTo (-exponent).toNat
    some (if negative then -whole else whole)
  | _ => none

/-- A whole number is at most a double, compared exactly. -/
def intAtMost (n : Int) (x : Float) : Bool :=
  match view x with
  | .nan => false
  | .infinite negative => !negative
  | .finite negative mantissa exponent =>
    let m : Int := if negative then -mantissa else mantissa
    if 0 ≤ exponent then n ≤ m * Int.ofNat (twoTo exponent.toNat)
    else n * Int.ofNat (twoTo (-exponent).toNat) ≤ m

end Double

end Phrasebook
