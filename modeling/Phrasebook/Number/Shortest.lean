import Phrasebook.Number.Double
import Phrasebook.Number.Numeral

/-!
# Phrasebook.Number.Shortest

The shortest decimal of a double and how it is laid out as text.

`shortest` tries one digit, two digits and so on up to seventeen; on each decimal grid only the two
neighbours of the number can be nearest, and the first grid with a neighbour that reads back as the
same double wins. Of two such neighbours the nearer is taken, and the even one in the middle.
-/

namespace Phrasebook

namespace Shortest

/-- `digits · 10 ^ exponent`. -/
structure Decimal where
  digits : Nat
  exponent : Int
  deriving DecidableEq, Repr

/-- A positive ratio of natural numbers. -/
structure Ratio where
  num : Nat
  den : Nat

namespace Ratio

/-- The value of a mantissa and a binary exponent. -/
def ofBinary (mantissa : Nat) (exponent : Int) : Ratio :=
  if 0 ≤ exponent then ⟨mantissa * Double.twoTo exponent.toNat, 1⟩
  else ⟨mantissa, Double.twoTo (-exponent).toNat⟩

/-- `digits · 10 ^ exponent`. -/
def ofDecimal (d : Decimal) : Ratio :=
  if 0 ≤ d.exponent then ⟨d.digits * Double.tenTo d.exponent.toNat, 1⟩
  else ⟨d.digits, Double.tenTo (-d.exponent).toNat⟩

/-- The first ratio is at most the second. -/
def le (a b : Ratio) : Bool := a.num * b.den ≤ b.num * a.den

/-- The greatest `k` with `10 ^ k` at most the ratio; two binary logarithms leave few to try. -/
def magnitude (r : Ratio) : Int :=
  let guess : Int := (Int.ofNat r.num.log2 - Int.ofNat r.den.log2) * 30103 / 100000
  let near := [guess + 2, guess + 1, guess, guess - 1, guess - 2]
  (near.find? fun k => (ofDecimal ⟨1, k⟩).le r).getD guess

/-- The whole part of the ratio in units of `10 ^ k`. -/
def floorIn (r : Ratio) (k : Int) : Nat :=
  if 0 ≤ k then r.num / (r.den * Double.tenTo k.toNat)
  else r.num * Double.tenTo (-k).toNat / r.den

end Ratio

/-- The decimal reads as the double with these bits. -/
def readsBack (bits : Nat) (d : Decimal) : Bool :=
  let r := Ratio.ofDecimal d
  Double.bitsOfRatio r.num r.den == bits

/-- The lower neighbour on the grid of `10 ^ k` is nearer to the ratio, or even in the middle. -/
def prefersLower (r : Ratio) (q : Nat) (k : Int) : Bool :=
  let middle := Ratio.ofDecimal ⟨10 * q + 5, k - 1⟩
  if r.le middle then !(middle.le r) || q % 2 == 0 else false

/-- The neighbour on the grid of `10 ^ k` that reads back and is nearest. -/
def onGrid (bits : Nat) (r : Ratio) (k : Int) : Option Decimal :=
  let q := r.floorIn k
  let lower : Decimal := ⟨q, k⟩
  let upper : Decimal := ⟨q + 1, k⟩
  match readsBack bits lower, readsBack bits upper with
  | true, true => some (if prefersLower r q k then lower else upper)
  | true, false => some lower
  | false, true => some upper
  | false, false => none

/-- Drops the zeros at the end of the digits; `fuel` is the number of digits. -/
def dropZeros : Nat → Decimal → Decimal
  | 0, d => d
  | fuel + 1, d =>
    if d.digits ≠ 0 ∧ d.digits % 10 = 0 then dropZeros fuel ⟨d.digits / 10, d.exponent + 1⟩ else d

/-- The shortest decimal that reads back as the nonnegative double `mantissa · 2 ^ exponent`. -/
def shortest (mantissa : Nat) (exponent : Int) : Decimal :=
  if mantissa == 0 then ⟨0, 0⟩ else
    let r := Ratio.ofBinary mantissa exponent
    let bits := Double.bitsOfRatio r.num r.den
    let top := r.magnitude
    let grids := (List.range 17).map fun n => top - Int.ofNat n
    let d := (grids.findSome? fun k => onGrid bits r k).getD ⟨r.floorIn (top - 16), top - 16⟩
    dropZeros 20 d

/-- How a decimal is laid out. -/
structure Layout where
  /-- Smaller powers of ten are written with an exponent. -/
  positionalFrom : Int
  /-- This power of ten and greater ones are written with an exponent. -/
  positionalBelow : Int
  /-- The least number of digits of an exponent. -/
  exponentWidth : Nat
  nan : String
  infinity : String

/-- Zeros in front of `s` up to the width. -/
def fill (width : Nat) (s : List Char) : List Char :=
  List.replicate (width - s.length) '0' ++ s

/-- One digit, then a point and the others where there are others. -/
def mantissaText : List Char → List Char
  | [] => ['0']
  | [d] => [d]
  | d :: ds => d :: '.' :: ds

namespace Layout

def positive (l : Layout) (d : Decimal) : List Char :=
  let ds := Numeral.natural d.digits
  let top : Int := d.exponent + Int.ofNat ds.length - 1
  if d.digits == 0 then ['0', '.', '0']
  else if top < l.positionalFrom || l.positionalBelow ≤ top then
    let sign := if top < 0 then '-' else '+'
    mantissaText ds ++ ['e', sign] ++ fill l.exponentWidth (Numeral.natural top.natAbs)
  else if top < 0 then
    ['0', '.'] ++ List.replicate ((-top).toNat - 1) '0' ++ ds
  else
    let whole := top.toNat + 1
    if ds.length ≤ whole then ds ++ List.replicate (whole - ds.length) '0' ++ ['.', '0']
    else ds.take whole ++ ['.'] ++ ds.drop whole

def write (l : Layout) (x : Float) : String :=
  match Double.view x with
  | .nan => l.nan
  | .infinite negative => (if negative then "-" else "") ++ l.infinity
  | .finite negative mantissa exponent =>
    (if negative then "-" else "") ++ String.ofList (l.positive (shortest mantissa exponent))

end Layout

/-- Powers of ten from `-4` to `15` are written positionally, exponents have two digits or more. -/
def plain : Layout := ⟨-4, 16, 2, "nan", "inf"⟩

/-- As `plain`, with the words for what is no number that documents use. -/
def document : Layout := ⟨-4, 16, 2, "NaN", "Infinity"⟩

end Shortest

end Phrasebook
