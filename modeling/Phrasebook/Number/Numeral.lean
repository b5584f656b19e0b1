import Phrasebook.Text.Blank
import Phrasebook.Text.Digit

/-!
# Phrasebook.Number.Numeral

Whole numbers in decimal: how they are read and how they are written.

A numeral may be surrounded by blanks and may carry a sign; its digits may belong to any script and
mix scripts, and single bars may stand between digits. A numeral with more than `maxDigits` digits is
refused for its length, before anything behind its digits is looked at.
-/

namespace Phrasebook

namespace Numeral

/-- Why a text is not read as a number. -/
inductive Refusal where
  | malformed
  | tooLong (digits : Nat)
  deriving DecidableEq, Repr

/-- The most digits a numeral may have. -/
def maxDigits : Nat := 4300

/-- A sign in front, and the rest. -/
def splitSign : List Char → Bool × List Char
  | '-' :: s => (true, s)
  | '+' :: s => (false, s)
  | s => (false, s)

/-- A character that belongs to the body of a numeral. -/
def isBody (c : Char) : Bool := c == '_' || (Digit.value? c).isSome

/-- Bars stand singly between digits: none at either end and no two side by side. -/
def barsInside (body : List Char) : Bool :=
  body.head? != some '_' && body.getLast? != some '_' &&
    (body.zip body.tail).all fun p => !(p.1 == '_' && p.2 == '_')

/-- The digits of a body, by value. -/
def digits (body : List Char) : List Nat := body.filterMap Digit.value?

/-- The number with the given decimal digits, the most significant first. -/
def ofDigits (ds : List Nat) : Nat := ds.foldl (fun n d => 10 * n + d) 0

/-- Reads what stands behind the sign of a numeral: its body and blanks. -/
def readUnsigned (negative : Bool) (s : List Char) : Except Refusal Int :=
  let body := s.takeWhile isBody
  let ds := digits body
  if !barsInside body then .error .malformed
  else if maxDigits < ds.length then .error (.tooLong ds.length)
  else if ds.isEmpty || !(s.dropWhile isBody).all Blank.isNumeralBlank then .error .malformed
  else .ok (if negative then -(ofDigits ds) else ofDigits ds)

def read (s : List Char) : Except Refusal Int :=
  let (negative, rest) := splitSign (s.dropWhile Blank.isNumeralBlank)
  readUnsigned negative rest

/-- The number a text stands for, if it stands for one. -/
def read? (s : String) : Option Int := (read s.toList).toOption

def natural (n : Nat) : List Char := Nat.toDigits 10 n

/-- The decimal digits of a whole number, behind a minus sign if it is negative. -/
def chars : Int → List Char
  | .ofNat n => natural n
  | .negSucc n => '-' :: natural (n + 1)

def write (n : Int) : String := String.ofList (chars n)

/-- The number has no more digits than a numeral may have. -/
def isWritable (n : Int) : Bool := (natural n.natAbs).length ≤ maxDigits

/-- The decimal text, at least two characters wide with its sign; zeros fill it up. -/
def padded (n : Int) : List Char :=
  match chars n with
  | [d] => ['0', d]
  | ds => ds

end Numeral

end Phrasebook
