import Phrasebook.Fault
import Phrasebook.Text.Letter

/-!
# Phrasebook.Telemetry.Threshold

Thresholds of logs, and how a value names one.

A whole number or a truth value is a threshold as it is. Of any other value the text counts: digits
alone are a number, a known name in any letter case is its threshold, and everything else is the
standard threshold. A text of digits that are not all decimal looks like a number and is none, which
is reported.
-/

namespace Phrasebook

/-- A threshold, as it was given. -/
inductive Threshold where
  | number (n : Int)
  | flag (b : Bool)
  deriving DecidableEq, Repr

namespace Threshold

/-- The rank from which records pass. -/
def rank : Threshold → Int
  | number n => n
  | flag b => if b then 1 else 0

def standard : Threshold := number 20

def debug : Threshold := number 10

def warning : Threshold := number 30

def names : List (List Char × Int) :=
  [("CRITICAL".toList, 50), ("FATAL".toList, 50), ("ERROR".toList, 40), ("WARN".toList, 30),
   ("WARNING".toList, 30), ("INFO".toList, 20), ("DEBUG".toList, 10), ("NOTSET".toList, 0)]

def ofText (text : String) : Except Fault Threshold :=
  let s := Blank.trim text
  if !s.isEmpty && s.toList.all Digit.isDigitLike then
    match Numeral.read s.toList with
    | .ok n => .ok (number n)
    | .error e => .error (Fault.ofRefusal s e)
  else .ok (number ((names.lookup (s.toList.flatMap Letter.capitals)).getD 20))

def ofValue : Value → Except Fault Threshold
  | .null => .ok standard
  | .int n => .ok (number n)
  | .bool b => .ok (flag b)
  | v => ofText v.plain

end Threshold

end Phrasebook
