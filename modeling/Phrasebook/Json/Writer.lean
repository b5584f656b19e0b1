import Phrasebook.Fault

/-!
# Phrasebook.Json.Writer

Writing a value as JSON text. A text stands in double quotes; the quote, the backslash and the
controls below the space are escaped, every other character is written as it is.

Not every value can be written. A whole number may have too many digits, and there is room for so many
levels only: an array or an object takes one, and so does bringing the members of an object into order,
as long as that takes.
-/

namespace Phrasebook

namespace Json

def escape (c : Char) : List Char :=
  match c with
  | '"' => ['\\', '"']
  | '\\' => ['\\', '\\']
  | '\n' => ['\\', 'n']
  | '\r' => ['\\', 'r']
  | '\t' => ['\\', 't']
  | '\x08' => ['\\', 'b']
  | '\x0c' => ['\\', 'f']
  | c => if c.toNat < 0x20 then '\\' :: 'u' :: Hex.digits 4 c.toNat else [c]

def quote (s : String) : String :=
  String.ofList ('"' :: s.toList.flatMap escape ++ ['"'])

def style : Value.Style := ⟨"null", "true", "false", quote, Shortest.document⟩

def write (v : Value) : String := style.write v

mutual

/-- The first obstacle to writing a value with room for so many levels. -/
def obstacle? (room : Nat) : Value → Option Fault
  | .int n => if Numeral.isWritable n then none else some .longNumber
  | .array vs => if room = 0 then some (.tooDeep .writing) else obstacleInItems? (room - 1) vs
  | .object ms =>
    if room = 0 then some (.tooDeep .writing)
    else if room = 1 ∧ 1 < ms.length then some (.tooDeep .comparing)
    else obstacleInMembers? (room - 1) ms
  | _ => none

def obstacleInItems? (room : Nat) : List Value → Option Fault
  | [] => none
  | v :: vs => (obstacle? room v).or (obstacleInItems? room vs)

def obstacleInMembers? (room : Nat) : List (String × Value) → Option Fault
  | [] => none
  | (_, v) :: ms => (obstacle? room v).or (obstacleInMembers? room ms)

end

end Json

end Phrasebook
