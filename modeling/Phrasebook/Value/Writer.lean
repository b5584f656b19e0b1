import Phrasebook.Number.Shortest
import Phrasebook.Text.Quoted
import Phrasebook.Value

/-!
# Phrasebook.Value.Writer

Values as text. Arrays stand in brackets and objects in braces, their parts separated by a comma and
a space; a `Style` fixes the words for null, true and false, how a text is quoted and how a double is
laid out. `describe` is the style of messages. `Value.sorted` brings the members of every object into
the order of their keys, character by character.
-/

namespace Phrasebook

namespace Value

/-- The choices a text for a value leaves open. -/
structure Style where
  null : String
  yes : String
  no : String
  quote : String → String
  double : Shortest.Layout

namespace Style

mutual

def write (st : Style) : Value → String
  | .null => st.null
  | .bool b => if b then st.yes else st.no
  | .int n => Numeral.write n
  | .float x => st.double.write x
  | .text s => st.quote s
  | .array vs => "[" ++ ", ".intercalate (writeItems st vs) ++ "]"
  | .object ms => "\x7b" ++ ", ".intercalate (writeMembers st ms) ++ "\x7d"

def writeItems (st : Style) : List Value → List String
  | [] => []
  | v :: vs => write st v :: writeItems st vs

def writeMembers (st : Style) : List (String × Value) → List String
  | [] => []
  | (k, v) :: ms => (st.quote k ++ ": " ++ write st v) :: writeMembers st ms

end

end Style

/-- The style of messages. -/
def messageStyle : Style := ⟨"None", "True", "False", Quoted.write, Shortest.plain⟩

def describe (v : Value) : String := messageStyle.write v

/-- A text as it is, any other value as messages show it. -/
def plain : Value → String
  | .text s => s
  | v => v.describe

mutual

/-- The value with the members of every object in the order of their keys. -/
def sorted : Value → Value
  | .array vs => .array (sortedItems vs)
  | .object ms => .object ((sortedMembers ms).mergeSort fun a b => a.1 ≤ b.1)
  | .null => .null
  | .bool b => .bool b
  | .int n => .int n
  | .float x => .float x
  | .text s => .text s

/-- Items with sorted objects. -/
def sortedItems : List Value → List Value
  | [] => []
  | v :: vs => sorted v :: sortedItems vs

def sortedMembers : List (String × Value) → List (String × Value)
  | [] => []
  | (k, v) :: ms => (k, sorted v) :: sortedMembers ms

end

end Value

end Phrasebook
