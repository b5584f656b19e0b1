import Phrasebook.Pairs

/-!
# Phrasebook.Value

Values of any type, as documents, selections and log contexts hold them.

Objects keep their members in writing order.
-/

namespace Phrasebook

/-- A value of a document, a selection or a log context. -/
inductive Value where
  | null
  | bool (b : Bool)
  | int (n : Int)
  | float (x : Float)
  | text (s : String)
  | array (items : List Value)
  | object (members : List (String × Value))
  deriving Inhabited

/-- The members of an object, in order. -/
abbrev Members := Pairs String

namespace Value

/-- The word for a value's type, as messages give it. -/
def kind : Value → String
  | null => "NoneType"
  | bool _ => "bool"
  | int _ => "int"
  | float _ => "float"
  | text _ => "str"
  | array _ => "list"
  | object _ => "dict"

/-- Null, false, zero and everything empty count as nothing. -/
def isNothing : Value → Bool
  | null => true
  | bool b => !b
  | int n => n == 0
  | float x => x == 0
  | text s => s == ""
  | array items => items.isEmpty
  | object members => members.isEmpty

/-- The value itself, or the empty text in place of nothing. -/
def orEmpty (v : Value) : Value :=
  if v.isNothing then text "" else v

def isNull : Value → Bool
  | null => true
  | _ => false

def text? : Value → Option String
  | text s => some s
  | _ => none

/-- An array of texts. -/
def ofTexts (xs : List String) : Value := array (xs.map text)

/-- Each character of a text as a text of its own. -/
def characters (s : String) : List String :=
  s.toList.map fun c => String.ofList [c]

/-- What a value yields one by one: an array its items, a text its characters, an object its keys. -/
def elements? : Value → Option (List Value)
  | array items => some items
  | text s => some ((characters s).map text)
  | object members => some (members.map fun m => text m.1)
  | _ => none

/-- How many elements a value has. -/
def length? : Value → Option Nat
  | array items => some items.length
  | text s => some s.length
  | object members => some members.length
  | _ => none

/-- A member of an object; null where there is none. -/
def member (v : Value) (key : String) : Value :=
  match v with
  | object members => (Pairs.at? members key).getD null
  | _ => null

end Value

end Phrasebook
