import Phrasebook.Fault

/-!
# Phrasebook.Bank.Key

The keys of a word bank. A category is known by its position from zero and written from one, in two
digits or more; a tier is written as its number in two digits or more, and a `p`. A key in a document
may spell the number of a tier in any way a numeral can be spelled; `tierNumber?` reads it. A number
too long to be written has no key.
-/

namespace Phrasebook

/-- The key of an entry: a category alone, or a tier and a category. -/
abbrev Key := List String

namespace Key

/-- The key of the category at a position from zero. -/
def category (position : Int) : String :=
  String.ofList (Numeral.padded (position + 1))

def tier (number : Int) : String :=
  String.ofList (Numeral.padded number ++ ['p'])

/-- The key of the category at a position, if it can be written. -/
def ofCategory (position : Int) : Except Fault String :=
  if Numeral.isWritable (position + 1) then .ok (category position) else .error .longNumber

/-- The key of a tier, if it can be written. -/
def ofTier (number : Int) : Except Fault String :=
  if Numeral.isWritable number then .ok (tier number) else .error .longNumber

/-- The number of the tier that a key names. -/
def tierNumber? (key : String) : Option Int :=
  let cs := key.toList
  if cs.getLast? = some 'p' then (Numeral.read cs.dropLast).toOption else none

/-- A key as one text. -/
def text (key : Key) : String := "/".intercalate key

end Key

end Phrasebook
