import Phrasebook.Text.Hex
import Phrasebook.Text.Printable

/-!
# Phrasebook.Text.Quoted

A text in quotes, as messages show it. Single quotes stand around it unless it holds a single quote
and no double one. Inside, a backslash escapes itself and the quote in use; line feed, return and tab
have short escapes, and other characters that are not printable are given by their code.
-/

namespace Phrasebook

namespace Quoted

/-- The quote that stands around a text. -/
def quoteFor (s : List Char) : Char :=
  if s.contains '\'' && !s.contains '"' then '"' else '\''

/-- The escape by code, as short as the code allows. -/
def coded (c : Char) : List Char :=
  let n := c.toNat
  if n < 0x100 then '\\' :: 'x' :: Hex.digits 2 n
  else if n < 0x10000 then '\\' :: 'u' :: Hex.digits 4 n
  else '\\' :: 'U' :: Hex.digits 8 n

def escape (quote c : Char) : List Char :=
  if c = '\\' ∨ c = quote then ['\\', c]
  else if c = '\n' then ['\\', 'n']
  else if c = '\r' then ['\\', 'r']
  else if c = '\t' then ['\\', 't']
  else if Printable.isPrintable c then [c]
  else coded c

def encode (s : List Char) : List Char :=
  let quote := quoteFor s
  quote :: s.flatMap (escape quote) ++ [quote]

def write (s : String) : String := String.ofList (encode s.toList)

end Quoted

end Phrasebook
