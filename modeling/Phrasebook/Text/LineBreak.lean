/-!
# Phrasebook.Text.LineBreak

Line breaks. A return, alone or before a line feed, is read as a line feed (`unify`), so a place in a
text can be counted in lines and columns (`Place.of`). A text is shown in lines by a wider rule: ten
characters end a line (`isBreak`), and `last` is the line that the text ends in.
-/

namespace Phrasebook

namespace LineBreak

/-- Reads every return, with the line feed behind it, as one line feed. -/
def unify : List Char → List Char
  | [] => []
  | '\r' :: '\n' :: s => '\n' :: unify s
  | c :: s => (if c = '\r' then '\n' else c) :: unify s

/-- The characters that end a line where a text is shown. -/
def isBreak (c : Char) : Bool :=
  let n := c.toNat
  (0xA ≤ n && n ≤ 0xD) || (0x1C ≤ n && n ≤ 0x1E) || n == 0x85 || n == 0x2028 || n == 0x2029

/-- A text without the break at its end; a return before a line feed belongs to the break. -/
def chomp (s : List Char) : List Char :=
  match s.reverse with
  | '\n' :: '\r' :: before => before.reverse
  | c :: before => if isBreak c then before.reverse else s
  | [] => []

def last (s : String) : String :=
  String.ofList ((chomp s.toList).reverse.takeWhile fun c => !isBreak c).reverse

end LineBreak

/-- A place in a text: characters before it, and its line and column counted from one. -/
structure Place where
  offset : Nat
  line : Nat
  column : Nat
  deriving DecidableEq, Repr

namespace Place

/-- The place behind the first `offset` characters. -/
def of (s : List Char) (offset : Nat) : Place :=
  let before := s.take offset
  ⟨offset, before.count '\n' + 1, (before.reverse.takeWhile (· ≠ '\n')).length + 1⟩

end Place

end Phrasebook
