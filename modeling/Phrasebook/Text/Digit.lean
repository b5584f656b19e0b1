/-!
# Phrasebook.Text.Digit

Digits of every script, and the two digit forms a phrase may be written in.

`value?` reads a decimal digit of any script; `isDigitLike` adds the superscripts, subscripts and
circled digits, which look like digits and have no decimal value. `western` turns one Persian digit
into the Western digit of the same value and leaves every other character alone; `Digits.western`
does so along a text. A western text holds no Persian digit (`western_not_persian`), and doing it
twice is doing it once (`western_western`).
-/

namespace Phrasebook

namespace Digit

/-- The zero of every run of ten decimal digits. -/
def zeros : List Nat :=
  [0x30, 0x660, 0x6F0, 0x7C0, 0x966, 0x9E6, 0xA66, 0xAE6, 0xB66, 0xBE6,
   0xC66, 0xCE6, 0xD66, 0xDE6, 0xE50, 0xED0, 0xF20, 0x1040, 0x1090, 0x17E0,
   0x1810, 0x1946, 0x19D0, 0x1A80, 0x1A90, 0x1B50, 0x1BB0, 0x1C40, 0x1C50, 0xA620,
   0xA8D0, 0xA900, 0xA9D0, 0xA9F0, 0xAA50, 0xABF0, 0xFF10, 0x104A0, 0x10D30, 0x11066,
   0x110F0, 0x11136, 0x111D0, 0x112F0, 0x11450, 0x114D0, 0x11650, 0x116C0, 0x11730, 0x118E0,
   0x11950, 0x11C50, 0x11D50, 0x11DA0, 0x16A60, 0x16AC0, 0x16B50, 0x1D7CE, 0x1D7D8, 0x1D7E2,
   0x1D7EC, 0x1D7F6, 0x1E140, 0x1E2F0, 0x1E950, 0x1FBF0]

/-- The value of a decimal digit of any script. -/
def value? (c : Char) : Option Nat :=
  (zeros.find? fun z => z ≤ c.toNat && c.toNat ≤ z + 9).map (c.toNat - ·)

/-- Superscript, subscript, circled and other digits without decimal use. -/
def ornamental : List (Nat × Nat) :=
  [(0xB2, 0xB3), (0xB9, 0xB9), (0x1369, 0x1371), (0x19DA, 0x19DA), (0x2070, 0x2070),
   (0x2074, 0x2079), (0x2080, 0x2089), (0x2460, 0x2468), (0x2474, 0x247C), (0x2488, 0x2490),
   (0x24EA, 0x24EA), (0x24F5, 0x24FD), (0x24FF, 0x24FF), (0x2776, 0x277E), (0x2780, 0x2788),
   (0x278A, 0x2792), (0x10A40, 0x10A43), (0x10E60, 0x10E68), (0x11052, 0x1105A), (0x1F100, 0x1F10A)]

/-- Decimal digits and ornamental ones. -/
def isDigitLike (c : Char) : Bool :=
  (value? c).isSome || ornamental.any fun r => r.1 ≤ c.toNat && c.toNat ≤ r.2

def isPersian (c : Char) : Bool :=
  0x6F0 ≤ c.toNat && c.toNat ≤ 0x6F9

/-- The Western digit for a Persian one; other characters stay. -/
def western (c : Char) : Char :=
  if isPersian c then Char.ofNat (c.toNat - 0x6F0 + 0x30) else c

theorem western_of_not_persian {c : Char} (h : isPersian c = false) : western c = c := by
  simp [western, h]

/-- There are only ten Persian digits to check. -/
theorem western_cases (c : Char) :
    (isPersian c = false ∧ western c = c) ∨
      western c ∈ ['0', '1', '2', '3', '4', '5', '6', '7', '8', '9'] := by
  by_cases h : isPersian c
  · right
    have hr : 0x6F0 ≤ c.toNat ∧ c.toNat ≤ 0x6F9 := by simpa [isPersian] using h
    have hw : western c = Char.ofNat (c.toNat - 0x6F0 + 0x30) := by simp [western, h]
    have : c.toNat - 0x6F0 = 0 ∨ c.toNat - 0x6F0 = 1 ∨ c.toNat - 0x6F0 = 2 ∨ c.toNat - 0x6F0 = 3 ∨
        c.toNat - 0x6F0 = 4 ∨ c.toNat - 0x6F0 = 5 ∨ c.toNat - 0x6F0 = 6 ∨ c.toNat - 0x6F0 = 7 ∨
        c.toNat - 0x6F0 = 8 ∨ c.toNat - 0x6F0 = 9 := by omega
    rw [hw]
    rcases this with e | e | e | e | e | e | e | e | e | e <;> rw [e] <;> decide
  · left
    have : isPersian c = false := by simpa using h
    exact ⟨this, western_of_not_persian this⟩

theorem western_not_persian (c : Char) : isPersian (western c) = false := by
  rcases western_cases c with ⟨h, e⟩ | h
  · rw [e, h]
  · have all : (['0', '1', '2', '3', '4', '5', '6', '7', '8', '9'].all fun d => !isPersian d) := by
      decide
    simpa using List.all_eq_true.1 all _ h

theorem western_western (c : Char) : western (western c) = western c :=
  western_of_not_persian (western_not_persian c)

end Digit

namespace Digits

/-- A text with its Persian digits written as Western ones. -/
def western (s : String) : String :=
  String.ofList (s.toList.map Digit.western)

@[simp] theorem toList_western (s : String) : (western s).toList = s.toList.map Digit.western := by
  simp [western]

theorem western_western (s : String) : western (western s) = western s := by
  simp [western, Function.comp_def, Digit.western_western]

end Digits

end Phrasebook
