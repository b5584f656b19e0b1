import Phrasebook.Pattern.Match

/-!
# Phrasebook.Pattern.Expression

Tokens as the text of a regular expression for whole phrases, and back. An `anyRun` is written as a
point and a star, a literal as itself, behind a backslash if it has a meaning in expressions.
`decode` reads what `encode` writes, so a written form belongs to one list of tokens only
(`decode_encode`). A whole phrase is matched by the tokens that are read from the text.
-/

namespace Phrasebook

namespace Pattern

namespace Expression

/-- The characters with a meaning in expressions, the star apart, which no literal is. -/
def special : List Char :=
  ['.', '+', '?', '^', '$', '\x7b', '\x7d', '(', ')', '|', '[', ']', '\\']

def encodeToken : Token → List Char
  | .anyRun => ['.', '*']
  | .literal c => if c ∈ special then ['\\', c] else [c]

def encode (ts : List Token) : List Char := ts.flatMap encodeToken

/-- Reads the tokens of a text; a special character that stands alone is refused. -/
def decode : List Char → Option (List Token)
  | [] => some []
  | '\\' :: c :: s => (decode s).map (.literal c :: ·)
  | '.' :: '*' :: s => (decode s).map (.anyRun :: ·)
  | c :: s => if c ∈ special then none else (decode s).map (.literal c :: ·)

theorem decode_encode (ts : List Token) : decode (encode ts) = some ts := by
  induction ts with
  | nil => rfl
  | cons t ts ih =>
    cases t with
    | anyRun =>
      have e : encode (.anyRun :: ts) = '.' :: '*' :: encode ts := rfl
      rw [e, decode, ih]
      rfl
    | literal c =>
      by_cases h : c ∈ special
      · have e : encode (.literal c :: ts) = '\\' :: c :: encode ts := by
          simp [encode, encodeToken, h]
        rw [e, decode, ih]
        rfl
      · have e : encode (.literal c :: ts) = c :: encode ts := by
          simp [encode, encodeToken, h]
        rw [e, decode, if_neg h, ih]
        · rfl
        · rintro _ _ rfl
          exact absurd (by decide) h
        · rintro _ rfl
          exact absurd (by decide) h

/-- The expression for a pattern. -/
def ofPattern (pattern : String) : String :=
  String.ofList (encode (tokens pattern.toList))

/-- An expression matches a whole phrase, in either letter case. -/
def matchesAll (expression phrase : String) : Bool :=
  match decode expression.toList with
  | some ts => accepts ts phrase.toList
  | none => false

theorem decode_ofPattern (pattern : String) :
    decode (ofPattern pattern).toList = some (tokens pattern.toList) := by
  rw [ofPattern, String.toList_ofList, decode_encode]

theorem matchesAll_ofPattern (pattern phrase : String) :
    matchesAll (ofPattern pattern) phrase = accepts (tokens pattern.toList) phrase.toList := by
  rw [matchesAll, decode_ofPattern]

end Expression

end Pattern

end Phrasebook
