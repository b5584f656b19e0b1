/-!
# Phrasebook.Pattern.Token

A wildcard pattern as a list of tokens. A run of stars is one `anyRun` and every other character is a
literal; a pattern without a star is looked for anywhere in a phrase, so it gets an `anyRun` at both
ends. The tokens of a pattern are its normal form: two patterns with the same tokens accept the same
phrases.
-/

namespace Phrasebook

namespace Pattern

/-- A part of a pattern. -/
inductive Token where
  /-- Any characters, or none. -/
  | anyRun
  /-- One character, in either letter case. -/
  | literal (c : Char)
  deriving DecidableEq, Repr

/-- The character that stands for any run. -/
def star : Char := '*'

/-- One `anyRun` for every run of stars, one literal for every other character. -/
def collapse : List Char → List Token
  | [] => []
  | c :: s =>
    if c = star then
      match collapse s with
      | .anyRun :: ts => .anyRun :: ts
      | ts => .anyRun :: ts
    else .literal c :: collapse s

def tokens (pattern : List Char) : List Token :=
  if star ∈ pattern then collapse pattern
  else .anyRun :: pattern.map .literal ++ [.anyRun]

end Pattern

end Phrasebook
