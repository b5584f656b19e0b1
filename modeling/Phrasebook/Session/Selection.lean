import Phrasebook.Fault

/-!
# Phrasebook.Session.Selection

What a search depends on besides the bank, and the changes of it.

The members of a selection may be values of any type; a change brings a category or a tier into a
whole number, and a query that is nothing into the empty text. A change touches the one member that
it names.
-/

namespace Phrasebook

/-- A category, a tier and a query. -/
structure Selection where
  category : Value := .int 0
  tier : Value := .null
  query : Value := .text ""

/-- A change of a selection. -/
inductive Change where
  | category (v : Value)
  | tier (v : Value)
  | query (v : Value)
  /-- A value that names no member. -/
  | other (v : Value)

namespace Selection

def apply (s : Selection) : Change → Except Fault Selection
  | .category v => v.toInteger.map fun n => { s with category := .int n }
  | .tier v => v.toInteger.map fun n => { s with tier := .int n }
  | .query v => .ok { s with query := v.orEmpty }
  | .other v => .error (.unsupportedChange v)

end Selection

end Phrasebook
