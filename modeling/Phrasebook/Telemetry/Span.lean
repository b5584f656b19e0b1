import Phrasebook.Pairs
import Phrasebook.Value

/-!
# Phrasebook.Telemetry.Span

Spans: named stretches of work with the attributes that were set on them and the failures that were
recorded. Null is no attribute, and a failure also sets the attribute `error`.
-/

namespace Phrasebook

/-- A stretch of work. The attributes are listed as they were set, one entry for every setting. -/
structure Span (ε : Type) where
  name : String
  attributes : List (String × Value)
  failures : List ε

namespace Span

variable {ε : Type}

/-- Sets attributes one after another; null values are left out. -/
def annotate (attributes : Members Value) (s : Span ε) : Span ε :=
  { s with attributes := s.attributes ++ attributes.filter fun a => !a.2.isNull }

def start (name : String) (attributes : Members Value) : Span ε :=
  annotate attributes ⟨name, [], []⟩

def fail (e : ε) (s : Span ε) : Span ε :=
  { s with
    attributes := s.attributes ++ [("error", .bool true)]
    failures := s.failures ++ [e] }

/-- The pairs whose keys are texts; of equal keys the first gives the place and the last the value. -/
def named (attributes : List (Value × Value)) : Members Value :=
  Pairs.merge [] (attributes.filterMap fun a => a.1.text?.map (·, a.2))

end Span

end Phrasebook
