import Phrasebook.Telemetry.Histogram

/-!
# Phrasebook.Session.Meters

What is counted over searches. The meters belong to no finder in particular: all finders that work
side by side share them, and a new bank does not reset them, since whoever creates a metric under a
name that is taken gets the one that is there (`Instruments.ofRegistry_later`). Durations cannot be
foretold, so only their number is kept.
-/

namespace Phrasebook

/-- Counts over searches. -/
structure Meters where
  /-- Searches that were asked for. -/
  requests : Nat
  /-- Searches that failed while they ran. -/
  failures : Nat
  /-- Durations that were observed. -/
  durations : Nat
  /-- Numbers of phrases found; the bound `none` holds every number. -/
  sizes : Histogram Nat (Option Nat)

namespace Meters

/-- The bounds of the numbers of phrases found. -/
def sizeBounds : List (Option Nat) :=
  [0, 1, 5, 10, 25, 50, 100, 250, 500, 1000].map some ++ [none]

def zero : Meters := ⟨0, 0, 0, .empty 0 sizeBounds⟩

/-- A bound holds the numbers up to it. -/
def holds (n : Nat) : Option Nat → Bool
  | some bound => n ≤ bound
  | none => true

def request (m : Meters) : Meters := { m with requests := m.requests + 1 }

def failure (m : Meters) : Meters := { m with failures := m.failures + 1 }

def finished (n : Nat) (m : Meters) : Meters :=
  { m with
    durations := m.durations + 1
    sizes := m.sizes.observe (m.sizes.sum + n) (holds n) }

end Meters

end Phrasebook
