/-!
# Phrasebook.Telemetry.Histogram

Histograms: observations counted by the first bound they do not exceed, and their sum.

The type of bounds is free, so that whole numbers can be observed under whole bounds and an open end
as well as doubles under doubles. `cumulative` counts for each bound the observations in its cell and
in the cells before it.
-/

namespace Phrasebook

/-- Bounds with the number of observations that stopped there, and the sum of all. -/
structure Histogram (α β : Type) where
  cells : List (β × Nat)
  sum : α

namespace Histogram

variable {α β : Type}

def empty (zero : α) (bounds : List β) : Histogram α β :=
  ⟨bounds.map (·, 0), zero⟩

/-- Counts an observation in the first cell whose bound holds it; no cell may do so. -/
def countIn (holds : β → Bool) : List (β × Nat) → List (β × Nat)
  | [] => []
  | (b, n) :: cells => if holds b then (b, n + 1) :: cells else (b, n) :: countIn holds cells

/-- Takes an observation, given the new sum and which bounds hold it. -/
def observe (h : Histogram α β) (sum : α) (holds : β → Bool) : Histogram α β :=
  ⟨countIn holds h.cells, sum⟩

/-- How many observations were counted. -/
def count (h : Histogram α β) : Nat := h.cells.foldr (fun c n => c.2 + n) 0

/-- Running totals of counts, `before` observations being counted already. -/
def totals (before : Nat) : List (β × Nat) → List (β × Nat)
  | [] => []
  | (b, n) :: cells => (b, before + n) :: totals (before + n) cells

/-- For each bound, the observations in its cell and in those before. -/
def cumulative (h : Histogram α β) : List (β × Nat) := totals 0 h.cells

/-- The bounds, in order. -/
def bounds (h : Histogram α β) : List β := h.cells.map Prod.fst

end Histogram

end Phrasebook
