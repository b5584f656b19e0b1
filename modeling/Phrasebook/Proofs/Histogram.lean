import Phrasebook.Telemetry.Histogram

/-!
# Phrasebook.Proofs.Histogram

What an observation adds to a histogram.

An observation is put into one cell, the first whose bound holds it. Where a bound that holds it is
followed by bounds that hold it as well, the running totals grow by one at every bound that holds it
and at no other (`cumulative_observe`).
-/

namespace Phrasebook
namespace Histogram

variable {α β : Type}

@[simp] theorem sum_observe (h : Histogram α β) (sum : α) (holds : β → Bool) :
    (h.observe sum holds).sum = sum := rfl

theorem count_countIn {holds : β → Bool} {cells : List (β × Nat)}
    (hex : ∃ b ∈ cells.map Prod.fst, holds b = true) :
    (countIn holds cells).foldr (fun c n => c.2 + n) 0 =
      cells.foldr (fun c n => c.2 + n) 0 + 1 := by
  induction cells with
  | nil => simp at hex
  | cons c cells ih =>
    simp only [countIn]
    split
    · simp only [List.foldr_cons]
      omega
    · rename_i hc
      have hex' : ∃ b ∈ cells.map Prod.fst, holds b = true := by
        obtain ⟨b, hb, hholds⟩ := hex
        rcases List.mem_cons.1 hb with rfl | hb
        · exact absurd hholds hc
        · exact ⟨b, hb, hholds⟩
      simp only [List.foldr_cons, ih hex']
      omega

theorem count_observe {h : Histogram α β} {sum : α} {holds : β → Bool}
    (hex : ∃ b ∈ h.bounds, holds b = true) : (h.observe sum holds).count = h.count + 1 :=
  count_countIn hex

/-! ## Running totals -/

theorem totals_succ (k : Nat) (cells : List (β × Nat)) :
    totals (k + 1) cells = (totals k cells).map fun c => (c.1, c.2 + 1) := by
  induction cells generalizing k with
  | nil => rfl
  | cons c cells ih =>
    have hk : k + 1 + c.2 = k + c.2 + 1 := by omega
    simp only [totals, List.map_cons, hk, ih]

theorem bounds_totals (k : Nat) (cells : List (β × Nat)) :
    (totals k cells).map Prod.fst = cells.map Prod.fst := by
  induction cells generalizing k with
  | nil => rfl
  | cons c cells ih => simp only [totals, List.map_cons, ih]

theorem totals_countIn {holds : β → Bool} {cells : List (β × Nat)} (k : Nat)
    (hmono : (cells.map Prod.fst).Pairwise fun b b' => holds b = true → holds b' = true) :
    totals k (countIn holds cells) =
      (totals k cells).map fun c => (c.1, c.2 + if holds c.1 then 1 else 0) := by
  induction cells generalizing k with
  | nil => rfl
  | cons c cells ih =>
    have hrest := List.pairwise_cons.1 hmono
    simp only [countIn]
    split
    · rename_i hc
      -- from here on every bound holds the observation
      have hall : ∀ t ∈ totals (k + c.2) cells, holds t.1 = true := fun t ht => by
        have hmem := List.mem_map_of_mem (f := Prod.fst) ht
        rw [bounds_totals] at hmem
        exact hrest.1 _ hmem hc
      have hmap : (totals (k + c.2) cells).map (fun t => (t.1, t.2 + 1)) =
          (totals (k + c.2) cells).map fun t => (t.1, t.2 + if holds t.1 then 1 else 0) :=
        List.map_congr_left fun t ht => by rw [if_pos (hall t ht)]
      simp only [totals, ← Nat.add_assoc, totals_succ, hmap, List.map_cons, if_pos hc]
    · rename_i hc
      simp only [totals, List.map_cons, if_neg hc, Nat.add_zero, ih _ hrest.2]

theorem cumulative_observe {h : Histogram α β} {sum : α} {holds : β → Bool}
    (hmono : h.bounds.Pairwise fun b b' => holds b = true → holds b' = true) :
    (h.observe sum holds).cumulative =
      h.cumulative.map fun c => (c.1, c.2 + if holds c.1 then 1 else 0) :=
  totals_countIn 0 hmono

end Histogram
end Phrasebook
