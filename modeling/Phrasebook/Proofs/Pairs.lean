import Mathlib
import Phrasebook.Pairs

/-!
# Phrasebook.Proofs.Pairs

What is left when pairs are put one after another.

Under each key the last pair wins (`at?_merge`). What is left has distinct keys, so each of its pairs
is found (`at?_of_mem`), in whatever order they are (`at?_perm`). A pair that is overtaken is lost with
all it weighs: `weight_merge_le` says that merging never gains weight, and `weight_merge_eq_iff` that
it loses none exactly if every pair with a later one under its key weighs nothing.
-/

namespace Phrasebook

namespace Pairs

variable {κ α : Type} [DecidableEq κ]

/-- The value of the last pair under a key. -/
def last? (ps : Pairs κ α) (key : κ) : Option α := at? ps.reverse key

@[simp] theorem last?_nil (key : κ) : last? ([] : Pairs κ α) key = none := rfl

theorem isSome_at?_iff (ps : Pairs κ α) (key : κ) :
    (at? ps key).isSome = true ↔ key ∈ keys ps := by
  induction ps with
  | nil => simp
  | cons p ps ih =>
    rw [at?_cons]
    by_cases h : p.1 = key
    · simp [h]
    · simp [h, ih, Ne.symm h]

theorem at?_append (ps qs : Pairs κ α) (key : κ) :
    at? (ps ++ qs) key = (at? ps key).or (at? qs key) := by
  induction ps with
  | nil => simp
  | cons p ps ih =>
    rw [List.cons_append, at?_cons, at?_cons, ih]
    split <;> rfl

theorem last?_append (ps qs : Pairs κ α) (key : κ) :
    last? (ps ++ qs) key = (last? qs key).or (last? ps key) := by
  rw [last?, List.reverse_append, at?_append]
  rfl

theorem last?_concat (ps : Pairs κ α) (p : κ × α) (key : κ) :
    last? (ps ++ [p]) key = if p.1 = key then some p.2 else last? ps key := by
  have h : last? [p] key = if p.1 = key then some p.2 else none := at?_cons p [] key
  rw [last?_append, h]
  split <;> simp

theorem last?_flatMap {β : Type} (l : List β) (f : β → Pairs κ α) (key : κ) :
    last? (l.flatMap f) key = l.reverse.findSome? fun b => last? (f b) key := by
  induction l with
  | nil => rfl
  | cons b l ih =>
    rw [List.flatMap_cons, last?_append, ih, List.reverse_cons, List.findSome?_append]
    simp

theorem mem_of_last? {ps : Pairs κ α} {key : κ} {v : α} (h : last? ps key = some v) :
    (key, v) ∈ ps := by
  obtain ⟨p, hp, rfl⟩ := Option.map_eq_some_iff.1 h
  have hkey : p.1 = key := by simpa using List.find?_some hp
  have hmem := List.mem_of_find?_eq_some hp
  rw [← hkey]
  simpa using hmem

theorem last?_eq_none {ps : Pairs κ α} {key : κ} (h : ∀ p ∈ ps, p.1 ≠ key) :
    last? ps key = none := by
  rw [last?, at?, Option.map_eq_none_iff, List.find?_eq_none]
  intro p hp
  simpa using h p (List.mem_reverse.1 hp)

/-- Pairs moved to other keys, where no two keys meet. -/
theorem last?_map {κ' β : Type} [DecidableEq κ'] (place : κ → κ')
    (hplace : ∀ a b, place a = place b → a = b) (f : α → β) (ps : Pairs κ α) (key : κ) :
    last? (ps.map fun p => (place p.1, f p.2)) (place key) = (last? ps key).map f := by
  induction ps using List.reverseRecOn with
  | nil => rfl
  | append_singleton ps p ih =>
    rw [List.map_append, List.map_singleton, last?_concat, last?_concat, ih]
    by_cases h : p.1 = key
    · simp [h]
    · have : place p.1 ≠ place key := fun e => h (hplace _ _ e)
      simp [h, this]

theorem merge_concat (old new : Pairs κ α) (p : κ × α) :
    merge old (new ++ [p]) = put p.1 p.2 (merge old new) := by
  simp [merge]

theorem at?_merge_of_notMem (old : Pairs κ α) {new : Pairs κ α} {key : κ} (h : key ∉ keys new) :
    at? (merge old new) key = at? old key := by
  induction new using List.reverseRecOn with
  | nil => rfl
  | append_singleton new p ih =>
    rw [keys, List.map_append, List.mem_append, List.map_singleton, List.mem_singleton,
      not_or] at h
    rw [merge_concat, at?_put, if_neg (Ne.symm h.2), ih h.1]

theorem at?_merge (new : Pairs κ α) (key : κ) : at? (merge [] new) key = last? new key := by
  -- Merging puts the last pair last, so the induction takes pairs off the end.
  induction new using List.reverseRecOn with
  | nil => rfl
  | append_singleton new p ih => rw [merge_concat, at?_put, last?_concat, ih]

theorem mem_keys_merge (new : Pairs κ α) (key : κ) :
    key ∈ keys (merge [] new) ↔ key ∈ keys new := by
  induction new using List.reverseRecOn with
  | nil => rfl
  | append_singleton new p ih =>
    rw [merge_concat, mem_keys_put, ih]
    simp [keys, or_comm, eq_comm]

theorem exists_last?_of_mem {ps : Pairs κ α} {p : κ × α} (h : p ∈ ps) :
    ∃ v, last? ps p.1 = some v := by
  cases hlast : last? ps p.1 with
  | some v => exact ⟨v, rfl⟩
  | none =>
    rw [last?, at?, Option.map_eq_none_iff, List.find?_eq_none] at hlast
    exact absurd (decide_eq_true rfl) (hlast p (List.mem_reverse.2 h))

/-- Every pair is found again exactly if the pairs under one key have one value. -/
theorem at?_merge_of_mem_iff (new : Pairs κ α) :
    (∀ p ∈ new, at? (merge [] new) p.1 = some p.2) ↔
      ∀ p ∈ new, ∀ q ∈ new, p.1 = q.1 → p.2 = q.2 := by
  simp only [at?_merge]
  constructor
  · intro h p hp q hq hkey
    have hlast := h p hp
    rw [hkey, h q hq, Option.some.injEq] at hlast
    exact hlast.symm
  · intro h p hp
    obtain ⟨v, hv⟩ := exists_last?_of_mem hp
    rw [hv, h p hp (p.1, v) (mem_of_last? hv) rfl]

/-! ## Distinct keys -/

theorem put_of_not_mem {ps : Pairs κ α} {key : κ} (h : key ∉ keys ps) (v : α) :
    put key v ps = ps ++ [(key, v)] := by
  induction ps with
  | nil => rfl
  | cons p ps ih =>
    rw [keys_cons, List.mem_cons, not_or] at h
    rw [put, if_neg (Ne.symm h.1), ih h.2, List.cons_append]

/-- New pairs, each under a key of its own, come behind the old ones. -/
theorem merge_of_nodup {ps qs : Pairs κ α} (h : (keys (ps ++ qs)).Nodup) :
    merge ps qs = ps ++ qs := by
  induction qs using List.reverseRecOn with
  | nil => exact (List.append_nil ps).symm
  | append_singleton qs q ih =>
    have hsplit : (keys (ps ++ qs) ++ [q.1]).Nodup := by simpa [keys] using h
    obtain ⟨hqs, -, hq⟩ := List.nodup_append.1 hsplit
    have hnew : q.1 ∉ keys (ps ++ qs) := fun hmem => hq q.1 hmem q.1 List.mem_cons_self rfl
    rw [merge_concat, ih hqs, put_of_not_mem hnew, List.append_assoc]

theorem nodup_keys_merge (new : Pairs κ α) : (keys (merge [] new)).Nodup := by
  induction new using List.reverseRecOn with
  | nil => exact List.nodup_nil
  | append_singleton new p ih =>
    rw [merge_concat]
    exact nodup_keys_put p.1 p.2 ih

theorem at?_of_mem {ps : Pairs κ α} (hps : (keys ps).Nodup) {p : κ × α} (hp : p ∈ ps) :
    at? ps p.1 = some p.2 := by
  induction ps with
  | nil => cases hp
  | cons q ps ih =>
    rw [keys_cons, List.nodup_cons] at hps
    rw [at?_cons]
    rcases List.mem_cons.1 hp with rfl | hp
    · exact if_pos rfl
    · have hne : q.1 ≠ p.1 := fun h => hps.1 (h ▸ List.mem_map_of_mem hp)
      rw [if_neg hne, ih hps.2 hp]

/-- Where no two pairs have one key, their order is of no matter. -/
theorem at?_perm {ps qs : Pairs κ α} (h : ps.Perm qs) (hps : (keys ps).Nodup) (key : κ) :
    at? ps key = at? qs key := by
  induction h with
  | nil => rfl
  | cons p _ ih =>
    rw [keys_cons, List.nodup_cons] at hps
    rw [at?_cons, at?_cons, ih hps.2]
  | swap p q ps =>
    rw [keys_cons, keys_cons, List.nodup_cons, List.mem_cons, not_or] at hps
    have hne : q.1 ≠ p.1 := hps.1.1
    simp only [at?_cons]
    split
    · rename_i hq
      rw [if_neg fun hp => hne (hq.trans hp.symm)]
    · rfl
  | trans h _ ih ih' =>
    rw [ih hps, ih' ((h.map Prod.fst).nodup_iff.1 hps)]

/-! ## Weight -/

/-- What the values weigh together. -/
def weight (w : α → Nat) (ps : Pairs κ α) : Nat := (ps.map fun p => w p.2).sum

theorem weight_put (w : α → Nat) (key : κ) (v : α) (ps : Pairs κ α) :
    weight w (put key v ps) + ((at? ps key).map w).getD 0 = weight w ps + w v := by
  induction ps with
  | nil => simp [put, weight]
  | cons p ps ih =>
    simp only [weight] at ih ⊢
    by_cases h : p.1 = key
    · simp [put, at?_cons, h]
      omega
    · simp [put, at?_cons, h]
      omega

theorem weight_merge_concat (w : α → Nat) (new : Pairs κ α) (p : κ × α) :
    weight w (merge [] (new ++ [p])) + ((last? new p.1).map w).getD 0 =
      weight w (merge [] new) + w p.2 := by
  rw [merge_concat, ← at?_merge]
  exact weight_put w p.1 p.2 (merge [] new)

omit [DecidableEq κ] in
theorem weight_concat (w : α → Nat) (ps : Pairs κ α) (p : κ × α) :
    weight w (ps ++ [p]) = weight w ps + w p.2 := by
  simp [weight]

theorem weight_merge_le (w : α → Nat) (new : Pairs κ α) :
    weight w (merge [] new) ≤ weight w new := by
  induction new using List.reverseRecOn with
  | nil => exact Nat.le_refl _
  | append_singleton new p ih =>
    have h := weight_merge_concat w new p
    rw [weight_concat]
    omega

/-- Every pair with a later one under its key weighs nothing. -/
def NothingOvertaken (w : α → Nat) (ps : Pairs κ α) : Prop :=
  ps.Pairwise fun p q => p.1 = q.1 → w p.2 = 0

/-- Where nothing is overtaken, the last pair under a key tells of all of them. -/
theorem weight_last?_eq_zero_iff {w : α → Nat} {ps : Pairs κ α} (h : NothingOvertaken w ps)
    (key : κ) : ((last? ps key).map w).getD 0 = 0 ↔ ∀ p ∈ ps, p.1 = key → w p.2 = 0 := by
  induction ps using List.reverseRecOn with
  | nil => simp
  | append_singleton ps q ih =>
    obtain ⟨hps, -, hq⟩ := List.pairwise_append.1 h
    rw [last?_concat]
    split
    · rename_i hkey
      constructor
      · intro hw p hp hpk
        rcases List.mem_append.1 hp with hp | hp
        · exact hq p hp q List.mem_cons_self (hpk.trans hkey.symm)
        · obtain rfl := List.mem_singleton.1 hp
          exact hw
      · intro hall
        exact hall q (by simp) hkey
    · rename_i hkey
      rw [ih hps]
      constructor
      · intro hall p hp hpk
        rcases List.mem_append.1 hp with hp | hp
        · exact hall p hp hpk
        · obtain rfl := List.mem_singleton.1 hp
          exact absurd hpk hkey
      · intro hall p hp
        exact hall p (List.mem_append_left _ hp)

theorem weight_merge_eq_iff (w : α → Nat) (new : Pairs κ α) :
    weight w (merge [] new) = weight w new ↔ NothingOvertaken w new := by
  induction new using List.reverseRecOn with
  | nil => simp [NothingOvertaken, merge, weight]
  | append_singleton new p ih =>
    have hput := weight_merge_concat w new p
    have hle := weight_merge_le w new
    have hsplit : NothingOvertaken w (new ++ [p]) ↔
        NothingOvertaken w new ∧ ∀ q ∈ new, q.1 = p.1 → w q.2 = 0 := by
      simp [NothingOvertaken, List.pairwise_append]
    rw [hsplit, weight_concat]
    constructor
    · intro h
      have hnew : NothingOvertaken w new := ih.1 (by omega)
      exact ⟨hnew, (weight_last?_eq_zero_iff hnew p.1).1 (by omega)⟩
    · intro h
      obtain ⟨hnew, hlast⟩ := h
      have heq := ih.2 hnew
      have hzero := (weight_last?_eq_zero_iff hnew p.1).2 hlast
      omega

end Pairs

end Phrasebook
