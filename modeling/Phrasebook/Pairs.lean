/-!
# Phrasebook.Pairs

Keys with values, in the order in which the keys first came.

`put` is the one way pairs are added: a key that is already there keeps its place and takes the new
value, so pairs made by `put` alone hold each key once (`nodup_keys_put`).
-/

namespace Phrasebook

/-- Keys with values, in order. -/
abbrev Pairs (κ : Type) (α : Type) := List (κ × α)

namespace Pairs

variable {κ α : Type}

/-- The keys, in order. -/
def keys (ps : Pairs κ α) : List κ := ps.map Prod.fst

@[simp] theorem keys_nil : keys ([] : Pairs κ α) = [] := rfl

@[simp] theorem keys_cons (p : κ × α) (ps : Pairs κ α) : keys (p :: ps) = p.1 :: keys ps := rfl

variable [DecidableEq κ]

/-- The value under a key. -/
def at? (ps : Pairs κ α) (key : κ) : Option α :=
  (ps.find? fun p => p.1 = key).map Prod.snd

/-- A new key goes to the end; a known key keeps its place and takes the new value. -/
def put (key : κ) (v : α) : Pairs κ α → Pairs κ α
  | [] => [(key, v)]
  | p :: ps => if p.1 = key then (key, v) :: ps else p :: put key v ps

/-- Puts pairs into others, one after another. -/
def merge (old new : Pairs κ α) : Pairs κ α :=
  new.foldl (fun ps p => put p.1 p.2 ps) old

@[simp] theorem at?_nil (key : κ) : at? ([] : Pairs κ α) key = none := rfl

theorem at?_cons (p : κ × α) (ps : Pairs κ α) (key : κ) :
    at? (p :: ps) key = if p.1 = key then some p.2 else at? ps key := by
  by_cases h : p.1 = key <;> simp [at?, h]

theorem at?_put (key k : κ) (v : α) (ps : Pairs κ α) :
    at? (put key v ps) k = if key = k then some v else at? ps k := by
  induction ps with
  | nil => simp [put, at?_cons]
  | cons p ps ih =>
    by_cases h : p.1 = key
    · subst h
      by_cases hk : p.1 = k <;> simp [put, at?_cons, hk]
    · by_cases hk : p.1 = k
      · have : key ≠ k := fun e => h (hk.trans e.symm)
        rw [put, if_neg h, at?_cons, if_pos hk, if_neg this, at?_cons, if_pos hk]
      · simp [put, at?_cons, h, hk, ih]

theorem mem_keys_put (key k : κ) (v : α) (ps : Pairs κ α) :
    k ∈ keys (put key v ps) ↔ k = key ∨ k ∈ keys ps := by
  induction ps with
  | nil => simp [put]
  | cons p ps ih =>
    by_cases h : p.1 = key
    · simp [put, h]
    · simp only [put, h, if_false, keys_cons, List.mem_cons, ih]
      grind

theorem nodup_keys_put (key : κ) (v : α) {ps : Pairs κ α} (h : (keys ps).Nodup) :
    (keys (put key v ps)).Nodup := by
  induction ps with
  | nil => simp [put]
  | cons p ps ih =>
    have h' : p.1 ∉ keys ps ∧ (keys ps).Nodup := by simpa using h
    by_cases hk : p.1 = key
    · subst hk
      simpa [put] using h
    · simp only [put, hk, if_false, keys_cons, List.nodup_cons, mem_keys_put]
      exact ⟨fun h1 => h1.elim id h'.1, ih h'.2⟩

end Pairs

end Phrasebook
