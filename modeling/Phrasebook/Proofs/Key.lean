import Phrasebook.Bank.Key
import Phrasebook.Proofs.Numeral

/-!
# Phrasebook.Proofs.Key

The key of a tier names its number: it is read back from the key, so two tiers have one key only if
they are one tier. Every number that is read from a key, however it is spelled, can be written.
-/

namespace Phrasebook

namespace Key

/-- The key spells the number, in front of a `p`. -/
def Spells (key : String) (n : Int) : Prop :=
  ∃ cs, key.toList = cs ++ ['p'] ∧ Numeral.read cs = .ok n

/-- The key spells some number. -/
def IsTier (key : String) : Prop := ∃ n, Spells key n

theorem tierNumber?_eq_some_iff (key : String) (n : Int) :
    tierNumber? key = some n ↔ Spells key n := by
  rw [tierNumber?]
  constructor
  · intro h
    split at h
    · rename_i hp
      obtain ⟨cs, hcs⟩ := List.getLast?_eq_some_iff.1 hp
      refine ⟨cs, hcs, ?_⟩
      rw [hcs, List.dropLast_concat] at h
      cases hr : Numeral.read cs with
      | error e => rw [hr] at h; cases h
      | ok m => rw [hr] at h; cases h; rfl
    · cases h
  · intro h
    obtain ⟨cs, hcs, hr⟩ := h
    rw [hcs, if_pos List.getLast?_concat, List.dropLast_concat, hr]
    rfl

theorem tierNumber?_tier {n : Int} (h : Numeral.isWritable n = true) :
    tierNumber? (tier n) = some n := by
  rw [tierNumber?_eq_some_iff]
  exact ⟨Numeral.padded n, by rw [tier, String.toList_ofList], Numeral.read_padded h⟩

theorem isWritable_of_tierNumber? {key : String} {n : Int} (h : tierNumber? key = some n) :
    Numeral.isWritable n = true := by
  obtain ⟨cs, -, hr⟩ := (tierNumber?_eq_some_iff key n).1 h
  exact Numeral.isWritable_of_read hr

/-- The number of a tier that was read can be written. -/
theorem ofTier_of_tierNumber? {key : String} {n : Int} (h : tierNumber? key = some n) :
    ofTier n = .ok (tier n) := by
  rw [ofTier, if_pos (isWritable_of_tierNumber? h)]

theorem tier_inj {m n : Int} (hm : Numeral.isWritable m = true) (hn : Numeral.isWritable n = true) :
    tier m = tier n ↔ m = n := by
  constructor
  · intro h
    have e := tierNumber?_tier hm
    rw [h, tierNumber?_tier hn, Option.some.injEq] at e
    exact e.symm
  · rintro rfl
    rfl

end Key

end Phrasebook
