import Phrasebook.Proofs.Key
import Phrasebook.Proofs.Spelling

/-!
# Phrasebook.Proofs.KeySpelling

Keys and the numbers they stand for.

Written keys are read back, so they keep numbers apart. A document may spell the number of a tier in
many more ways than keys are written; `canonical?` rewrites such a spelling as the written key, and
`keys_exact` says that this loses nothing but the spelling. The number behind a category, one further
on, has to be written too, which is why numbers are taken with one digit to spare.
-/

namespace Phrasebook

/-- The number has fewer digits than a numeral may have. -/
def Numeral.IsShort (n : Int) : Prop := (natural n.natAbs).length < maxDigits

instance (n : Int) : Decidable (Numeral.IsShort n) := inferInstanceAs (Decidable (_ < _))

theorem Numeral.IsShort.isWritable {n : Int} (h : IsShort n) : isWritable n = true := by
  rw [Numeral.isWritable, decide_eq_true_iff]
  exact Nat.le_of_lt h

namespace Key

/-- The key as it is written for the number of a tier that it spells. -/
def canonical? (key : String) : Option String :=
  (tierNumber? key).bind fun n => (ofTier n).toOption

/-- A key of a tier is any spelling of a number, and a `p`. -/
theorem tierNumber?_eq_some_iff_spells (key : String) (n : Int) :
    tierNumber? key = some n ↔ ∃ cs, key.toList = cs ++ ['p'] ∧ Numeral.Spells n cs := by
  simp only [tierNumber?_eq_some_iff, Spells, Numeral.read_eq_ok_iff]

theorem category_inj {m n : Int} (hm : Numeral.isWritable (m + 1) = true)
    (hn : Numeral.isWritable (n + 1) = true) (h : category m = category n) : m = n := by
  rw [category, category, String.ofList_inj] at h
  have hread := Numeral.read_padded hm
  rw [h, Numeral.read_padded hn, Except.ok.injEq] at hread
  omega

theorem canonical?_of_tierNumber? {key : String} {n : Int} (h : tierNumber? key = some n) :
    canonical? key = some (tier n) := by
  rw [canonical?, h, Option.bind_some, ofTier_of_tierNumber? h]
  rfl

/-- **Keys and numbers.** The keys of short numbers can be written, differ for different numbers,
and the key of a tier is read back. Every spelling of a number, behind which stands a `p`, has a
canonical key: it stands for the same number, is its own canonical key, and is that of exactly the
spellings of this number. -/
theorem keys_exact :
    (∀ n, Numeral.IsShort n → ofCategory n = .ok (category n) ∧ ofTier n = .ok (tier n) ∧
      tierNumber? (tier n) = some n) ∧
    (∀ m n, Numeral.IsShort m → Numeral.IsShort n →
      (category m = category n → m = n) ∧ (tier m = tier n → m = n)) ∧
    (∀ key n, tierNumber? key = some n ↔
      ∃ cs, key.toList = cs ++ ['p'] ∧ Numeral.Spells n cs) ∧
    (∀ key n, tierNumber? key = some n → ∃ c, canonical? key = some c ∧
      tierNumber? c = some n ∧ canonical? c = some c) ∧
    ∀ key key' n n', tierNumber? key = some n → tierNumber? key' = some n' →
      (canonical? key = canonical? key' ↔ n = n') := by
  refine ⟨?_, ?_, tierNumber?_eq_some_iff_spells, ?_, ?_⟩
  · intro n hn
    have hread := tierNumber?_tier hn.isWritable
    refine ⟨?_, ofTier_of_tierNumber? hread, hread⟩
    rw [ofCategory, if_pos (Numeral.isWritable_succ hn)]
  · intro m n hm hn
    exact ⟨category_inj (Numeral.isWritable_succ hm) (Numeral.isWritable_succ hn),
      (tier_inj hm.isWritable hn.isWritable).1⟩
  · intro key n h
    have hread := tierNumber?_tier (isWritable_of_tierNumber? h)
    exact ⟨tier n, canonical?_of_tierNumber? h, hread, canonical?_of_tierNumber? hread⟩
  · intro key key' n n' h h'
    rw [canonical?_of_tierNumber? h, canonical?_of_tierNumber? h', Option.some.injEq]
    exact tier_inj (isWritable_of_tierNumber? h) (isWritable_of_tierNumber? h')

/-- Thirty with a blank, a sign, a bar and digits of two scripts, and with a zero in front; and two
numbers around zero. -/
theorem keys_exact_thirty :
    tierNumber? "\u00A0+3_۰p" = some 30 ∧ canonical? "\u00A0+3_۰p" = canonical? "030p" ∧
    canonical? "030p" = some "30p" ∧ canonical? "30p" = some "30p" ∧
    ofTier (-7) = .ok "-7p" ∧ tierNumber? "-7p" = some (-7) ∧
    ofCategory (-1) = .ok "00" ∧ category (-1) ≠ category 0 := by
  obtain ⟨hwritten, hkept, hspelled, hcanonical, hsame⟩ := keys_exact
  have hblank : ∀ c ∈ ['\u00A0'], Blank.isNumeralBlank c = true :=
    List.forall_mem_singleton.2 (by decide +kernel)
  have hfigures : Numeral.Figures [3, 0] ['3', '_', '۰'] :=
    .bar (by decide +kernel) (.last (by decide +kernel))
  have hspells := Numeral.Spells.mk hblank .plus hfigures (by decide +kernel)
    (List.forall_mem_nil _)
  have hthirty : tierNumber? "\u00A0+3_۰p" = some 30 := (hspelled _ _).2 ⟨_, rfl, hspells⟩
  have hpadded : tierNumber? "030p" = some 30 := by decide +kernel
  have hvalue : canonical? "030p" = some "30p" := by decide +kernel
  obtain ⟨c, hc, -, hstays⟩ := hcanonical _ _ hpadded
  obtain rfl : c = "30p" := Option.some.inj (hc.symm.trans hvalue)
  have hseven : tier (-7) = "-7p" := by decide +kernel
  have hzero : category (-1) = "00" := by decide +kernel
  obtain ⟨-, htier, hread⟩ := hwritten (-7) (by decide +kernel)
  obtain ⟨hcategory, -, -⟩ := hwritten (-1) (by decide +kernel)
  obtain ⟨hapart, -⟩ := hkept (-1) 0 (by decide +kernel) (by decide +kernel)
  rw [hseven] at htier hread
  rw [hzero] at hcategory
  exact ⟨hthirty, (hsame _ _ _ _ hthirty hpadded).2 rfl, hvalue, hstays, htier, hread, hcategory,
    fun h => absurd (hapart h) (by decide)⟩

end Key

end Phrasebook
