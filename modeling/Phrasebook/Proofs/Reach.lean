import Phrasebook.Proofs.Size

/-!
# Phrasebook.Proofs.Reach

Which entries of a bank can be looked up.

The key of a tier is read and written anew, but the key of a category is kept as the document spells
it, while every look-up asks for it as it is written. So an entry is within reach exactly if the key
of its category is spelled as the number is written that it is read as (`Key.IsCategory`), and all
entries are exactly if the document spells all its categories so (`reaches_iff`).
-/

namespace Phrasebook

namespace Key

/-- The key is spelled as the number is written that it is read as. -/
def IsCategory (key : String) : Prop :=
  ∃ n, Numeral.read key.toList = .ok n ∧ key.toList = Numeral.padded n

/-- These are the keys of categories, as far as they can be written. -/
theorem isCategory_iff (key : String) :
    IsCategory key ↔ ∃ i, Numeral.isWritable (i + 1) = true ∧ key = category i := by
  constructor
  · rintro ⟨n, hread, hkey⟩
    refine ⟨n - 1, ?_, ?_⟩
    · rw [Int.sub_add_cancel]
      exact Numeral.isWritable_of_read hread
    · rw [category, Int.sub_add_cancel, ← hkey, String.ofList_toList]
  · rintro ⟨i, hi, rfl⟩
    refine ⟨i + 1, ?_, ?_⟩
    · rw [category, String.toList_ofList]
      exact Numeral.read_padded hi
    · rw [category, String.toList_ofList]

/-- A key of one character is no key of a category. -/
theorem category_ne_singleton (i : Int) (c : Char) : category i ≠ String.ofList [c] := by
  intro h
  have hpadded : Numeral.padded (i + 1) = [c] := by
    rw [category, String.ofList_inj] at h
    exact h
  rw [Numeral.padded] at hpadded
  split at hpadded
  · cases hpadded
  · rename_i hsingle
    exact hsingle c hpadded

end Key

namespace Bank

/-- The tiers that are a bank's own: its numbers in a tiered bank, none in a flat one. -/
def ownTiers (b : Bank) : List (Option Int) :=
  if b.isTiered then b.tierNumbers.map some else [none]

/-- Some look-up by a category and one of the bank's own tiers returns the entry. -/
def Reaches (b : Bank) (e : Key × List Value) : Prop :=
  ∃ i : Int, ∃ t ∈ b.ownTiers, b.lookup (.int i) (tierArgument t) = .ok ⟨e.1, some e.2⟩

theorem isWritable_of_mem_ownTiers {b : Bank} {t : Option Int} (h : t ∈ b.ownTiers) :
    ∀ n ∈ t, Numeral.isWritable n = true := by
  intro n hn
  rw [ownTiers] at h
  split at h
  · obtain ⟨m, hm, rfl⟩ := List.mem_map.1 h
    cases hn
    exact isWritable_of_mem_tierNumbers hm
  · rw [List.mem_singleton.1 h] at hn
    cases hn

/-- A look-up by an own tier asks for the slot of the tier and the category. -/
theorem lookup_ownTier (c : Contents) (labels : List String) {t : Option Int}
    (ht : t ∈ (c.bank labels).ownTiers) (i : Int) :
    (c.bank labels).lookup (.int i) (tierArgument t) =
      if Numeral.isWritable (i + 1) then
        .ok ⟨Slot.key ⟨t, Key.category i⟩, (c.bank labels).list? (Slot.key ⟨t, Key.category i⟩)⟩
      else .error .longNumber := by
  have hwritable := isWritable_of_mem_ownTiers ht
  cases c with
  | flat sheet =>
    obtain rfl := List.mem_singleton.1 ht
    exact lookup_flat sheet labels i _
  | tiered ts hne =>
    obtain ⟨n, -, rfl⟩ := List.mem_map.1 ht
    have hlookup := lookup_tiered ts hne labels i (t := some n) (n := n) rfl
    rw [hwritable n rfl, Bool.true_and] at hlookup
    exact hlookup

end Bank

namespace Contents

theorem mem_keys_entries_iff (c : Contents) (labels : List String) (key : Key) :
    key ∈ Pairs.keys (c.bank labels).entries ↔ ∃ l ∈ c.lists, l.1.key = key := by
  rw [entries_bank, Pairs.mem_keys_merge, Pairs.keys, entries, List.map_map, List.mem_map]
  rfl

/-- Every entry of the bank comes from a list of the contents. -/
theorem exists_list_of_mem_entries {c : Contents} {labels : List String} {e : Key × List Value}
    (h : e ∈ (c.bank labels).entries) : ∃ l ∈ c.lists, l.1.key = e.1 :=
  (mem_keys_entries_iff c labels e.1).1 (List.mem_map_of_mem h)

theorem exists_entry_of_mem_lists {c : Contents} (labels : List String)
    {l : Slot × List String} (h : l ∈ c.lists) :
    ∃ e ∈ (c.bank labels).entries, e.1 = l.1.key :=
  List.mem_map.1 ((mem_keys_entries_iff c labels l.1.key).2 ⟨l, h, rfl⟩)

theorem list?_of_mem_entries {c : Contents} {labels : List String} {e : Key × List Value}
    (h : e ∈ (c.bank labels).entries) : (c.bank labels).list? e.1 = some e.2 := by
  have hnodup : (Pairs.keys (c.bank labels).entries).Nodup := by
    rw [entries_bank]
    exact Pairs.nodup_keys_merge _
  exact Pairs.at?_of_mem hnodup h

/-- The tier of a list is one of the bank's own. -/
theorem tier_mem_ownTiers {c : Contents} (labels : List String) {l : Slot × List String}
    (h : l ∈ c.lists) : l.1.tier ∈ (c.bank labels).ownTiers := by
  have hwritable := isWritable_of_mem_lists h
  obtain ⟨e, he, hkey⟩ := exists_entry_of_mem_lists labels h
  cases c with
  | flat sheet =>
    obtain ⟨_, -, rfl⟩ := List.mem_map.1 h
    exact List.mem_singleton_self _
  | tiered ts hne =>
    obtain ⟨t, -, ht⟩ := List.mem_flatMap.1 h
    obtain ⟨c, -, rfl⟩ := List.mem_map.1 ht
    have htiered : ((tiered ts hne).bank labels).isTiered = true := rfl
    have hhead : e.1.head?.bind Key.tierNumber? = some t.number := by
      rw [hkey]
      exact Key.tierNumber?_tier (hwritable t.number rfl)
    refine List.mem_map_of_mem ?_
    rw [Bank.tierNumbers, if_pos htiered, Bank.mem_foldr_insertAscending]
    exact List.mem_filterMap.2 ⟨e, he, hhead⟩

/-- An entry is within reach exactly if its category is spelled as it is written. -/
theorem reaches_iff_of_key {c : Contents} {labels : List String} {e : Key × List Value}
    (he : e ∈ (c.bank labels).entries) {l : Slot × List String} (hl : l ∈ c.lists)
    (hkey : e.1 = l.1.key) : (c.bank labels).Reaches e ↔ Key.IsCategory l.1.category := by
  have hown := tier_mem_ownTiers labels hl
  rw [Key.isCategory_iff]
  constructor
  · rintro ⟨i, t, ht, hlookup⟩
    rw [Bank.lookup_ownTier c labels ht] at hlookup
    split at hlookup
    · rename_i hi
      have hslot : Slot.key ⟨t, Key.category i⟩ = l.1.key := by
        rw [← hkey]
        exact congrArg Bank.Lookup.key (Except.ok.inj hlookup)
      have hslots := (Slot.key_inj (Bank.isWritable_of_mem_ownTiers ht)
        (isWritable_of_mem_lists hl)).1 hslot
      exact ⟨i, hi, (congrArg Slot.category hslots).symm⟩
    · cases hlookup
  · rintro ⟨i, hi, hcategory⟩
    refine ⟨i, l.1.tier, hown, ?_⟩
    rw [Bank.lookup_ownTier c labels hown, if_pos hi, ← hcategory, ← hkey, list?_of_mem_entries he]

end Contents

namespace Bank

/-- **Which entries are within reach.** Every entry of the bank of a document belongs to a list of the
document, in one of the bank's own tiers; it is within reach exactly if the category of that list is
spelled as it is written, and all entries are exactly if all categories are. -/
theorem reaches_iff {document : Value} {labels : List String} {b : Bank}
    (h : ofDocument document labels = .ok b) :
    ∃ ms, document = .object ms ∧ b.tiers = .ok b.tierNumbers ∧
      (∀ e ∈ b.entries, ∃ l ∈ Document.lists ms, e.1 = l.1.key ∧ l.1.tier ∈ b.ownTiers ∧
        (b.Reaches e ↔ Key.IsCategory l.1.category)) ∧
      ((∀ e ∈ b.entries, b.Reaches e) ↔
        ∀ l ∈ Document.lists ms, Key.IsCategory l.1.category) := by
  obtain ⟨c, rfl, rfl⟩ := (ofDocument_eq_ok_iff document labels b).1 h
  refine ⟨c.members, rfl, tiers_bank c labels, ?_⟩
  rw [Contents.lists_members]
  refine ⟨?_, ?_, ?_⟩
  · intro e he
    obtain ⟨l, hl, hkey⟩ := Contents.exists_list_of_mem_entries he
    exact ⟨l, hl, hkey.symm, Contents.tier_mem_ownTiers labels hl,
      Contents.reaches_iff_of_key he hl hkey.symm⟩
  · intro hall l hl
    obtain ⟨e, he, hkey⟩ := Contents.exists_entry_of_mem_lists labels hl
    exact (Contents.reaches_iff_of_key he hl hkey).1 (hall e he)
  · intro hall e he
    obtain ⟨l, hl, hkey⟩ := Contents.exists_list_of_mem_entries he
    exact (Contents.reaches_iff_of_key he hl hkey.symm).2 (hall l hl)

/-- The tier is spelled in a way of its own, the category as it is written. -/
theorem reaches_iff_spelledTier : ∃ b,
    ofDocument (.object [spelledTier.member]) [] = .ok b ∧
    Pairs.keys b.entries = [["03p", "01"]] ∧ ∀ e ∈ b.entries, b.Reaches e := by
  have hb : ofDocument (.object [spelledTier.member]) [] =
      .ok ((Contents.tiered [spelledTier] (by simp)).bank []) :=
    (ofDocument_eq_ok_iff _ _ _).2 ⟨_, rfl, rfl⟩
  obtain ⟨ms, hms, -, -, hall⟩ := reaches_iff hb
  cases hms
  refine ⟨_, hb, by decide +kernel, hall.2 ?_⟩
  have hlists : Document.lists [spelledTier.member] = [(⟨some 3, "01"⟩, ["ساعت ۱۲"])] :=
    Contents.lists_members (.tiered [spelledTier] (by simp))
  have hone : Key.IsCategory "01" := (Key.isCategory_iff "01").2 ⟨0, by decide, by decide⟩
  simpa [hlists] using hone

/-- The one phrase of this bank is in no look-up: its category is spelled in one character. -/
theorem lookup_short_category : ∃ b,
    ofDocument (.object [("3p", .object [("1", .ofTexts ["a"])])]) [] = .ok b ∧
    b.entries = [(["03p", "1"], [.text "a"])] ∧ b.size = 1 ∧
    ∀ (i : Int) (t : Option Int) (l : Lookup),
      b.lookup (.int i) (tierArgument t) = .ok l → l.phrases = [] := by
  have hb : ofDocument (.object [("3p", .object [("1", .ofTexts ["a"])])]) [] =
      .ok ((Contents.tiered [⟨"3p", 3, [("1", ["a"])], by decide +kernel⟩] (by simp)).bank []) :=
    (ofDocument_eq_ok_iff _ _ _).2 ⟨_, rfl, rfl⟩
  have hentries : ((Contents.tiered [⟨"3p", 3, [("1", ["a"])], by decide +kernel⟩]
      (by simp)).bank []).entries = [(["03p", "1"], [.text "a"])] := rfl
  refine ⟨_, hb, hentries, by decide +kernel, ?_⟩
  intro i t l hl
  rw [lookup_tiered _ _ _ i (t := t) rfl] at hl
  split at hl
  · cases hl
    have hne : Key.category i ≠ "1" := Key.category_ne_singleton i '1'
    rw [Lookup.phrases, list?, hentries, Pairs.at?_cons]
    simp [Ne.symm hne]
  · cases hl

end Bank

end Phrasebook
