import Phrasebook.Proofs.Lookup

/-!
# Phrasebook.Proofs.Size

How much of a document is left in its bank.

Every list of a document has a slot: its category and, in a tiered document, the number that the key
of its tier is read as (`Document.lists`). A bank has one entry for a slot, and the last list of the
document for it takes the entry. Two keys may be read as one number, so two lists may have one slot;
`size_eq_total_iff` says when phrases are lost that way.
-/

namespace Phrasebook

/-- Where a list of phrases belongs. -/
structure Slot where
  tier : Option Int
  category : String
  deriving DecidableEq

namespace Slot

/-- The key of the entry for a slot. -/
def key (p : Slot) : Key :=
  match p.tier with
  | none => [p.category]
  | some n => [Key.tier n, p.category]

theorem key_inj {p q : Slot} (hp : ∀ n ∈ p.tier, Numeral.isWritable n = true)
    (hq : ∀ n ∈ q.tier, Numeral.isWritable n = true) : p.key = q.key ↔ p = q := by
  constructor
  · intro h
    obtain ⟨t, c⟩ := p
    obtain ⟨u, d⟩ := q
    cases t with
    | none =>
      cases u with
      | none =>
        simp only [key, List.cons.injEq, and_true] at h
        rw [h]
      | some n => simp [key] at h
    | some m =>
      cases u with
      | none => simp [key] at h
      | some n =>
        simp only [key, List.cons.injEq, and_true] at h
        rw [(Key.tier_inj (hp m rfl) (hq n rfl)).1 h.1, h.2]
  · rintro rfl
    rfl

end Slot

namespace Document

/-- The texts in an array. -/
def strings : Value → List String
  | .array vs => vs.filterMap Value.text?
  | _ => []

/-- The lists of phrases in the order of the document, each with its slot. -/
def lists (ms : Members Value) : List (Slot × List String) :=
  if isTiered ms then
    ms.flatMap fun m =>
      match m.2 with
      | .object cs => cs.map fun c => (⟨Key.tierNumber? m.1, c.1⟩, strings c.2)
      | _ => []
  else ms.map fun c => (⟨none, c.1⟩, strings c.2)

/-- How many texts there are in the lists of a document. -/
def total (ms : Members Value) : Nat := ((lists ms).map fun l => l.2.length).sum

theorem strings_ofTexts (ss : List String) : strings (.ofTexts ss) = ss := by
  simp only [Value.ofTexts, strings, List.filterMap_map]
  exact List.filterMap_some

end Document

namespace Contents

/-- The lists of the contents, each with its slot. -/
def lists : Contents → List (Slot × List String)
  | flat sheet => sheet.map fun c => (⟨none, c.1⟩, c.2)
  | tiered ts _ => ts.flatMap fun t => t.sheet.map fun c => (⟨some t.number, c.1⟩, c.2)

theorem lists_members (c : Contents) : Document.lists c.members = c.lists := by
  rw [Document.lists, Document.isTiered_members]
  cases c with
  | flat sheet =>
    simp [isTiered, members, Sheet.members, lists, Document.strings_ofTexts]
  | tiered ts hne =>
    simp [isTiered, members, TierSheet.member, Sheet.members, lists, Document.strings_ofTexts,
      List.flatMap_map, TierSheet.reads, Function.comp_def]

theorem isWritable_of_mem_lists {c : Contents} {l : Slot × List String} (h : l ∈ c.lists) :
    ∀ n ∈ l.1.tier, Numeral.isWritable n = true := by
  intro n hn
  cases c with
  | flat sheet =>
    obtain ⟨_, -, rfl⟩ := List.mem_map.1 h
    cases hn
  | tiered ts hne =>
    obtain ⟨t, -, ht⟩ := List.mem_flatMap.1 h
    obtain ⟨_, -, rfl⟩ := List.mem_map.1 ht
    cases hn
    exact Key.isWritable_of_tierNumber? t.reads

/-- Two lists have one key only if they have one slot. -/
theorem key_eq_iff_of_mem_lists {c : Contents} {l l' : Slot × List String} (h : l ∈ c.lists)
    (h' : l' ∈ c.lists) : l.1.key = l'.1.key ↔ l.1 = l'.1 :=
  Slot.key_inj (isWritable_of_mem_lists h) (isWritable_of_mem_lists h')

/-- The entries that the lists are put in as. -/
def entries (c : Contents) : Pairs Key (List Value) := c.lists.map fun l => (l.1.key, held l.2)

theorem entries_bank (c : Contents) (labels : List String) :
    (c.bank labels).entries = Pairs.merge [] c.entries := by
  have hlistings : c.listings.map (fun l => (l.1, l.2.map Value.text)) = c.entries := by
    cases c with
    | flat sheet => simp [listings, Sheet.listings, entries, lists, held, Slot.key]
    | tiered ts hne =>
      simp [listings, TierSheet.listings, Sheet.listings, entries, lists, held, Slot.key,
        List.map_flatMap, Function.comp_def]
  rw [bank, Bank.ofListings, hlistings]

theorem weight_entries (c : Contents) :
    Pairs.weight List.length c.entries = (c.lists.map fun l => l.2.length).sum := by
  simp [Pairs.weight, entries, held, Function.comp_def]

theorem nothingOvertaken_entries_iff (c : Contents) :
    Pairs.NothingOvertaken List.length c.entries ↔
      c.lists.Pairwise fun l l' => l.1 = l'.1 → l.2 = [] := by
  rw [Pairs.NothingOvertaken, entries, List.pairwise_map]
  -- Keys tell slots apart only among lists that were read: their numbers can be written.
  apply List.Pairwise.iff_of_mem
  intro l l' hl hl'
  rw [key_eq_iff_of_mem_lists hl hl', held, List.length_map, List.length_eq_zero_iff]

theorem held_eq_iff (ss ss' : List String) :
    held ss = held ss' ↔ ss.map Digits.western = ss'.map Digits.western := by
  rw [← map_text_comp_map_western, Function.comp_apply, Function.comp_apply]
  exact List.map_inj_right fun _ _ h => Value.text.inj h

theorem size_bank (c : Contents) (labels : List String) :
    (c.bank labels).size = Pairs.weight List.length (Pairs.merge [] c.entries) := by
  rw [Bank.size, entries_bank, List.length_flatMap, Pairs.weight]

/-- Every list is held under the key of its slot exactly if the lists in one slot are the same. -/
theorem forall_list?_lists_iff (c : Contents) (labels : List String) :
    (∀ l ∈ c.lists, (c.bank labels).list? l.1.key = some (held l.2)) ↔
      ∀ l ∈ c.lists, ∀ l' ∈ c.lists, l.1 = l'.1 →
        l.2.map Digits.western = l'.2.map Digits.western := by
  have hmerge := Pairs.at?_merge_of_mem_iff c.entries
  simp only [entries, List.forall_mem_map, held_eq_iff] at hmerge
  simp only [Bank.list?, entries_bank]
  constructor
  · intro h l hl l' hl' hslot
    exact hmerge.1 h l hl l' hl' (congrArg Slot.key hslot)
  · intro h
    refine hmerge.2 fun l hl l' hl' hkey => h l hl l' hl' ?_
    exact (key_eq_iff_of_mem_lists hl hl').1 hkey

/-! ## Distinct slots -/

theorem nodup_slots_sheet (tier : Option Int) {sheet : Sheet} (h : (Pairs.keys sheet).Nodup) :
    (sheet.map fun c => (⟨tier, c.1⟩ : Slot)).Nodup := by
  rw [Pairs.keys, List.Nodup, List.pairwise_map] at h
  rw [List.Nodup, List.pairwise_map]
  refine h.imp ?_
  intro c d hne hslot
  exact hne (congrArg Slot.category hslot)

theorem nodup_slots_flat {sheet : Sheet} (h : (Pairs.keys sheet).Nodup) :
    ((flat sheet).lists.map Prod.fst).Nodup := by
  rw [lists, List.map_map]
  exact nodup_slots_sheet none h

/-- Tiers with numbers of their own, each with distinct categories. -/
theorem nodup_slots_tiered {ts : List TierSheet} (hne : ts ≠ [])
    (hnumbers : ts.Pairwise fun t u => t.number ≠ u.number)
    (hsheets : ∀ t ∈ ts, (Pairs.keys t.sheet).Nodup) :
    ((tiered ts hne).lists.map Prod.fst).Nodup := by
  rw [lists, List.map_flatMap, List.nodup_flatMap]
  constructor
  · intro t ht
    rw [List.map_map]
    exact nodup_slots_sheet (some t.number) (hsheets t ht)
  · refine hnumbers.imp ?_
    intro t u htu slot ht hu
    simp only [List.map_map, List.mem_map, Function.comp_apply] at ht hu
    obtain ⟨c, -, rfl⟩ := ht
    obtain ⟨d, -, hslot⟩ := hu
    have htier := congrArg Slot.tier hslot
    exact htu (Option.some.inj htier).symm

theorem keeps_all_of_nodup {c : Contents} (labels : List String)
    (h : (c.lists.map Prod.fst).Nodup) :
    (c.bank labels).size = (c.lists.map fun l => l.2.length).sum ∧
      ∀ l ∈ c.lists, (c.bank labels).list? l.1.key = some (held l.2) := by
  constructor
  · rw [List.Nodup, List.pairwise_map] at h
    rw [size_bank, ← weight_entries, Pairs.weight_merge_eq_iff, nothingOvertaken_entries_iff]
    exact h.imp fun hne hslot => absurd hslot hne
  · rw [forall_list?_lists_iff]
    intro l hl l' hl' hslot
    rw [List.inj_on_of_nodup_map h hl hl' hslot]

end Contents

namespace Bank

/-- **What a bank loses of its document.** No phrase is lost exactly if every list with a later one in
its slot is empty; no list is replaced by another exactly if the lists in one slot are the same. -/
theorem size_eq_total_iff {document : Value} {labels : List String} {b : Bank}
    (h : ofDocument document labels = .ok b) :
    ∃ ms, document = .object ms ∧
      b.size ≤ Document.total ms ∧
      (b.size = Document.total ms ↔
        (Document.lists ms).Pairwise fun l l' => l.1 = l'.1 → l.2 = []) ∧
      ((∀ l ∈ Document.lists ms, b.list? l.1.key = some (Contents.held l.2)) ↔
        ∀ l ∈ Document.lists ms, ∀ l' ∈ Document.lists ms, l.1 = l'.1 →
          l.2.map Digits.western = l'.2.map Digits.western) := by
  obtain ⟨c, rfl, rfl⟩ := (ofDocument_eq_ok_iff document labels b).1 h
  refine ⟨c.members, rfl, ?_⟩
  rw [Document.total, Contents.lists_members, ← Contents.weight_entries, Contents.size_bank]
  refine ⟨Pairs.weight_merge_le _ _, ?_, Contents.forall_list?_lists_iff c labels⟩
  rw [Pairs.weight_merge_eq_iff, Contents.nothingOvertaken_entries_iff]

/-- Two tiers with two numbers, one of them with a sign. -/
theorem size_eq_total_iff_two_numbers : ∃ b,
    ofDocument (.object [("3p", .object [("01", .ofTexts ["a"])]),
      ("+5p", .object [("01", .ofTexts ["b"])])]) [] = .ok b ∧ b.size = 2 := by
  have hb : ofDocument (.object [("3p", .object [("01", .ofTexts ["a"])]),
      ("+5p", .object [("01", .ofTexts ["b"])])]) [] =
      .ok ((Contents.tiered [⟨"3p", 3, [("01", ["a"])], by decide +kernel⟩,
        ⟨"+5p", 5, [("01", ["b"])], by decide +kernel⟩] (by simp)).bank []) :=
    (ofDocument_eq_ok_iff _ _ _).2 ⟨_, rfl, rfl⟩
  obtain ⟨ms, hms, -, hsize, -⟩ := size_eq_total_iff hb
  cases hms
  refine ⟨_, hb, hsize.2 ?_⟩
  decide +kernel

/-- Two spellings of one number: the list of the first tier is lost. -/
theorem size_lt_total_of_two_spellings : ∃ b,
    ofDocument (.object [("3p", .object [("01", .ofTexts ["a"])]),
      ("03p", .object [("01", .ofTexts ["b"])])]) [] = .ok b ∧
    b.size = 1 ∧
    Document.total [("3p", .object [("01", .ofTexts ["a"])]),
      ("03p", .object [("01", .ofTexts ["b"])])] = 2 ∧
    b.list? (Slot.key ⟨some 3, "01"⟩) = some (Contents.held ["b"]) := by
  have hb : ofDocument (.object [("3p", .object [("01", .ofTexts ["a"])]),
      ("03p", .object [("01", .ofTexts ["b"])])]) [] =
      .ok ((Contents.tiered [⟨"3p", 3, [("01", ["a"])], by decide +kernel⟩,
        ⟨"03p", 3, [("01", ["b"])], by decide +kernel⟩] (by simp)).bank []) :=
    (ofDocument_eq_ok_iff _ _ _).2 ⟨_, rfl, rfl⟩
  exact ⟨_, hb, by decide +kernel, by decide +kernel, rfl⟩

end Bank

end Phrasebook
