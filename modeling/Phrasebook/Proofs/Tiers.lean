import Phrasebook.Proofs.Display
import Phrasebook.Proofs.Reach

/-!
# Phrasebook.Proofs.Tiers

The tiers of a bank and the choice of tiers in its panel.

The tiers are not kept but read off the keys of the entries. They are the numbers of the tiers of the
document that hold a category (`mem_tierNumbers_iff`), ascending (`pairwise_tierNumbers`), and the
tier to begin with is chosen among them: the preferred one (`chooseTier_of_mem`), or else the least
(`chooseTier_least`). The panel writes them as labels; a
label is read as its tier again, so choosing it changes the tier of the selection and nothing else
(`handle_tier_write`).
-/

namespace Phrasebook

namespace Document

/-- Some tier of the document has this number and at least one category. -/
def HasTier (ms : Members Value) (n : Int) : Prop :=
  ∃ m ∈ ms, Key.Spells m.1 n ∧ ∃ cs, m.2 = .object cs ∧ cs ≠ []

/-- The tiers of a bank, and the one it begins with, as they follow from the document. -/
structure Describes (ms : Members Value) (ts : List Int) (first : Int) : Prop where
  ascending : ts.Pairwise (· < ·)
  mem_iff : ∀ n, n ∈ ts ↔ HasTier ms n
  preferred : 3 ∈ ts ∨ ts = [] → first = 3
  least : 3 ∉ ts → ts ≠ [] → IsLeast {n | n ∈ ts} first
  mem : ts ≠ [] → first ∈ ts

end Document

/-- The choice of tiers in a panel: the labels of the tiers, one of them chosen at first, and each of
them good for the tier it stands for. -/
structure Panel.Offers (p : Panel) (ts : List Int) : Prop where
  choices : p.tierChoices = ts.map Numeral.write
  nodup : p.tierChoices.Nodup
  visible_iff : p.tierVisible = true ↔ ts ≠ []
  begins : ts ≠ [] → ∃ label ∈ p.tierChoices, p.tierChoice = some label
  /-- Whatever is shown, the search that follows differs in the tier only. -/
  moves : ∀ (k : Nat) (n : Int) (label : String), ts[k]? = some n →
    p.tierChoices[k]? = some label → ∀ (shown : Option Selection) (m : Meters),
      p.handle (.tier (.text label)) shown m =
        display (p.finder.search { shown.getD p.initial with tier := .int n } m)
  /-- After any events there is an answer. -/
  answers : ∀ (k : Nat) (n : Int) (label : String), ts[k]? = some n →
    p.tierChoices[k]? = some label → ∀ es : List Event, (∀ e ∈ es, e.IsSent) →
      ∃ d, (p.handle (.tier (.text label)) (p.after es).shown (p.after es).meters).result = .ok d ∧
        d.selection = { (p.after es).shown.getD p.initial with tier := .int n }

namespace Bank

theorem pairwise_insertAscending {ms : List Int} (h : ms.Pairwise (· < ·)) (n : Int) :
    (insertAscending n ms).Pairwise (· < ·) := by
  induction ms with
  | nil => exact List.pairwise_singleton _ n
  | cons m ms ih =>
    obtain ⟨hm, hms⟩ := List.pairwise_cons.1 h
    rw [insertAscending]
    split
    · rename_i hlt
      refine List.pairwise_cons.2 ⟨?_, h⟩
      intro k hk
      rcases List.mem_cons.1 hk with rfl | hk
      · exact hlt
      · exact hlt.trans (hm k hk)
    · rename_i hle
      split
      · exact h
      · rename_i hne
        refine List.pairwise_cons.2 ⟨?_, ih hms⟩
        intro k hk
        rcases (mem_insertAscending k n ms).1 hk with rfl | hk
        · omega
        · exact hm k hk

theorem pairwise_foldr_insertAscending (ms : List Int) :
    (ms.foldr insertAscending []).Pairwise (· < ·) := by
  induction ms with
  | nil => exact .nil
  | cons m ms ih => exact pairwise_insertAscending ih m

theorem pairwise_tierNumbers (b : Bank) : b.tierNumbers.Pairwise (· < ·) := by
  rw [tierNumbers]
  split
  · exact pairwise_foldr_insertAscending _
  · exact .nil

theorem chooseTier_of_mem {ts : List Int} (h : 3 ∈ ts ∨ ts = []) : chooseTier ts = 3 := by
  rw [chooseTier, preferredTier]
  rcases h with h | rfl
  · exact if_pos h
  · rfl

theorem chooseTier_least {ts : List Int} (hts : ts.Pairwise (· < ·)) (h : 3 ∉ ts) (hne : ts ≠ []) :
    IsLeast {n | n ∈ ts} (chooseTier ts) := by
  obtain ⟨n, ts, rfl⟩ := List.exists_cons_of_ne_nil hne
  rw [chooseTier, preferredTier, if_neg h, List.headD_cons]
  refine ⟨List.mem_cons_self, ?_⟩
  intro k hk
  rcases List.mem_cons.1 hk with rfl | hk
  · exact le_refl k
  · exact le_of_lt ((List.pairwise_cons.1 hts).1 k hk)

theorem chooseTier_mem {ts : List Int} (hts : ts.Pairwise (· < ·)) (hne : ts ≠ []) :
    chooseTier ts ∈ ts := by
  by_cases h : 3 ∈ ts
  · rwa [chooseTier_of_mem (.inl h)]
  · exact (chooseTier_least hts h hne).1

end Bank

namespace Contents

theorem mem_tierNumbers_iff (ts : List TierSheet) (hne : ts ≠ []) (labels : List String) (n : Int) :
    n ∈ ((tiered ts hne).bank labels).tierNumbers ↔ ∃ t ∈ ts, t.number = n ∧ t.sheet ≠ [] := by
  have htiered : ((tiered ts hne).bank labels).isTiered = true := rfl
  constructor
  · intro h
    rw [Bank.tierNumbers, if_pos htiered, Bank.mem_foldr_insertAscending] at h
    obtain ⟨e, he, hhead⟩ := List.mem_filterMap.1 h
    obtain ⟨l, hl, hkey⟩ := exists_list_of_mem_entries he
    obtain ⟨t, ht, hsheet⟩ := List.mem_flatMap.1 hl
    obtain ⟨c, hc, rfl⟩ := List.mem_map.1 hsheet
    refine ⟨t, ht, ?_, List.ne_nil_of_mem hc⟩
    -- The key of the entry was written with the number of the tier, and is read as it again.
    have hread := Key.tierNumber?_tier (Key.isWritable_of_tierNumber? t.reads)
    rw [← hkey] at hhead
    exact Option.some.inj (hread.symm.trans hhead)
  · rintro ⟨t, ht, rfl, hsheet⟩
    obtain ⟨c, cs, hcs⟩ := List.exists_cons_of_ne_nil hsheet
    have hl : (⟨some t.number, c.1⟩, c.2) ∈ (tiered ts hne).lists := by
      refine List.mem_flatMap.2 ⟨t, ht, List.mem_map.2 ⟨c, ?_, rfl⟩⟩
      rw [hcs]
      exact List.mem_cons_self
    obtain ⟨m, hm, hsome⟩ := List.mem_map.1 (tier_mem_ownTiers labels hl)
    cases hsome
    exact hm

theorem hasTier_members_iff (ts : List TierSheet) (hne : ts ≠ []) (n : Int) :
    Document.HasTier (tiered ts hne).members n ↔ ∃ t ∈ ts, t.number = n ∧ t.sheet ≠ [] := by
  have hspells : ∀ t : TierSheet, Key.Spells t.key n ↔ t.number = n := by
    intro t
    rw [← Key.tierNumber?_eq_some_iff, t.reads, Option.some.injEq]
  simp [Document.HasTier, members, TierSheet.member, Sheet.members, hspells]

theorem describes_bank (ts : List TierSheet) (hne : ts ≠ []) (labels : List String) :
    Document.Describes (tiered ts hne).members ((tiered ts hne).bank labels).tierNumbers
      ((tiered ts hne).bank labels).firstTier := by
  have hascending := Bank.pairwise_tierNumbers ((tiered ts hne).bank labels)
  exact {
    ascending := hascending
    mem_iff := by
      intro n
      rw [mem_tierNumbers_iff, hasTier_members_iff]
    preferred := Bank.chooseTier_of_mem
    least := Bank.chooseTier_least hascending
    mem := Bank.chooseTier_mem hascending }

end Contents

/-! ## The panel -/

theorem Value.toInteger_write {n : Int} (h : Numeral.isWritable n = true) :
    (Value.text (Numeral.write n)).toInteger = .ok n := by
  rw [toInteger, Numeral.write, String.toList_ofList, Numeral.read_chars h]
  rfl

namespace Panel

/-- The label of a tier leads to the search for the selection with this tier. -/
theorem handle_tier_write (p : Panel) {n : Int} (h : Numeral.isWritable n = true)
    (shown : Option Selection) (m : Meters) :
    p.handle (.tier (.text (Numeral.write n))) shown m =
      display (p.finder.search { shown.getD p.initial with tier := .int n } m) := by
  have hread : readInteger (.text (Numeral.write n)) = .ok (some n) := by
    rw [readInteger, Value.toInteger_write h]
  rw [handle, ask, hread]
  rfl

end Panel

theorem Event.not_beyond_tier_write {n : Int} (h : Numeral.isWritable n = true) (writes : Bool)
    (f : Fault) : ¬(Event.tier (.text (Numeral.write n))).Beyond writes f := by
  intro hbeyond
  cases hbeyond with
  | infinite hinfinite => exact Value.not_isInfinite_of_toInteger (Value.toInteger_write h) hinfinite
  | longTier _ hv hn =>
    rw [Value.toInteger_write h] at hv
    cases hv
    rw [Numeral.isWritable_iff] at h
    omega

namespace Contents

/-- After any events a label of a tier is answered, with the selection that differs in the tier. -/
theorem handle_tier_write_ok (c : Contents) (labels : List String) (o : Outlet) {n : Int}
    (h : Numeral.isWritable n = true) {es : List Event} (hes : ∀ e ∈ es, e.IsSent) :
    ∃ d, ((c.panel labels o).handle (.tier (.text (Numeral.write n)))
        ((c.panel labels o).after es).shown ((c.panel labels o).after es).meters).result = .ok d ∧
      d.selection =
        { ((c.panel labels o).after es).shown.getD (c.panel labels o).initial with
          tier := .int n } := by
  obtain ⟨s, hs, hgiven⟩ := c.after_settled labels o hes
  have hsent : (Event.tier (.text (Numeral.write n))).IsSent := trivial
  have hinitial : ((c.panel labels o).after es).shown.getD (c.panel labels o).initial =
      s.selection := hgiven
  cases hanswer : ((c.panel labels o).handle (.tier (.text (Numeral.write n)))
      ((c.panel labels o).after es).shown ((c.panel labels o).after es).meters).result with
  | error f =>
    have hbeyond := (handle_error_iff hgiven hsent hs _ f).1 hanswer
    exact absurd hbeyond (Event.not_beyond_tier_write h _ f)
  | ok d =>
    refine ⟨d, rfl, ?_⟩
    obtain ⟨-, -, -, hselection, -⟩ := handle_ok hgiven hsent hs _ hanswer
    rw [hselection, hinitial, Event.effect, Value.toInteger_write h]
    rfl

theorem offers_panel (ts : List TierSheet) (hne : ts ≠ []) (labels : List String) (o : Outlet) :
    ((tiered ts hne).panel labels o).Offers ((tiered ts hne).bank labels).tierNumbers := by
  have hascending := Bank.pairwise_tierNumbers ((tiered ts hne).bank labels)
  have hnodup : ((tiered ts hne).bank labels).tierNumbers.Nodup := hascending.imp ne_of_lt
  have hchoices : ((tiered ts hne).panel labels o).tierChoices =
      ((tiered ts hne).bank labels).tierNumbers.map Numeral.write := rfl
  have hlabel : ∀ (k : Nat) (n : Int) (label : String),
      ((tiered ts hne).bank labels).tierNumbers[k]? = some n →
      ((tiered ts hne).panel labels o).tierChoices[k]? = some label →
      label = Numeral.write n ∧ Numeral.isWritable n = true := by
    intro k n label hn hk
    rw [hchoices, List.getElem?_map, hn] at hk
    exact ⟨(Option.some.inj hk).symm,
      Bank.isWritable_of_mem_tierNumbers (List.mem_of_getElem? hn)⟩
  exact {
    choices := hchoices
    nodup := hnodup.map fun _ _ => Numeral.write_inj.1
    visible_iff := by
      rw [Panel.tierVisible, Bool.not_eq_true', List.isEmpty_eq_false_iff]
      rfl
    begins := by
      intro hsome
      exact ⟨_, List.mem_map_of_mem (Bank.chooseTier_mem hascending hsome), rfl⟩
    moves := by
      intro k n label hn hk shown m
      obtain ⟨rfl, hwritable⟩ := hlabel k n label hn hk
      exact Panel.handle_tier_write _ hwritable shown m
    answers := by
      intro k n label hn hk es hes
      obtain ⟨rfl, hwritable⟩ := hlabel k n label hn hk
      exact handle_tier_write_ok _ labels o hwritable hes }

end Contents

namespace Bank

/-- **The tiers that were loaded, and the choice among them.** The bank of a document with tiers knows
its tiers and the one to begin with as the document describes them, and the panel on it offers just
these tiers. -/
theorem tiers_offered {ms : Members Value} {labels : List String} {b : Bank}
    (hb : ofDocument (.object ms) labels = .ok b) (htiered : Document.isTiered ms = true)
    (o : Outlet) :
    ∃ ts first p, b.tiers = .ok ts ∧ b.defaultTier = .ok (some first) ∧
      Panel.ofFinder (.ofBank b o) = .ok p ∧ Document.Describes ms ts first ∧ p.Offers ts := by
  obtain ⟨c, hms, rfl⟩ := (ofDocument_eq_ok_iff (.object ms) labels b).1 hb
  cases hms
  rw [Document.isTiered_members] at htiered
  cases c with
  | flat sheet => cases htiered
  | tiered ts hne =>
    exact ⟨_, _, _, tiers_bank _ labels, defaultTier_tiered ts hne labels,
      Contents.ofFinder_bank _ labels o, Contents.describes_bank ts hne labels,
      Contents.offers_panel ts hne labels o⟩

/-- Three tiers, one below zero and one without a category. -/
theorem tiers_offered_below_zero : ∃ b p d,
    ofDocument (.object [("12p", .object [("01", .ofTexts ["a"])]), ("03p", .object []),
      ("-2p", .object [("01", .ofTexts ["b"])])]) [] = .ok b ∧
    b.tiers = .ok [-2, 12] ∧ b.defaultTier = .ok (some (-2)) ∧
    Panel.ofFinder (.ofBank b ⟨30, 950⟩) = .ok p ∧ p.tierChoices = ["-2", "12"] ∧
    (p.handle (.tier (.text "12")) (p.after [.load]).shown (p.after [.load]).meters).result =
      .ok d ∧
    d.selection.tier = .int 12 := by
  have hb : ofDocument (.object [("12p", .object [("01", .ofTexts ["a"])]), ("03p", .object []),
      ("-2p", .object [("01", .ofTexts ["b"])])]) [] =
      .ok ((Contents.tiered [⟨"12p", 12, [("01", ["a"])], by decide +kernel⟩,
        ⟨"03p", 3, [], by decide +kernel⟩, ⟨"-2p", -2, [("01", ["b"])], by decide +kernel⟩]
        (by simp)).bank []) :=
    (ofDocument_eq_ok_iff _ _ _).2 ⟨_, rfl, rfl⟩
  obtain ⟨ts, first, p, hts, hfirst, hp, hdescribes, hoffers⟩ := tiers_offered hb rfl ⟨30, 950⟩
  have htiers : ts = [-2, 12] := by
    rw [tiers_bank] at hts
    cases hts
    decide +kernel
  subst htiers
  have hleast := hdescribes.least (by decide) (by decide)
  have hvalue : first = -2 :=
    hleast.unique ⟨List.mem_cons_self, by simp [lowerBounds]⟩
  subst hvalue
  have hchoices : p.tierChoices = ["-2", "12"] := by
    rw [hoffers.choices]
    decide +kernel
  obtain ⟨d, hd, hselection⟩ := hoffers.answers 1 12 "12" rfl (by rw [hchoices]; rfl) [.load]
    (by simp [Event.IsSent])
  exact ⟨_, p, d, hb, hts, hfirst, hp, hchoices, hd, by rw [hselection]⟩

end Bank

end Phrasebook
