import Phrasebook.Proofs.FirstFlaw
import Phrasebook.Proofs.Size
import Phrasebook.Session.Finder

/-!
# Phrasebook.Proofs.MemberOrder

The order of the members of a document is of no matter.

`Value.Reordered` permutes the members of objects, of the document and of the objects in it, and
leaves everything else alone. A reordered document holds the same lists in another order
(`lists_perm`). Where no name and no number of a tier comes twice, the lists have slots of their own,
so that the bank has just the entries of the document; and banks with the same entries in another
order, under keys of their own (`SameEntries`), cannot be told apart by anything that is asked of
them.
-/

namespace Phrasebook

open List (Forall₂)

/-- A value, or the same with the members of its objects in another order. -/
inductive Value.Reordered : Value → Value → Prop
  | same (v : Value) : Reordered v v
  | array {vs vs' : List Value} (h : Forall₂ Reordered vs vs') :
      Reordered (.array vs) (.array vs')
  | object {ms mid ms' : Members Value} (hkeys : Pairs.keys ms = Pairs.keys mid)
      (hvalues : Forall₂ Reordered (ms.map Prod.snd) (mid.map Prod.snd)) (h : mid.Perm ms') :
      Reordered (.object ms) (.object ms')

namespace Value

/-- Members of one name, with values that are the same up to order. -/
def SameMember (m n : String × Value) : Prop := m.1 = n.1 ∧ Reordered m.2 n.2

theorem forall₂_sameMember {ms ns : Members Value} (hkeys : Pairs.keys ms = Pairs.keys ns)
    (hvalues : Forall₂ Reordered (ms.map Prod.snd) (ns.map Prod.snd)) :
    Forall₂ SameMember ms ns := by
  induction ms generalizing ns with
  | nil =>
    cases ns with
    | nil => exact .nil
    | cons n ns => cases hkeys
  | cons m ms ih =>
    cases ns with
    | nil => cases hkeys
    | cons n ns =>
      obtain ⟨hkey, hkeys⟩ := List.cons.inj hkeys
      cases hvalues with
      | cons hvalue hvalues => exact .cons ⟨hkey, hvalue⟩ (ih hkeys hvalues)

theorem forall₂_sameMember_refl (ms : Members Value) : Forall₂ SameMember ms ms :=
  List.forall₂_same.2 fun m _ => ⟨rfl, .same m.2⟩

/-- An object is reordered inside of its members first, and then by its members. -/
theorem Reordered.members {ms ms' : Members Value} (h : Reordered (.object ms) (.object ms')) :
    ∃ mid, Forall₂ SameMember ms mid ∧ mid.Perm ms' := by
  cases h with
  | same => exact ⟨ms, forall₂_sameMember_refl ms, .refl ms⟩
  | object hkeys hvalues h => exact ⟨_, forall₂_sameMember hkeys hvalues, h⟩

namespace Reordered

variable {v v' : Value} {ms ms' : Members Value}

theorem isObject_eq (h : Reordered v v') : v.isObject = v'.isObject := by
  cases h <;> rfl

theorem text?_eq (h : Reordered v v') : v.text? = v'.text? := by
  cases h <;> rfl

theorem texts?_eq {vs vs' : List Value} (h : Forall₂ Reordered vs vs') :
    texts? vs = texts? vs' := by
  induction h with
  | nil => rfl
  | @cons v _ _ _ hv _ ih =>
    cases hv with
    | same =>
      cases v with
      | text s => rw [texts?, texts?, ih]
      | _ => rfl
    | array => rfl
    | object => rfl

theorem strings_eq (h : Reordered v v') : Document.strings v = Document.strings v' := by
  cases h with
  | same => rfl
  | object => rfl
  | array h =>
    rw [Document.strings, Document.strings]
    induction h with
    | nil => rfl
    | cons hv _ ih => rw [List.filterMap_cons, List.filterMap_cons, hv.text?_eq, ih]

theorem isList_iff (h : Reordered v v') : Document.IsList v ↔ Document.IsList v' := by
  have harray : ∀ vs, Document.IsList (.array vs) ↔ ∃ ss, texts? vs = some ss := by
    intro vs
    simp only [Document.IsList, ofTexts, array.injEq, Document.texts?_eq_some_iff]
  cases h with
  | same => rfl
  | array h => rw [harray, harray, texts?_eq h]
  | object =>
    refine iff_of_false ?_ ?_
    · rintro ⟨_, hss⟩
      cases hss
    · rintro ⟨_, hss⟩
      cases hss

/-- What is made of members comes in another order, if it does for each of them. -/
theorem flatMap_perm (h : Reordered (.object ms) (.object ms')) {α : Type}
    {f : String × Value → List α} (hf : ∀ m n, SameMember m n → (f m).Perm (f n)) :
    (ms.flatMap f).Perm (ms'.flatMap f) := by
  obtain ⟨mid, hmid, hperm⟩ := h.members
  have hsame : (ms.flatMap f).Perm (mid.flatMap f) := by
    clear hperm h
    induction hmid with
    | nil => exact .refl _
    | cons hmn _ ih =>
      rw [List.flatMap_cons, List.flatMap_cons]
      exact (hf _ _ hmn).append ih
  exact hsame.trans (hperm.flatMap_right f)

theorem map_perm (h : Reordered (.object ms) (.object ms')) {α : Type} {f : String × Value → α}
    (hf : ∀ m n, SameMember m n → f m = f n) : (ms.map f).Perm (ms'.map f) := by
  rw [List.map_eq_flatMap, List.map_eq_flatMap]
  exact h.flatMap_perm fun m n hmn => by rw [hf m n hmn]

/-- What holds of a member whatever its order holds of all members whatever their order. -/
theorem forall_mem_iff (h : Reordered (.object ms) (.object ms')) {P : String × Value → Prop}
    (hP : ∀ m n, SameMember m n → (P m ↔ P n)) : (∀ m ∈ ms, P m) ↔ ∀ m ∈ ms', P m := by
  have hperm := h.map_perm fun m n hmn => propext (hP m n hmn)
  have hmap : ∀ ms : Members Value, (∀ m ∈ ms, P m) ↔ ∀ q ∈ ms.map P, q :=
    fun ms => by rw [List.forall_mem_map]
  rw [hmap, hmap]
  exact forall_congr' fun q => by rw [hperm.mem_iff]

end Reordered

end Value

open Value (Reordered SameMember)

/-! ## Documents -/

namespace Document

/-- The members of a document, and of each object in it, have names of their own. -/
def NamesOnce (ms : Members Value) : Prop :=
  (Pairs.keys ms).Nodup ∧ ∀ m ∈ ms, ∀ cs, m.2 = .object cs → (Pairs.keys cs).Nodup

/-- No two keys are read as the number of one tier. -/
def NumbersOnce (ms : Members Value) : Prop :=
  ms.Pairwise fun m n => ∀ k, Key.tierNumber? m.1 = some k → Key.tierNumber? n.1 ≠ some k

variable {ms ms' : Members Value}

theorem isTiered_reordered (h : Reordered (.object ms) (.object ms')) :
    isTiered ms = isTiered ms' := by
  have hflat := h.forall_mem_iff (P := fun m => m.2.isObject = false) fun m n hmn => by
    rw [hmn.2.isObject_eq]
  rw [Bool.eq_iff_iff, ← not_iff_not, Bool.not_eq_true, Bool.not_eq_true, isTiered, isTiered,
    List.any_eq_false, List.any_eq_false]
  simpa using hflat

theorem isTierOfLists_iff {m n : String × Value} (h : SameMember m n) :
    (Key.IsTier m.1 ∧ ∃ cs, m.2 = .object cs ∧ ∀ c ∈ cs, IsList c.2) ↔
      Key.IsTier n.1 ∧ ∃ cs, n.2 = .object cs ∧ ∀ c ∈ cs, IsList c.2 := by
  obtain ⟨key, v⟩ := m
  obtain ⟨key', v'⟩ := n
  obtain ⟨rfl, hv⟩ := h
  refine and_congr Iff.rfl ?_
  cases hv with
  | same => rfl
  | array => simp
  | @object cs mid cs' hkeys hvalues hperm =>
    have hlists := (Reordered.object hkeys hvalues hperm).forall_mem_iff
      (P := fun c => IsList c.2) fun c d hcd => hcd.2.isList_iff
    simpa using hlists

theorem documented_reordered (h : Reordered (.object ms) (.object ms')) :
    Documented (.object ms) ↔ Documented (.object ms') := by
  have hlists := h.forall_mem_iff (P := fun m => IsList m.2) fun m n hmn => hmn.2.isList_iff
  have htiers := h.forall_mem_iff fun m n hmn => isTierOfLists_iff hmn
  have htiered := isTiered_reordered h
  rw [Bool.eq_iff_iff, isTiered_iff, isTiered_iff] at htiered
  simp only [Documented, Value.object.injEq, exists_eq_left', hlists, htiers, htiered]

/-- A reordered document holds the same lists, each in its slot, in another order. -/
theorem lists_perm (h : Reordered (.object ms) (.object ms')) : (lists ms).Perm (lists ms') := by
  rw [lists, lists, isTiered_reordered h]
  split
  · refine h.flatMap_perm fun m n hmn => ?_
    obtain ⟨key, v⟩ := m
    obtain ⟨key', v'⟩ := n
    obtain ⟨rfl, hv⟩ := hmn
    cases hv with
    | same => exact .refl _
    | array => exact .refl _
    | object hkeys hvalues hperm =>
      refine (Reordered.object hkeys hvalues hperm).map_perm fun c d hcd => ?_
      rw [hcd.1, hcd.2.strings_eq]
  · refine h.map_perm fun c d hcd => ?_
    rw [hcd.1, hcd.2.strings_eq]

end Document

open Document (NamesOnce NumbersOnce)

namespace Contents

theorem keys_members (sheet : Sheet) : Pairs.keys sheet.members = Pairs.keys sheet := by
  simp [Sheet.members, Pairs.keys]

/-- Where no name and no number comes twice, no slot does. -/
theorem nodup_slots {c : Contents} (hnames : NamesOnce c.members)
    (hnumbers : c.isTiered = true → NumbersOnce c.members) : (c.lists.map Prod.fst).Nodup := by
  cases c with
  | flat sheet =>
    apply nodup_slots_flat
    rw [← keys_members]
    exact hnames.1
  | tiered ts hne =>
    apply nodup_slots_tiered
    · have hpairs := List.pairwise_map.1 (hnumbers rfl)
      refine hpairs.imp ?_
      intro t u htu hnumber
      exact htu t.number t.reads (hnumber ▸ u.reads)
    · intro t ht
      rw [← keys_members]
      exact hnames.2 t.member (List.mem_map_of_mem ht) _ rfl

theorem nodup_keys_entries {c : Contents} (h : (c.lists.map Prod.fst).Nodup) :
    (Pairs.keys c.entries).Nodup := by
  rw [List.Nodup, List.pairwise_map] at h
  rw [Pairs.keys, entries, List.map_map, List.Nodup, List.pairwise_map]
  -- Keys tell slots apart only among lists that were read: their numbers can be written.
  refine (List.Pairwise.iff_of_mem ?_).1 h
  intro l l' hl hl'
  exact (key_eq_iff_of_mem_lists hl hl').not.symm

end Contents

/-! ## Banks -/

namespace Bank

/-- Two banks of one shape with the same entries, under keys of their own, in whatever order. -/
structure SameEntries (b b' : Bank) : Prop where
  isTiered : b.isTiered = b'.isTiered
  nodup : (Pairs.keys b.entries).Nodup
  perm : b.entries.Perm b'.entries

theorem insertAscending_comm (m n : Int) (ks : List Int) :
    insertAscending m (insertAscending n ks) = insertAscending n (insertAscending m ks) := by
  induction ks with
  | nil => grind [insertAscending]
  | cons k ks ih => grind [insertAscending]

instance : LeftCommutative insertAscending := ⟨insertAscending_comm⟩

namespace SameEntries

variable {b b' : Bank} (h : b.SameEntries b')

include h

theorem list?_eq (key : Key) : b.list? key = b'.list? key := Pairs.at?_perm h.perm h.nodup key

theorem size_eq : b.size = b'.size := (h.perm.flatMap_right Prod.snd).length_eq

theorem tierNumbers_eq : b.tierNumbers = b'.tierNumbers := by
  rw [tierNumbers, tierNumbers, h.isTiered, (h.perm.filterMap _).foldr_eq]

theorem tiers_eq : b.tiers = b'.tiers := by
  rw [tiers, tiers, h.isTiered, h.perm.any_eq, h.tierNumbers_eq]

theorem defaultTier_eq : b.defaultTier = b'.defaultTier := by
  rw [defaultTier, defaultTier, h.isTiered, h.tiers_eq]

theorem tierKey_eq (tier : Value) : b.tierKey tier = b'.tierKey tier := by
  cases tier with
  | null => simp only [tierKey, h.tiers_eq]
  | _ => rfl

theorem lookup_eq (category tier : Value) : b.lookup category tier = b'.lookup category tier := by
  rw [lookup, lookup, key, key, h.isTiered, h.tierKey_eq]
  simp only [h.list?_eq]

/-- Searches of the two banks go the same way and leave the same behind. -/
theorem search_eq (o : Outlet) (s : Selection) (m : Meters) :
    (Finder.ofBank b o).search s m = (Finder.ofBank b' o).search s m := by
  have hbank : ∀ b : Bank, (Finder.ofBank b o).bank = b := fun _ => rfl
  have hlogger : (Finder.ofBank b o).logger = (Finder.ofBank b' o).logger := by
    simp only [Finder.ofBank, Finder.shapeDetail, h.isTiered]
  simp only [Finder.search, Finder.failed, Finder.finished, Finder.logFailure, Finder.logSuccess,
    Finder.outlet, hbank, hlogger, h.lookup_eq]

end SameEntries

theorem sameEntries_of_lists_perm {c c' : Contents} (hshape : c.isTiered = c'.isTiered)
    (hslots : (c.lists.map Prod.fst).Nodup) (h : c.lists.Perm c'.lists) (labels : List String) :
    (c.bank labels).SameEntries (c'.bank labels) := by
  have hslots' : (c'.lists.map Prod.fst).Nodup := (h.map Prod.fst).nodup_iff.1 hslots
  have hkeys := Contents.nodup_keys_entries hslots
  have hentries : ∀ c : Contents, (c.lists.map Prod.fst).Nodup →
      (c.bank labels).entries = c.entries := by
    intro c hc
    rw [Contents.entries_bank, Pairs.merge_of_nodup (Contents.nodup_keys_entries hc), List.nil_append]
  refine ⟨hshape, ?_, ?_⟩
  · rw [hentries c hslots]
    exact hkeys
  · rw [hentries c hslots, hentries c' hslots']
    exact h.map _

/-- **The order of members is of no matter.** A reordered document is accepted exactly if the document
is. Where no name and no number of a tier comes twice, their banks have the same shape, tiers and
size, find the same under every category and tier, and answer every search alike. -/
theorem ofDocument_reordered {ms ms' : Members Value}
    (h : Reordered (.object ms) (.object ms')) (labels : List String) :
    ((∃ b, ofDocument (.object ms) labels = .ok b) ↔
      ∃ b, ofDocument (.object ms') labels = .ok b) ∧
    (NamesOnce ms → (Document.isTiered ms = true → NumbersOnce ms) →
      ∀ b b', ofDocument (.object ms) labels = .ok b → ofDocument (.object ms') labels = .ok b' →
        b.isTiered = b'.isTiered ∧ b.tiers = b'.tiers ∧ b.defaultTier = b'.defaultTier ∧
        b.size = b'.size ∧
        (∀ category tier : Value, b.lookup category tier = b'.lookup category tier) ∧
        ∀ (o : Outlet) (s : Selection) (m : Meters),
          (Finder.ofBank b o).search s m = (Finder.ofBank b' o).search s m) := by
  constructor
  · rw [(ofDocument_judges _ labels).ok_iff, (ofDocument_judges _ labels).ok_iff,
      ← Document.documented_iff, ← Document.documented_iff]
    exact Document.documented_reordered h
  · intro hnames hnumbers b b' hb hb'
    obtain ⟨c, hc, rfl⟩ := (ofDocument_eq_ok_iff _ labels b).1 hb
    obtain ⟨c', hc', rfl⟩ := (ofDocument_eq_ok_iff _ labels b').1 hb'
    obtain rfl := Value.object.inj hc
    obtain rfl := Value.object.inj hc'
    have hshape := Document.isTiered_reordered h
    rw [Document.isTiered_members, Document.isTiered_members] at hshape
    rw [Document.isTiered_members] at hnumbers
    have hlists := Document.lists_perm h
    rw [Contents.lists_members, Contents.lists_members] at hlists
    have hsame := sameEntries_of_lists_perm hshape (Contents.nodup_slots hnames hnumbers) hlists
      labels
    exact ⟨hsame.isTiered, hsame.tiers_eq, hsame.defaultTier_eq, hsame.size_eq, hsame.lookup_eq,
      hsame.search_eq⟩

/-- Two tiers change places, and so do the two categories of one of them. -/
theorem ofDocument_reordered_two_tiers : ∃ b b',
    ofDocument (.object [("3p", .object [("02", .ofTexts ["b"]), ("01", .ofTexts ["a"])]),
      ("+5p", .object [("01", .ofTexts ["c"])])]) [] = .ok b ∧
    ofDocument (.object [("+5p", .object [("01", .ofTexts ["c"])]),
      ("3p", .object [("01", .ofTexts ["a"]), ("02", .ofTexts ["b"])])]) [] = .ok b' ∧
    b ≠ b' ∧ ∀ category tier : Value, b.lookup category tier = b'.lookup category tier := by
  have hb : ofDocument (.object [("3p", .object [("02", .ofTexts ["b"]), ("01", .ofTexts ["a"])]),
      ("+5p", .object [("01", .ofTexts ["c"])])]) [] =
      .ok ((Contents.tiered [⟨"3p", 3, [("02", ["b"]), ("01", ["a"])], by decide +kernel⟩,
        ⟨"+5p", 5, [("01", ["c"])], by decide +kernel⟩] (by simp)).bank []) :=
    (ofDocument_eq_ok_iff _ _ _).2 ⟨_, rfl, rfl⟩
  have hb' : ofDocument (.object [("+5p", .object [("01", .ofTexts ["c"])]),
      ("3p", .object [("01", .ofTexts ["a"]), ("02", .ofTexts ["b"])])]) [] =
      .ok ((Contents.tiered [⟨"+5p", 5, [("01", ["c"])], by decide +kernel⟩,
        ⟨"3p", 3, [("01", ["a"]), ("02", ["b"])], by decide +kernel⟩] (by simp)).bank []) :=
    (ofDocument_eq_ok_iff _ _ _).2 ⟨_, rfl, rfl⟩
  have hinside : Reordered (.object [("02", .ofTexts ["b"]), ("01", .ofTexts ["a"])])
      (.object [("01", .ofTexts ["a"]), ("02", .ofTexts ["b"])]) :=
    .object rfl (.cons (.same _) (.cons (.same _) .nil)) (.swap _ _ _)
  have hreordered : Reordered
      (.object [("3p", .object [("02", .ofTexts ["b"]), ("01", .ofTexts ["a"])]),
        ("+5p", .object [("01", .ofTexts ["c"])])])
      (.object [("+5p", .object [("01", .ofTexts ["c"])]),
        ("3p", .object [("01", .ofTexts ["a"]), ("02", .ofTexts ["b"])])]) :=
    @Reordered.object _ [("3p", .object [("01", .ofTexts ["a"]), ("02", .ofTexts ["b"])]),
      ("+5p", .object [("01", .ofTexts ["c"])])] _ rfl
      (.cons hinside (.cons (.same _) .nil)) (.swap _ _ _)
  have hnames : NamesOnce [("3p", .object [("02", .ofTexts ["b"]), ("01", .ofTexts ["a"])]),
      ("+5p", .object [("01", .ofTexts ["c"])])] := by
    refine ⟨by decide, ?_⟩
    simp [Pairs.keys]
  have hthree : Key.tierNumber? "3p" = some 3 := by decide +kernel
  have hfive : Key.tierNumber? "+5p" = some 5 := by decide +kernel
  have hnumbers : NumbersOnce [("3p", .object [("02", .ofTexts ["b"]), ("01", .ofTexts ["a"])]),
      ("+5p", .object [("01", .ofTexts ["c"])])] := by
    simp [NumbersOnce, hthree, hfive]
  obtain ⟨-, -, -, -, hlookup, -⟩ :=
    (ofDocument_reordered hreordered []).2 hnames (fun _ => hnumbers) _ _ hb hb'
  refine ⟨_, _, hb, hb', ?_, hlookup⟩
  intro h
  exact absurd (congrArg (fun b => b.entries.map Prod.fst) h) (by decide)

end Bank

end Phrasebook
