import Phrasebook.Proofs.Panel

/-!
# Phrasebook.Proofs.Findable

Every phrase of a document is found by typing it.

A phrase comes to a search twice: as a pattern, the way it was typed, and as a text that the bank
holds. Its stars take any text in the pattern and are mere characters in the bank. Both come into
Western digits, each on its own, and what was one text before is one text after that; whatever stands
in it, a pattern finds itself (`Pattern.finds_self`). So no copy of a phrase is lost among the texts
that are looked up (`count_found_self`), and these are the phrases of a list of the document
(`Contents.stored?_of_lookup`).
-/

namespace Phrasebook

/-- As a query, a phrase finds every copy of itself. -/
theorem count_found_self (phrases : List String) (x : String) :
    (found phrases x).count (Digits.western x) = phrases.count (Digits.western x) := by
  rw [found]
  exact List.count_filter (decide_eq_true (Pattern.finds_self _))

/-- A look-up that comes upon a list comes upon the one stored for the number and the category. -/
theorem Contents.stored?_of_lookup {c : Contents} {labels : List String} {i : Int} {t : Option Int}
    {key : Key} {vs : List Value}
    (h : (c.bank labels).lookup (.int i) (Bank.tierArgument t) = .ok ⟨key, some vs⟩) :
    ∃ ss, c.stored? (t.getD (c.bank labels).firstTier) (Key.category i) = some ss ∧
      held ss = vs := by
  rw [← Option.map_eq_some_iff]
  cases c with
  | flat sheet =>
    rw [Bank.lookup_flat] at h
    split at h
    · rw [← list?_flat]
      exact (Bank.Lookup.mk.inj (Except.ok.inj h)).2
    · cases h
  | tiered ts hne =>
    rw [Bank.lookup_tiered ts hne labels i rfl] at h
    split at h
    · rename_i hwritable
      rw [← list?_tiered ts hne labels (Bool.and_eq_true_iff.1 hwritable).1]
      exact (Bank.Lookup.mk.inj (Except.ok.inj h)).2
    · cases h

theorem Value.ofTexts_injective : Function.Injective Value.ofTexts := by
  intro ss ss' h
  exact List.map_injective_iff.2 (fun _ _ => Value.text.inj) (Value.array.inj h)

namespace Document

/-- The list that a document has for a category in a tier, in the spelling of the document. A flat
document has one list for a category, whatever the tier. -/
def Has (ms : Members Value) (tier : Int) (category : String) (ss : List String) : Prop :=
  if isTiered ms then inTier? ms tier category = some (.ofTexts ss)
  else Pairs.last? ms category = some (.ofTexts ss)

theorem has_members_iff (c : Contents) (tier : Int) (category : String) (ss : List String) :
    Has c.members tier category ss ↔ c.stored? tier category = some ss := by
  have htexts : ∀ stored : Option (List String),
      stored.map Value.ofTexts = some (.ofTexts ss) ↔ stored = some ss :=
    fun stored => (Option.map_injective Value.ofTexts_injective).eq_iff (b := some ss)
  rw [← htexts, Has, isTiered_members]
  cases c with
  | flat sheet =>
    rw [if_neg (by simp [Contents.isTiered]), Contents.members, Contents.last?_members]
    rfl
  | tiered ts hne => rw [if_pos (by rfl), Contents.inTier?_members]

end Document

namespace Bank

/-- **Every phrase is found by typing it.** Wherever a look-up comes upon a list, it is a list of the
document, and a search for any phrase of it, spelled as in the document, returns the phrase in
Western digits exactly as often as the list has it. Only where its record is to be written, and a
number there has too many digits, does the search fail for that. -/
theorem search_own_phrase {ms : Members Value} {labels : List String} {b : Bank}
    (hb : ofDocument (.object ms) labels = .ok b) {i : Int} {t : Option Int} {key : Key}
    {vs : List Value} (hl : b.lookup (.int i) (tierArgument t) = .ok ⟨key, some vs⟩) :
    ∃ (first : Int) (ss : List String),
      (Document.isTiered ms = true → b.defaultTier = .ok (some first)) ∧
      Document.Has ms (t.getD first) (Key.category i) ss ∧
      vs = (ss.map Digits.western).map .text ∧
      ∀ x ∈ ss, ∀ (o : Outlet) (m : Meters),
        (o.CanTell i t → ∃ rs : List String,
          ((Finder.ofBank b o).search ⟨.int i, tierArgument t, .text x⟩ m).result =
            .ok ⟨⟨.int i, tierArgument t, .text x⟩, rs.map .text⟩ ∧
          Digits.western x ∈ rs ∧
          rs.count (Digits.western x) = (ss.map Digits.western).count (Digits.western x)) ∧
        (¬o.CanTell i t →
          ((Finder.ofBank b o).search ⟨.int i, tierArgument t, .text x⟩ m).result =
            .error .longNumber) := by
  obtain ⟨c, hms, rfl⟩ := (ofDocument_eq_ok_iff (.object ms) labels b).1 hb
  cases hms
  obtain ⟨ss, hstored, rfl⟩ := Contents.stored?_of_lookup hl
  have hheld : Contents.held ss = (ss.map Digits.western).map .text := by
    rw [← Contents.map_text_comp_map_western]
    rfl
  refine ⟨_, ss, ?_, (Document.has_members_iff c _ _ ss).2 hstored, hheld, ?_⟩
  · intro htiered
    rw [Document.isTiered_members] at htiered
    cases c with
    | flat sheet => cases htiered
    | tiered ts hne => exact defaultTier_tiered ts hne labels
  · intro x hx o m
    have hcount := count_found_self (ss.map Digits.western) x
    refine ⟨fun htell => ⟨_, Finder.search_of_lookup hl hheld htell x m, ?_, hcount⟩,
      fun htell => Finder.search_of_not_canTell hl hheld htell x m⟩
    rw [← List.count_pos_iff, hcount, List.count_pos_iff]
    exact List.mem_map_of_mem hx

/-- A tier with two copies of a phrase: both have a star and a line feed, one of them a Persian digit
and the other the Western one. -/
def starredTier : TierSheet := ⟨" +3p", 3, [("01", ["*۱\n.[", "", "*1\n.["])], by decide +kernel⟩

theorem search_own_phrase_starredTier : ∃ b rs,
    ofDocument (.object [starredTier.member]) [] = .ok b ∧
    ((Finder.ofBank b ⟨10, 950⟩).search ⟨.int 0, .int 3, .text "*۱\n.["⟩ .zero).result =
      .ok ⟨⟨.int 0, .int 3, .text "*۱\n.["⟩, List.map .text rs⟩ ∧
    rs.count "*1\n.[" = 2 := by
  have hne : [starredTier] ≠ [] := by simp
  have hb : ofDocument (.object [starredTier.member]) [] =
      .ok ((Contents.tiered [starredTier] hne).bank []) :=
    (ofDocument_eq_ok_iff _ _ _).2 ⟨_, rfl, rfl⟩
  have hcategory : Key.category 0 = "01" := by decide +kernel
  have hstored : (Contents.tiered [starredTier] hne).stored? 3 (Key.category 0) =
      some ["*۱\n.[", "", "*1\n.["] := by
    rw [hcategory]
    rfl
  have hl : ((Contents.tiered [starredTier] hne).bank []).lookup (.int 0) (tierArgument (some 3)) =
      .ok ⟨[Key.tier 3, Key.category 0], some (Contents.held ["*۱\n.[", "", "*1\n.["])⟩ := by
    rw [lookup_tiered [starredTier] hne [] 0 (t := some 3) (n := 3) rfl, if_pos (by decide +kernel),
      Contents.list?_tiered [starredTier] hne [] (by decide +kernel), hstored]
    rfl
  obtain ⟨first, ss, -, hhas, -, hsearch⟩ := search_own_phrase hb hl
  have hss := (Document.has_members_iff (.tiered [starredTier] hne) _ _ ss).1 hhas
  obtain rfl : ["*۱\n.[", "", "*1\n.["] = ss := Option.some.inj (hstored.symm.trans hss)
  have htell : Outlet.CanTell ⟨10, 950⟩ 0 (some 3) := fun _ => ⟨by decide, by simp; decide⟩
  obtain ⟨rs, hrs, -, hcount⟩ :=
    (hsearch "*۱\n.[" List.mem_cons_self ⟨10, 950⟩ .zero).1 htell
  have hwestern : Digits.western "*۱\n.[" = "*1\n.[" := by decide +kernel
  rw [hwestern] at hcount
  exact ⟨_, rs, hb, hrs, hcount.trans (by decide +kernel)⟩

end Bank

end Phrasebook
