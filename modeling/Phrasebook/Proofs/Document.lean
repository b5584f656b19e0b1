import Phrasebook.Bank.Document
import Phrasebook.Proofs.Key

/-!
# Phrasebook.Proofs.Document

Which documents are accepted, and what becomes of them.

`Contents` is what an accepted document holds: categories with their phrases, or tiers of such, where
each tier comes with the number that its key is read as. `ofDocument_eq_ok_iff` says that the accepted
documents are exactly the ones that spell some contents, and that the bank is made of the listings of
these contents. Everything about accepted documents is then said about contents.
-/

namespace Phrasebook

/-- Categories with their phrases, as a document spells them. -/
abbrev Sheet := Pairs String (List String)

namespace Sheet

/-- The members of an object with these categories. -/
def members (s : Sheet) : Members Value := s.map fun c => (c.1, .ofTexts c.2)

/-- The listings of the categories; `place` says which key belongs to a category. -/
def listings (s : Sheet) (place : String → Key) : List Document.Listing :=
  s.map fun c => (place c.1, c.2.map Digits.western)

end Sheet

/-- A tier of a document: its key, the number the key is read as, and its categories. -/
structure TierSheet where
  key : String
  number : Int
  sheet : Sheet
  reads : Key.tierNumber? key = some number

namespace TierSheet

/-- The member of a document that spells the tier. -/
def member (t : TierSheet) : String × Value := (t.key, .object t.sheet.members)

/-- The listings of the tier, under the key that its number is written as. -/
def listings (t : TierSheet) : List Document.Listing :=
  t.sheet.listings fun category => [Key.tier t.number, category]

end TierSheet

/-- What an accepted document holds. -/
inductive Contents where
  | flat (sheet : Sheet)
  | tiered (tiers : List TierSheet) (ne_nil : tiers ≠ [])

namespace Contents

/-- The members of the document. -/
def members : Contents → Members Value
  | flat sheet => sheet.members
  | tiered ts _ => ts.map TierSheet.member

/-- The listings, in the order of the document. -/
def listings : Contents → List Document.Listing
  | flat sheet => sheet.listings fun category => [category]
  | tiered ts _ => ts.flatMap TierSheet.listings

/-- The document has tiers. -/
def isTiered : Contents → Bool
  | flat _ => false
  | tiered _ _ => true

/-- The bank with these contents. -/
def bank (c : Contents) (labels : List String) : Bank :=
  .ofListings c.listings c.isTiered labels

end Contents

namespace Document

theorem texts?_eq_some_iff (vs : List Value) (ss : List String) :
    Value.texts? vs = some ss ↔ vs = ss.map .text := by
  induction vs generalizing ss with
  | nil => cases ss <;> simp [Value.texts?]
  | cons v vs ih =>
    cases v with
    | text s =>
      rw [Value.texts?, Option.map_eq_some_iff]
      constructor
      · intro hs
        obtain ⟨ss', h, rfl⟩ := hs
        rw [(ih ss').1 h]
        rfl
      · intro h
        cases ss with
        | nil => cases h
        | cons s' ss' =>
          rw [List.map_cons, List.cons.injEq] at h
          cases h.1
          exact ⟨ss', (ih ss').2 h.2, rfl⟩
    | _ => cases ss <;> simp [Value.texts?]

theorem phrases_eq_ok_iff (location : String) (v : Value) (ss : List String) :
    phrases location v = .ok ss ↔ ∃ ts, v = .ofTexts ts ∧ ss = ts.map Digits.western := by
  constructor
  · intro h
    unfold phrases at h
    split at h
    · split at h
      · rename_i ts hts
        cases h
        exact ⟨ts, congrArg Value.array ((texts?_eq_some_iff _ ts).1 hts), rfl⟩
      · cases h
    · cases h
  · intro h
    obtain ⟨ts, rfl, rfl⟩ := h
    have hts : Value.texts? (ts.map .text) = some ts := (texts?_eq_some_iff _ ts).2 rfl
    simp [Value.ofTexts, phrases, hts]

theorem categories_eq_ok_iff (place : String → Key) (location : String → String)
    (ms : Members Value) (ls : List Listing) :
    categories place location ms = .ok ls ↔
      ∃ sheet : Sheet, ms = sheet.members ∧ ls = sheet.listings place := by
  induction ms generalizing ls with
  | nil =>
    constructor
    · intro h
      cases h
      exact ⟨[], rfl, rfl⟩
    · intro h
      obtain ⟨sheet, hms, rfl⟩ := h
      obtain rfl : sheet = [] := by simpa [Sheet.members] using hms.symm
      rfl
  | cons m ms ih =>
    obtain ⟨category, v⟩ := m
    constructor
    · intro h
      rw [categories] at h
      split at h
      · cases h
      · rename_i ss hss
        split at h
        · cases h
        · rename_i others hothers
          cases h
          obtain ⟨ts, rfl, rfl⟩ := (phrases_eq_ok_iff _ _ _).1 hss
          obtain ⟨sheet, rfl, rfl⟩ := (ih others).1 hothers
          exact ⟨(category, ts) :: sheet, rfl, rfl⟩
    · intro h
      obtain ⟨sheet, hms, rfl⟩ := h
      cases sheet with
      | nil => cases hms
      | cons c sheet =>
        rw [Sheet.members, List.map_cons, List.cons.injEq] at hms
        obtain ⟨hm, rfl⟩ := hms
        cases hm
        rw [categories, (phrases_eq_ok_iff _ _ _).2 ⟨c.2, rfl, rfl⟩,
          (ih (Sheet.listings sheet place)).2 ⟨sheet, rfl, rfl⟩]
        rfl

theorem tier_eq_ok_iff (key : String) (v : Value) (ls : List Listing) :
    tier key v = .ok ls ↔ ∃ t : TierSheet, (key, v) = t.member ∧ ls = t.listings := by
  constructor
  · intro h
    unfold tier at h
    split at h
    · rename_i n ms hn
      obtain ⟨sheet, rfl, rfl⟩ := (categories_eq_ok_iff _ _ _ _).1 h
      exact ⟨⟨key, n, sheet, hn⟩, rfl, rfl⟩
    · cases h
  · intro h
    obtain ⟨t, hm, rfl⟩ := h
    cases hm
    simp only [tier, t.reads]
    exact (categories_eq_ok_iff _ _ _ _).2 ⟨t.sheet, rfl, rfl⟩

theorem tiers_eq_ok_iff (ms : Members Value) (ls : List Listing) :
    tiers ms = .ok ls ↔
      ∃ ts : List TierSheet, ms = ts.map TierSheet.member ∧ ls = ts.flatMap TierSheet.listings := by
  induction ms generalizing ls with
  | nil =>
    constructor
    · intro h
      cases h
      exact ⟨[], rfl, rfl⟩
    · intro h
      obtain ⟨ts, hms, rfl⟩ := h
      obtain rfl : ts = [] := by simpa using hms.symm
      rfl
  | cons m ms ih =>
    obtain ⟨key, v⟩ := m
    constructor
    · intro h
      rw [tiers] at h
      split at h
      · cases h
      · rename_i first hfirst
        split at h
        · cases h
        · rename_i others hothers
          cases h
          obtain ⟨t, hm, rfl⟩ := (tier_eq_ok_iff _ _ _).1 hfirst
          obtain ⟨ts, rfl, rfl⟩ := (ih others).1 hothers
          exact ⟨t :: ts, by rw [hm, List.map_cons], by rw [List.flatMap_cons]⟩
    · intro h
      obtain ⟨ts, hms, rfl⟩ := h
      cases ts with
      | nil => cases hms
      | cons t ts =>
        rw [List.map_cons, List.cons.injEq] at hms
        obtain ⟨hm, rfl⟩ := hms
        rw [tiers, (tier_eq_ok_iff _ _ _).2 ⟨t, hm, rfl⟩, (ih _).2 ⟨ts, rfl, rfl⟩,
          List.flatMap_cons]

theorem isTiered_members (c : Contents) : isTiered c.members = c.isTiered := by
  cases c with
  | flat sheet => simp [Contents.members, Sheet.members, isTiered, Contents.isTiered, Value.ofTexts,
      Value.isObject]
  | tiered ts hne =>
    obtain ⟨t, ts, rfl⟩ := List.exists_cons_of_ne_nil hne
    rfl

theorem listings_eq_ok_iff (ms : Members Value) (ls : List Listing) :
    listings ms = .ok ls ↔ ∃ c : Contents, ms = c.members ∧ ls = c.listings := by
  constructor
  · intro h
    rw [listings] at h
    split at h
    · rename_i htiered
      obtain ⟨ts, rfl, rfl⟩ := (tiers_eq_ok_iff _ _).1 h
      refine ⟨.tiered ts ?_, rfl, rfl⟩
      rintro rfl
      cases htiered
    · obtain ⟨sheet, rfl, rfl⟩ := (categories_eq_ok_iff _ _ _ _).1 h
      exact ⟨.flat sheet, rfl, rfl⟩
  · intro h
    obtain ⟨c, rfl, rfl⟩ := h
    rw [listings, isTiered_members]
    cases c with
    | flat sheet => exact (categories_eq_ok_iff _ _ _ _).2 ⟨sheet, rfl, rfl⟩
    | tiered ts hne => exact (tiers_eq_ok_iff _ _).2 ⟨ts, rfl, rfl⟩

end Document

namespace Bank

theorem ofDocument_eq_ok_iff (document : Value) (labels : List String) (b : Bank) :
    ofDocument document labels = .ok b ↔
      ∃ c : Contents, document = .object c.members ∧ b = c.bank labels := by
  constructor
  · intro h
    unfold ofDocument at h
    split at h
    · split at h
      · cases h
      · rename_i ls hls
        cases h
        obtain ⟨c, rfl, rfl⟩ := (Document.listings_eq_ok_iff _ _).1 hls
        exact ⟨c, rfl, by rw [Document.isTiered_members, Contents.bank]⟩
    · cases h
  · intro h
    obtain ⟨c, rfl, rfl⟩ := h
    rw [ofDocument, (Document.listings_eq_ok_iff _ _).2 ⟨c, rfl, rfl⟩]
    rw [Document.isTiered_members, Contents.bank]

end Bank

end Phrasebook
