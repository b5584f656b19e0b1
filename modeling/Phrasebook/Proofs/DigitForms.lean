import Phrasebook.Proofs.Search

/-!
# Phrasebook.Proofs.DigitForms

The form of a digit never matters to a search.

Two texts are twins if they are one text up to the form of its digits, Western or Persian; two
documents are the same but for digits if their phrases are twins. A document forgets the form when it
is read (`ofDocument_congr`) and a query when it becomes a matcher (`ofQuery_congr`), so a search for
twins among twins is one search (`search_twins`).
-/

namespace Phrasebook

open List (Forall₂)

namespace Digit

/-- One character, or a Western digit and the Persian one of the same value. -/
def Twin (c d : Char) : Prop :=
  c = d ∨ ∃ k < 10, (c.toNat = 0x30 + k ∧ d.toNat = 0x6F0 + k) ∨
    (c.toNat = 0x6F0 + k ∧ d.toNat = 0x30 + k)

theorem western_eq_of_toNat {c d : Char} {k : Nat} (hk : k < 10) (hc : c.toNat = 0x30 + k)
    (hd : d.toNat = 0x6F0 + k) : western c = western d := by
  have hwc : western c = c := by
    apply western_of_not_persian
    simp only [isPersian, Bool.and_eq_false_iff, decide_eq_false_iff_not]
    omega
  have hpd : isPersian d = true := by
    simp only [isPersian, Bool.and_eq_true, decide_eq_true_iff]
    omega
  have hcode : d.toNat - 0x6F0 + 0x30 = c.toNat := by omega
  rw [hwc, western, if_pos hpd, hcode, Char.ofNat_toNat]

theorem western_eq_of_twin {c d : Char} (h : Twin c d) : western c = western d := by
  rcases h with rfl | ⟨k, hk, ⟨hc, hd⟩ | ⟨hc, hd⟩⟩
  · rfl
  · exact western_eq_of_toNat hk hc hd
  · exact (western_eq_of_toNat hk hd hc).symm

end Digit

namespace Digits

/-- Texts that differ in the form of digits only. -/
def Twin (s s' : String) : Prop := Forall₂ Digit.Twin s.toList s'.toList

theorem map_eq_of_forall₂ {α β : Type} {R : α → α → Prop} {f : α → β} {l l' : List α}
    (h : Forall₂ R l l') (hf : ∀ {a a'}, R a a' → f a = f a') : l.map f = l'.map f := by
  induction h with
  | nil => rfl
  | cons hab _ ih => rw [List.map_cons, List.map_cons, hf hab, ih]

theorem western_eq_of_twin {s s' : String} (h : Twin s s') : western s = western s' := by
  rw [western, western, map_eq_of_forall₂ h Digit.western_eq_of_twin]

end Digits

/-- Documents that differ only inside phrases, and there in the form of digits only. -/
inductive Value.SameButDigits : Value → Value → Prop
  | same (v : Value) : SameButDigits v v
  | phrases {ss ss' : List String} (h : Forall₂ Digits.Twin ss ss') :
      SameButDigits (.array (ss.map .text)) (.array (ss'.map .text))
  | member (key : String) {v v' : Value} {ms ms' : Members Value} (hv : SameButDigits v v')
      (hms : SameButDigits (.object ms) (.object ms')) :
      SameButDigits (.object ((key, v) :: ms)) (.object ((key, v') :: ms'))

open Value (SameButDigits)

/-! ## Reading a document -/

namespace Document

theorem phrases_congr (location : String) {v v' : Value} (h : SameButDigits v v') :
    phrases location v = phrases location v' := by
  cases h with
  | same => rfl
  | @phrases ss ss' h =>
    have hss : Value.texts? (ss.map .text) = some ss := (texts?_eq_some_iff _ _).2 rfl
    have hss' : Value.texts? (ss'.map .text) = some ss' := (texts?_eq_some_iff _ _).2 rfl
    simp only [phrases, hss, hss']
    rw [Digits.map_eq_of_forall₂ h Digits.western_eq_of_twin]
  | member => rfl

theorem categories_congr (place : String → Key) (location : String → String)
    {ms ms' : Members Value} (h : SameButDigits (.object ms) (.object ms')) :
    categories place location ms = categories place location ms' := by
  -- The induction is on the members: the relation steps from values to members and back.
  induction ms generalizing ms' with
  | nil => cases h; rfl
  | cons m ms ih =>
    cases h with
    | same => rfl
    | member category hv hms =>
      rw [categories, categories, phrases_congr _ hv, ih hms]

theorem tier_congr (key : String) {v v' : Value} (h : SameButDigits v v') :
    tier key v = tier key v' := by
  cases h with
  | same => rfl
  | phrases h => cases hkey : Key.tierNumber? key <;> simp only [tier, hkey]
  | member category hv hms =>
    have hobject := SameButDigits.member category hv hms
    cases hkey : Key.tierNumber? key with
    | none => simp only [tier, hkey]
    | some n =>
      simp only [tier, hkey]
      exact categories_congr _ _ hobject

theorem tiers_congr {ms ms' : Members Value} (h : SameButDigits (.object ms) (.object ms')) :
    tiers ms = tiers ms' := by
  induction ms generalizing ms' with
  | nil => cases h; rfl
  | cons m ms ih =>
    cases h with
    | same => rfl
    | member key hv hms => rw [tiers, tiers, tier_congr key hv, ih hms]

theorem isObject_congr {v v' : Value} (h : SameButDigits v v') : v.isObject = v'.isObject := by
  cases h <;> rfl

theorem isTiered_congr {ms ms' : Members Value} (h : SameButDigits (.object ms) (.object ms')) :
    isTiered ms = isTiered ms' := by
  induction ms generalizing ms' with
  | nil => cases h; rfl
  | cons m ms ih =>
    cases h with
    | same => rfl
    | member key hv hms =>
      have := ih hms
      simp only [isTiered] at this ⊢
      rw [List.any_cons, List.any_cons, isObject_congr hv, this]

theorem listings_congr {ms ms' : Members Value} (h : SameButDigits (.object ms) (.object ms')) :
    listings ms = listings ms' := by
  rw [listings, listings, isTiered_congr h, tiers_congr h, categories_congr _ _ h]

end Document

theorem Bank.ofDocument_congr {document document' : Value} (h : SameButDigits document document')
    (labels : List String) : ofDocument document labels = ofDocument document' labels := by
  cases h with
  | same => rfl
  | phrases h => rfl
  | member key hv hms =>
    have hmembers := SameButDigits.member key hv hms
    simp only [ofDocument, Document.listings_congr hmembers, Document.isTiered_congr hmembers]

theorem Matcher.ofQuery_congr {query query' : String} (h : Digits.Twin query query') :
    ofQuery (.text query) = ofQuery (.text query') := by
  rw [ofQuery, ofQuery, Digits.western_eq_of_twin h]

/-! ## What a look-up holds -/

theorem Contents.western_of_mem_listings {c : Contents} {l : Document.Listing}
    (h : l ∈ c.listings) : ∃ ss : List String, l.2 = ss.map Digits.western := by
  cases c with
  | flat sheet =>
    obtain ⟨category, -, rfl⟩ := List.mem_map.1 h
    exact ⟨category.2, rfl⟩
  | tiered ts hne =>
    obtain ⟨t, -, ht⟩ := List.mem_flatMap.1 h
    obtain ⟨category, -, rfl⟩ := List.mem_map.1 ht
    exact ⟨category.2, rfl⟩

namespace Bank

theorem phrases_of_lookup {c : Contents} {labels : List String} {category tier : Value} {l : Lookup}
    (h : (c.bank labels).lookup category tier = .ok l) :
    ∃ ss : List String, l.phrases = (ss.map Digits.western).map .text := by
  rw [lookup] at h
  cases hkey : (c.bank labels).key category tier with
  | error e => rw [hkey] at h; cases h
  | ok key =>
    rw [hkey] at h
    cases h
    simp only [Lookup.phrases, Contents.list?_bank]
    cases hlast : Pairs.last? c.listings key with
    | none => exact ⟨[], rfl⟩
    | some ts =>
      obtain ⟨ss, rfl⟩ := Contents.western_of_mem_listings (Pairs.mem_of_last? hlast)
      exact ⟨ss, rfl⟩

/-- The category, and the tier where one is given to a tiered bank, have no more digits than a key is
written with. -/
def CanLookUp (b : Bank) (i : Int) (t : Option Int) : Prop :=
  Numeral.isWritable (i + 1) = true ∧
    (b.isTiered = true → ∀ n ∈ t, Numeral.isWritable n = true)

/-- The category and the tier can be looked up, and the search can be logged. -/
def CanAsk (b : Bank) (o : Outlet) (i : Int) (t : Option Int) : Prop :=
  b.CanLookUp i t ∧ o.CanTell i t

theorem lookup_of_canLookUp {c : Contents} {labels : List String} {i : Int} {t : Option Int}
    (h : (c.bank labels).CanLookUp i t) :
    ∃ l, (c.bank labels).lookup (.int i) (tierArgument t) = .ok l := by
  obtain ⟨hi, ht⟩ := h
  cases c with
  | flat sheet => exact ⟨_, by rw [lookup_flat, if_pos hi]⟩
  | tiered ts hne =>
    have hlookup := lookup_tiered ts hne labels i (t := t) rfl
    rw [isWritable_getD_firstTier _ (ht rfl), hi] at hlookup
    exact ⟨_, hlookup⟩

theorem lookup_of_not_canLookUp {c : Contents} {labels : List String} {i : Int} {t : Option Int}
    (h : ¬(c.bank labels).CanLookUp i t) :
    (c.bank labels).lookup (.int i) (tierArgument t) = .error .longNumber := by
  cases c with
  | flat sheet =>
    have hi : ¬Numeral.isWritable (i + 1) = true := fun hi => h ⟨hi, fun hflat => by cases hflat⟩
    rw [lookup_flat, if_neg hi]
  | tiered ts hne =>
    rw [lookup_tiered ts hne labels i (t := t) rfl, if_neg]
    intro hboth
    rw [Bool.and_eq_true] at hboth
    refine h ⟨hboth.2, ?_⟩
    rintro - n rfl
    exact hboth.1

/-- What can be looked up is found, wherever the search can be logged. -/
theorem search_of_canLookUp {c : Contents} {labels : List String} {i : Int} {t : Option Int}
    (h : (c.bank labels).CanLookUp i t) :
    ∃ ss : List String, ∀ (o : Outlet) (query : String) (m : Meters), o.CanTell i t →
      ((Finder.ofBank (c.bank labels) o).search ⟨.int i, tierArgument t, .text query⟩ m).result =
        .ok ⟨⟨.int i, tierArgument t, .text query⟩,
          (found (ss.map Digits.western) query).map .text⟩ := by
  obtain ⟨l, hl⟩ := lookup_of_canLookUp h
  obtain ⟨ss, hss⟩ := phrases_of_lookup hl
  exact ⟨ss, fun o query m htell => Finder.search_of_lookup hl hss htell query m⟩

/-- What cannot be asked for fails the search, at the look-up or at the record. -/
theorem search_of_not_canAsk {c : Contents} {labels : List String} {o : Outlet} {i : Int}
    {t : Option Int} (h : ¬(c.bank labels).CanAsk o i t) (query : String) (m : Meters) :
    ((Finder.ofBank (c.bank labels) o).search ⟨.int i, tierArgument t, .text query⟩ m).result =
      .error .longNumber := by
  by_cases hlookup : (c.bank labels).CanLookUp i t
  · obtain ⟨l, hl⟩ := lookup_of_canLookUp hlookup
    obtain ⟨ss, hss⟩ := phrases_of_lookup hl
    exact Finder.search_of_not_canTell hl hss (fun htell => h ⟨hlookup, htell⟩) query m
  · exact Finder.search_of_lookup_error (lookup_of_not_canLookUp hlookup) query m

/-- What a search of the bank returns. -/
def searched (b : Bank) (o : Outlet) (category tier : Value) (query : String) (m : Meters) :
    Except Fault (List Value) :=
  ((Finder.ofBank b o).search ⟨category, tier, .text query⟩ m).result.map Found.phrases

theorem searched_congr {document document' : Value} {labels : List String} {b b' : Bank}
    (hdocument : SameButDigits document document') (hb : ofDocument document labels = .ok b)
    (hb' : ofDocument document' labels = .ok b') {query query' : String}
    (hquery : Digits.Twin query query') (o : Outlet) (category tier : Value) (m m' : Meters) :
    b.searched o category tier query m = b'.searched o category tier query' m' := by
  rw [ofDocument_congr hdocument, hb', Except.ok.injEq] at hb
  subst hb
  rw [searched, searched, Finder.search_text, Finder.search_text, Matcher.ofQuery_congr hquery]
  cases (Finder.ofBank b' o).bank.lookup category tier with
  | error e => rfl
  | ok l =>
    dsimp only
    cases (Matcher.ofQuery (.text query')).select l.phrases with
    | error e => rfl
    | ok phrases =>
      simp only [Finder.logSuccess]
      cases (Finder.ofBank b' o).logger.record _ _ _ _ <;> rfl

theorem exists_searched {c : Contents} {labels : List String} {o : Outlet} {i : Int}
    {t : Option Int} (h : (c.bank labels).CanAsk o i t) (query : String) (m : Meters) :
    ∃ ss : List String,
      (c.bank labels).searched o (.int i) (tierArgument t) query m = .ok (ss.map .text) ∧
      ∀ s ∈ ss, ∀ d ∈ s.toList, Digit.isPersian d = false := by
  obtain ⟨ss, hss⟩ := search_of_canLookUp h.1
  refine ⟨found (ss.map Digits.western) query, ?_, ?_⟩
  · rw [searched, hss o query m h.2]
    rfl
  · intro s hs d hd
    obtain ⟨s, -, rfl⟩ := List.mem_map.1 (List.mem_filter.1 hs).1
    rw [Digits.toList_western] at hd
    obtain ⟨d, -, rfl⟩ := List.mem_map.1 hd
    exact Digit.western_not_persian d

theorem searched_of_not_canAsk {c : Contents} {labels : List String} {o : Outlet} {i : Int}
    {t : Option Int} (h : ¬(c.bank labels).CanAsk o i t) (query : String) (m : Meters) :
    (c.bank labels).searched o (.int i) (tierArgument t) query m = .error .longNumber := by
  rw [searched, search_of_not_canAsk h]
  rfl

/-- **A search for twins among twins is one search.** It returns the same phrases, all of them without
a Persian digit, wherever the category and the tier can be asked for: looked up, and logged where
records of finished searches pass. Elsewhere it fails in the same way. -/
theorem search_twins {document document' : Value} {labels : List String} {b b' : Bank}
    (hdocument : SameButDigits document document') (hb : ofDocument document labels = .ok b)
    (hb' : ofDocument document' labels = .ok b') {query query' : String}
    (hquery : Digits.Twin query query') (o : Outlet) (i : Int) (t : Option Int) (m m' : Meters) :
    (b.CanAsk o i t → ∃ ss : List String,
      b.searched o (.int i) (tierArgument t) query m = .ok (ss.map .text) ∧
      b'.searched o (.int i) (tierArgument t) query' m' = .ok (ss.map .text) ∧
      ∀ s ∈ ss, ∀ d ∈ s.toList, Digit.isPersian d = false) ∧
    (¬b.CanAsk o i t →
      b.searched o (.int i) (tierArgument t) query m = .error .longNumber ∧
      b'.searched o (.int i) (tierArgument t) query' m' = .error .longNumber) := by
  have hsame := searched_congr hdocument hb hb' hquery o (.int i) (tierArgument t) m m'
  obtain ⟨c, -, rfl⟩ := (ofDocument_eq_ok_iff document labels b).1 hb
  constructor
  · intro h
    obtain ⟨ss, hss, hwestern⟩ := exists_searched h query m
    exact ⟨ss, hss, hsame ▸ hss, hwestern⟩
  · intro h
    have herror := searched_of_not_canAsk h query m
    exact ⟨herror, hsame ▸ herror⟩

/-- One phrase in two forms, and a query in two forms, searched while every record passes. -/
theorem search_twins_twelve : ∃ b b',
    ofDocument (.object [("01", .ofTexts ["ساعت ۱۲"])]) [] = .ok b ∧
    ofDocument (.object [("01", .ofTexts ["ساعت 1۲"])]) [] = .ok b' ∧
    ∃ ss : List String,
      b.searched ⟨10, 950⟩ (.int 0) (tierArgument none) "1" .zero = .ok (ss.map .text) ∧
      b'.searched ⟨10, 950⟩ (.int 0) (tierArgument none) "۱" .zero = .ok (ss.map .text) := by
  have hb : ofDocument (.object [("01", .ofTexts ["ساعت ۱۲"])]) [] =
      .ok ((Contents.flat [("01", ["ساعت ۱۲"])]).bank []) :=
    (ofDocument_eq_ok_iff _ _ _).2 ⟨_, rfl, rfl⟩
  have hb' : ofDocument (.object [("01", .ofTexts ["ساعت 1۲"])]) [] =
      .ok ((Contents.flat [("01", ["ساعت 1۲"])]).bank []) :=
    (ofDocument_eq_ok_iff _ _ _).2 ⟨_, rfl, rfl⟩
  have hone : Digit.Twin '۱' '1' := .inr ⟨1, by decide, .inr ⟨rfl, rfl⟩⟩
  have hphrase : Digits.Twin "ساعت ۱۲" "ساعت 1۲" :=
    .cons (.inl rfl) (.cons (.inl rfl) (.cons (.inl rfl) (.cons (.inl rfl) (.cons (.inl rfl)
      (.cons hone (.cons (.inl rfl) .nil))))))
  have hquery : Digits.Twin "1" "۱" := .cons (.inr ⟨1, by decide, .inl ⟨rfl, rfl⟩⟩) .nil
  have hdocument : SameButDigits (.object [("01", .ofTexts ["ساعت ۱۲"])])
      (.object [("01", .ofTexts ["ساعت 1۲"])]) :=
    .member "01" (.phrases (.cons hphrase .nil)) (.same _)
  obtain ⟨ss, hss, hss', -⟩ := (search_twins hdocument hb hb' hquery ⟨10, 950⟩ 0 none .zero .zero).1
    ⟨⟨by decide, fun h => by cases h⟩, fun _ => ⟨by decide, nofun⟩⟩
  exact ⟨_, _, hb, hb', ss, hss, hss'⟩

/-- A category with too many digits cannot be asked for: a search for it returns nothing at all, also
where no record of it passes. -/
theorem search_long_category : ¬∀ (document document' : Value) (labels : List String) (b b' : Bank)
    (query query' : String) (i : Int) (t : Option Int) (m m' : Meters),
    SameButDigits document document' → ofDocument document labels = .ok b →
    ofDocument document' labels = .ok b' → Digits.Twin query query' →
    ∃ ss : List String,
      b.searched ⟨30, 950⟩ (.int i) (tierArgument t) query m = .ok (ss.map .text) ∧
      b'.searched ⟨30, 950⟩ (.int i) (tierArgument t) query' m' = .ok (ss.map .text) ∧
      ∀ s ∈ ss, ∀ d ∈ s.toList, Digit.isPersian d = false := by
  intro h
  have hb : ofDocument (.object [("01", .ofTexts ["a"])]) [] =
      .ok ((Contents.flat [("01", ["a"])]).bank []) :=
    (ofDocument_eq_ok_iff _ _ _).2 ⟨_, rfl, rfl⟩
  have hlong : ¬((Contents.flat [("01", ["a"])]).bank []).CanAsk ⟨30, 950⟩
      (10 ^ Numeral.maxDigits - 1) none := by
    rintro ⟨⟨hi, -⟩, -⟩
    rw [Int.sub_add_cancel, Numeral.isWritable_iff, Int.natAbs_pow] at hi
    -- The power itself is never worked out.
    generalize Numeral.maxDigits = k at hi
    exact Nat.lt_irrefl _ hi
  obtain ⟨ss, hss, -⟩ := h _ _ [] _ _ "" "" (10 ^ Numeral.maxDigits - 1) none .zero .zero (.same _)
    hb hb .nil
  rw [searched_of_not_canAsk hlong] at hss
  cases hss

end Bank

end Phrasebook
