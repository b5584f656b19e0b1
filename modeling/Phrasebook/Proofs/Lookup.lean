import Phrasebook.Proofs.Document
import Phrasebook.Proofs.Pairs

/-!
# Phrasebook.Proofs.Lookup

Looking up a category and a tier in the bank of a document finds what the document says.

The document is searched as it stands: a flat one for the category, a tiered one for the last tier
that is read as the number and has the category (`Document.inTier?`). The bank is searched under
written keys. Both are tied to `Contents.stored?`, one by the spelling of the document and one by the
listings; that a key is written for one number only is `Key.tier_inj`.
-/

namespace Phrasebook

namespace Document

/-- The value under a category in the last tier that is read as the number and has the category. -/
def inTier? (ms : Members Value) (number : Int) (category : String) : Option Value :=
  ms.reverse.findSome? fun m =>
    if Key.tierNumber? m.1 = some number then
      match m.2 with
      | .object cs => Pairs.last? cs category
      | _ => none
    else none

/-- The phrases found are the texts of the stored array in Western digits; there are none where
nothing is stored. -/
def Yields : Option Value → List Value → Prop
  | none, found => found = []
  | some v, found => ∃ ss, v = .ofTexts ss ∧ found = ss.map fun s => .text (Digits.western s)

theorem yields_map_ofTexts (stored : Option (List String)) :
    Yields (stored.map Value.ofTexts)
      ((stored.map fun ss => ss.map fun s => Value.text (Digits.western s)).getD []) := by
  cases stored with
  | none => rfl
  | some ss => exact ⟨ss, rfl, rfl⟩

end Document

namespace Contents

/-- The phrases under a category, in a tiered document those of the last tier with the number that
has the category. -/
def stored? (c : Contents) (number : Int) (category : String) : Option (List String) :=
  match c with
  | flat sheet => Pairs.last? sheet category
  | tiered ts _ =>
    ts.reverse.findSome? fun t => if t.number = number then Pairs.last? t.sheet category else none

theorem last?_members (sheet : Sheet) (category : String) :
    Pairs.last? (Sheet.members sheet) category = (Pairs.last? sheet category).map Value.ofTexts :=
  Pairs.last?_map id (fun _ _ h => h) Value.ofTexts sheet category

theorem inTier?_members (ts : List TierSheet) (hne : ts ≠ []) (number : Int) (category : String) :
    Document.inTier? (tiered ts hne).members number category =
      ((tiered ts hne).stored? number category).map Value.ofTexts := by
  have hmember : ∀ t : TierSheet,
      (if Key.tierNumber? t.member.1 = some number then
        match t.member.2 with
        | .object cs => Pairs.last? cs category
        | _ => none
      else none) =
      (if t.number = number then Pairs.last? t.sheet category else none).map Value.ofTexts := by
    intro t
    have hreads : Key.tierNumber? t.member.1 = some t.number := t.reads
    have hlast : Pairs.last? t.sheet.members category =
        (Pairs.last? t.sheet category).map Value.ofTexts := last?_members t.sheet category
    rw [hreads]
    by_cases h : t.number = number
    · simpa [h, TierSheet.member] using hlast
    · simp [h]
  rw [Document.inTier?, members, stored?, ← List.map_reverse, List.findSome?_map,
    List.map_findSome?]
  exact congrArg (List.findSome? · ts.reverse) (funext hmember)

/-! ## The bank -/

/-- Phrases as a bank holds them. -/
def held (ss : List String) : List Value := ss.map fun s => .text (Digits.western s)

theorem map_text_comp_map_western : List.map Value.text ∘ List.map Digits.western = held := by
  funext ss
  simp [held]

theorem list?_bank (c : Contents) (labels : List String) (key : Key) :
    (c.bank labels).list? key = (Pairs.last? c.listings key).map (List.map Value.text) := by
  rw [Bank.list?, bank, Bank.ofListings, Pairs.at?_merge]
  exact Pairs.last?_map id (fun _ _ h => h) (List.map Value.text) c.listings key

theorem last?_listings_of_place (sheet : Sheet) (place : String → Key)
    (hplace : ∀ a b, place a = place b → a = b) (category : String) :
    Pairs.last? (Sheet.listings sheet place) (place category) =
      (Pairs.last? sheet category).map (List.map Digits.western) :=
  Pairs.last?_map place hplace (List.map Digits.western) sheet category

theorem list?_flat (sheet : Sheet) (labels : List String) (number : Int) (category : String) :
    ((flat sheet).bank labels).list? [category] =
      ((flat sheet).stored? number category).map held := by
  have h := last?_listings_of_place sheet (fun category => [category]) (by simp) category
  rw [list?_bank, listings, h, stored?, Option.map_map, map_text_comp_map_western]

/-- A tier is found under its number only: the key of another tier is another key. -/
theorem last?_tier (t : TierSheet) {number : Int} (hn : Numeral.isWritable number = true)
    (category : String) :
    Pairs.last? t.listings [Key.tier number, category] =
      if t.number = number then (Pairs.last? t.sheet category).map (List.map Digits.western)
      else none := by
  have ht := Key.isWritable_of_tierNumber? t.reads
  split
  · rename_i h
    subst h
    exact last?_listings_of_place t.sheet (fun category => [Key.tier t.number, category])
      (by simp) category
  · rename_i h
    apply Pairs.last?_eq_none
    intro l hl e
    obtain ⟨c, -, rfl⟩ := List.mem_map.1 hl
    simp only [List.cons.injEq] at e
    exact h ((Key.tier_inj ht hn).1 e.1)

theorem list?_tiered (ts : List TierSheet) (hne : ts ≠ []) (labels : List String) {number : Int}
    (hn : Numeral.isWritable number = true) (category : String) :
    ((tiered ts hne).bank labels).list? [Key.tier number, category] =
      ((tiered ts hne).stored? number category).map held := by
  rw [list?_bank, listings, Pairs.last?_flatMap, stored?, List.map_findSome?, List.map_findSome?]
  congr 1
  funext t
  rw [Function.comp_apply, Function.comp_apply, last?_tier t hn]
  split
  · rw [Option.map_map, map_text_comp_map_western]
  · rfl

end Contents

namespace Bank

/-! ## Tiers and keys -/

theorem mem_insertAscending (n m : Int) (ms : List Int) :
    n ∈ insertAscending m ms ↔ n = m ∨ n ∈ ms := by
  induction ms with
  | nil => simp [insertAscending]
  | cons k ks ih =>
    rw [insertAscending]
    split
    · simp
    · split
      · rename_i h
        simp [h]
      · rw [List.mem_cons, List.mem_cons, ih]
        grind

theorem mem_foldr_insertAscending (n : Int) (ms : List Int) :
    n ∈ ms.foldr insertAscending [] ↔ n ∈ ms := by
  induction ms with
  | nil => rfl
  | cons m ms ih => rw [List.foldr_cons, mem_insertAscending, ih, List.mem_cons]

theorem isWritable_of_mem_tierNumbers {b : Bank} {n : Int} (h : n ∈ b.tierNumbers) :
    Numeral.isWritable n = true := by
  rw [tierNumbers] at h
  split at h
  · rw [mem_foldr_insertAscending] at h
    obtain ⟨e, -, he⟩ := List.mem_filterMap.1 h
    obtain ⟨key, -, hkey⟩ := Option.bind_eq_some_iff.1 he
    exact Key.isWritable_of_tierNumber? hkey
  · cases h

theorem isWritable_chooseTier {ts : List Int} (h : ∀ n ∈ ts, Numeral.isWritable n = true) :
    Numeral.isWritable (chooseTier ts) = true := by
  have hpreferred : Numeral.isWritable preferredTier = true := by decide
  rw [chooseTier]
  split
  · exact hpreferred
  · cases ts with
    | nil => exact hpreferred
    | cons n ts => exact h n List.mem_cons_self

/-- No bank of a document has an empty key, so its tiers are known. -/
theorem tiers_bank (c : Contents) (labels : List String) :
    (c.bank labels).tiers = .ok (c.bank labels).tierNumbers := by
  have hkeys : ∀ key ∈ Pairs.keys c.listings, key ≠ [] := by
    intro key hkey
    cases c with
    | flat sheet =>
      simp only [Contents.listings, Sheet.listings, Pairs.keys, List.map_map, List.mem_map] at hkey
      obtain ⟨_, -, rfl⟩ := hkey
      simp
    | tiered ts hne =>
      simp only [Contents.listings, Pairs.keys, List.mem_map, List.mem_flatMap,
        TierSheet.listings, Sheet.listings] at hkey
      obtain ⟨_, ⟨_, -, _, -, rfl⟩, rfl⟩ := hkey
      simp
  have hentries : (c.bank labels).entries.any (fun e => e.1.isEmpty) = false := by
    rw [List.any_eq_false]
    intro e he
    have hmem : e.1 ∈ Pairs.keys (c.bank labels).entries := List.mem_map_of_mem he
    rw [Contents.bank, ofListings, Pairs.mem_keys_merge] at hmem
    have := hkeys e.1 (by simpa [Pairs.keys] using hmem)
    simpa using this
  rw [tiers, hentries, Bool.and_false]
  rfl

/-- The tier to begin with in a bank of a document. -/
def firstTier (b : Bank) : Int := chooseTier b.tierNumbers

theorem isWritable_firstTier (b : Bank) : Numeral.isWritable b.firstTier = true :=
  isWritable_chooseTier fun _ h => isWritable_of_mem_tierNumbers h

theorem isWritable_getD_firstTier (b : Bank) {t : Option Int}
    (ht : ∀ n ∈ t, Numeral.isWritable n = true) :
    Numeral.isWritable (t.getD b.firstTier) = true := by
  cases t with
  | none => exact isWritable_firstTier b
  | some n => exact ht n rfl

/-- A tier as a look-up is given it: a number, or nothing. -/
def tierArgument (t : Option Int) : Value := (t.map Value.int).getD .null

theorem categoryKey_int (i : Int) : categoryKey (.int i) = Key.ofCategory i := rfl

theorem tierKey_argument (c : Contents) (labels : List String) (t : Option Int) :
    (c.bank labels).tierKey (tierArgument t) =
      Key.ofTier (t.getD (c.bank labels).firstTier) := by
  cases t with
  | none =>
    simp only [tierKey, tierArgument, Option.map_none, Option.getD_none, tiers_bank]
    rfl
  | some n => rfl

theorem defaultTier_tiered (ts : List TierSheet) (hne : ts ≠ []) (labels : List String) :
    ((Contents.tiered ts hne).bank labels).defaultTier =
      .ok (some ((Contents.tiered ts hne).bank labels).firstTier) := by
  rw [defaultTier, tiers_bank]
  rfl

/-! ## Look-up -/

/-- A flat bank asks for the category alone, whatever the tier. -/
theorem lookup_flat (sheet : Sheet) (labels : List String) (i : Int) (tier : Value) :
    ((Contents.flat sheet).bank labels).lookup (.int i) tier =
      if Numeral.isWritable (i + 1) then
        .ok ⟨[Key.category i], ((Contents.flat sheet).bank labels).list? [Key.category i]⟩
      else .error .longNumber := by
  have hflat : ((Contents.flat sheet).bank labels).isTiered = false := rfl
  rw [lookup, key, hflat, categoryKey_int, Key.ofCategory]
  cases Numeral.isWritable (i + 1) <;> rfl

/-- A tiered bank asks for the tier, or its first one, and the category. -/
theorem lookup_tiered (ts : List TierSheet) (hne : ts ≠ []) (labels : List String) (i : Int)
    {t : Option Int} {n : Int} (hn : t.getD ((Contents.tiered ts hne).bank labels).firstTier = n) :
    ((Contents.tiered ts hne).bank labels).lookup (.int i) (tierArgument t) =
      if Numeral.isWritable n && Numeral.isWritable (i + 1) then
        .ok ⟨[Key.tier n, Key.category i],
          ((Contents.tiered ts hne).bank labels).list? [Key.tier n, Key.category i]⟩
      else .error .longNumber := by
  have htiered : ((Contents.tiered ts hne).bank labels).isTiered = true := rfl
  rw [lookup, key, htiered, if_pos rfl, tierKey_argument, hn, categoryKey_int, Key.ofCategory,
    Key.ofTier]
  cases Numeral.isWritable n <;> cases Numeral.isWritable (i + 1) <;> rfl

/-- **A look-up finds what the document says.** A flat document is asked for the category, whatever the
tier; a tiered one for the last tier that is read as the number, or as the default tier where none is
given, and that has the category. -/
theorem lookup_yields {document : Value} {labels : List String} {b : Bank}
    (h : ofDocument document labels = .ok b) {i : Int}
    (hi : (Numeral.natural i.natAbs).length < Numeral.maxDigits) {t : Option Int}
    (ht : ∀ n ∈ t, (Numeral.natural n.natAbs).length < Numeral.maxDigits) :
    ∃ ms, document = .object ms ∧
      (Document.isTiered ms = false → ∀ tier : Value, ∃ l, b.lookup (.int i) tier = .ok l ∧
        Document.Yields (Pairs.last? ms (Key.category i)) l.phrases) ∧
      (Document.isTiered ms = true → ∃ d l, b.defaultTier = .ok (some d) ∧
        b.lookup (.int i) (tierArgument t) = .ok l ∧
        Document.Yields (Document.inTier? ms (t.getD d) (Key.category i)) l.phrases) := by
  obtain ⟨c, rfl, rfl⟩ := (ofDocument_eq_ok_iff document labels b).1 h
  have hcategory : Numeral.isWritable (i + 1) = true := Numeral.isWritable_succ hi
  refine ⟨c.members, rfl, ?_, ?_⟩
  · intro hshape tier
    rw [Document.isTiered_members] at hshape
    cases c with
    | tiered ts hne => cases hshape
    | flat sheet =>
      refine ⟨_, by rw [lookup_flat, if_pos hcategory], ?_⟩
      rw [Lookup.phrases, Contents.list?_flat sheet labels 0, Contents.members,
        Contents.last?_members]
      exact Document.yields_map_ofTexts _
  · intro hshape
    rw [Document.isTiered_members] at hshape
    cases c with
    | flat sheet => cases hshape
    | tiered ts hne =>
      have htier : Numeral.isWritable
          (t.getD ((Contents.tiered ts hne).bank labels).firstTier) = true :=
        isWritable_getD_firstTier _ fun n hn => decide_eq_true (Nat.le_of_lt (ht n hn))
      have hlookup := lookup_tiered ts hne labels i (t := t) rfl
      rw [htier, hcategory] at hlookup
      refine ⟨_, _, defaultTier_tiered ts hne labels, hlookup, ?_⟩
      rw [Lookup.phrases, Contents.list?_tiered ts hne labels htier, Contents.inTier?_members]
      exact Document.yields_map_ofTexts _

/-- A tier whose key has a blank, a sign and a Persian digit in it. -/
def spelledTier : TierSheet := ⟨" +۰3p", 3, [("01", ["ساعت ۱۲"])], by decide +kernel⟩

theorem lookup_yields_spelledTier : ∃ b l,
    ofDocument (.object [spelledTier.member]) [] = .ok b ∧
    b.lookup (.int 0) (tierArgument (some 3)) = .ok l ∧
    l.phrases = [.text "ساعت 12"] := by
  have hb : ofDocument (.object [spelledTier.member]) [] =
      .ok ((Contents.tiered [spelledTier] (by simp)).bank []) :=
    (ofDocument_eq_ok_iff _ _ _).2 ⟨_, rfl, rfl⟩
  obtain ⟨ms, hms, -, htiered⟩ := lookup_yields hb (i := 0) (t := some 3) (by decide)
    (by rintro n hn; cases hn; decide)
  cases hms
  obtain ⟨d, l, -, hl, ss, hss, hphrases⟩ := htiered rfl
  refine ⟨_, l, hb, hl, ?_⟩
  have htexts : Value.texts? [.text "ساعت ۱۲"] = some ss :=
    (Document.texts?_eq_some_iff _ _).2 (Value.array.inj hss)
  cases htexts
  have hwestern : Digits.western "ساعت ۱۲" = "ساعت 12" := by decide +kernel
  rw [hphrases, List.map_singleton, hwestern]

end Bank

end Phrasebook
