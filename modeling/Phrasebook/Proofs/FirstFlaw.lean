import Phrasebook.Proofs.Document

/-!
# Phrasebook.Proofs.FirstFlaw

Which documents are accepted, and which place is named where one is not.

A document has sites, places where something has to be right: the document itself, each tier and each
list of phrases, in the order of the document, a tier before its lists (`Document.sites`). Reading
succeeds if every site is sound and reports the first that is not; `Judges` says so of any part of
reading, and the parts are put together along the recursion of the readers. The documented format
(`Document.Documented`) speaks of members only; that it means the same is `documented_iff`.
-/

namespace Phrasebook

namespace Key

theorem isTier_iff (key : String) : IsTier key ↔ ∃ n, tierNumber? key = some n := by
  simp only [IsTier, tierNumber?_eq_some_iff]

end Key

namespace Document

/-- The value is an array of texts. -/
def IsList (v : Value) : Prop := ∃ ss, v = .ofTexts ss

/-- The format that documents are meant to have: an object of lists, or an object of tiers, at least
one, that are objects of lists. -/
def Documented (document : Value) : Prop :=
  ∃ ms, document = .object ms ∧
    ((∀ m ∈ ms, IsList m.2) ∨
      (∃ m ∈ ms, ∃ cs, m.2 = .object cs) ∧
        ∀ m ∈ ms, Key.IsTier m.1 ∧ ∃ cs, m.2 = .object cs ∧ ∀ c ∈ cs, IsList c.2)

/-- A place of a document where something has to be right. -/
inductive Site where
  | whole (v : Value)
  | tier (key : String) (v : Value)
  | list (location : String) (v : Value)

namespace Site

def Sound : Site → Prop
  | whole v => ∃ ms, v = .object ms
  | tier key v => Key.IsTier key ∧ ∃ cs, v = .object cs
  | list _ v => IsList v

/-- The error that names the site. -/
def error : Site → BankError
  | whole _ => .notAnObject
  | tier key _ => .badTier key
  | list location _ => .badList location

end Site

/-- The sites of a tier: the tier itself, then its lists. -/
def tierSites (key : String) (v : Value) : List Site :=
  .tier key v ::
    match v with
    | .object cs => cs.map fun c => .list (key ++ "/" ++ c.1) c.2
    | _ => []

/-- The sites of a document, depth first and in its order. -/
def sites (document : Value) : List Site :=
  .whole document ::
    match document with
    | .object ms =>
      if isTiered ms then ms.flatMap fun m => tierSites m.1 m.2 else ms.map fun m => .list m.1 m.2
    | _ => []

/-! ## The first flaw -/

/-- The error names the first site that is not sound. -/
def FirstFlaw (places : List Site) (e : BankError) : Prop :=
  ∃ before site after, places = before ++ site :: after ∧ (∀ q ∈ before, q.Sound) ∧
    ¬site.Sound ∧ e = site.error

theorem firstFlaw_cons_of_not_sound {site : Site} (h : ¬site.Sound) (places : List Site) :
    FirstFlaw (site :: places) site.error :=
  ⟨[], site, places, rfl, by simp, h, rfl⟩

theorem FirstFlaw.append_left {places : List Site} {e : BankError} (h : FirstFlaw places e)
    {sound : List Site} (hsound : ∀ q ∈ sound, q.Sound) : FirstFlaw (sound ++ places) e := by
  obtain ⟨before, site, after, rfl, hbefore, hsite, rfl⟩ := h
  refine ⟨sound ++ before, site, after, by simp, ?_, hsite, rfl⟩
  intro q hq
  rcases List.mem_append.1 hq with hq | hq
  · exact hsound q hq
  · exact hbefore q hq

theorem FirstFlaw.append_right {places : List Site} {e : BankError} (h : FirstFlaw places e)
    (others : List Site) : FirstFlaw (places ++ others) e := by
  obtain ⟨before, site, after, rfl, hbefore, hsite, rfl⟩ := h
  exact ⟨before, site, after ++ others, by simp, hbefore, hsite, rfl⟩

theorem firstFlaw_cons_iff (site : Site) (places : List Site) (e : BankError) :
    FirstFlaw (site :: places) e ↔
      ¬site.Sound ∧ e = site.error ∨ site.Sound ∧ FirstFlaw places e := by
  constructor
  · rintro ⟨before, flawed, after, hplaces, hbefore, hflawed, rfl⟩
    cases before with
    | nil =>
      obtain ⟨rfl, rfl⟩ := List.cons.inj hplaces
      exact .inl ⟨hflawed, rfl⟩
    | cons first before =>
      obtain ⟨rfl, rfl⟩ := List.cons.inj hplaces
      rw [List.forall_mem_cons] at hbefore
      exact .inr ⟨hbefore.1, before, flawed, after, rfl, hbefore.2, hflawed, rfl⟩
  · rintro (⟨hsite, rfl⟩ | ⟨hsite, hplaces⟩)
    · exact firstFlaw_cons_of_not_sound hsite places
    · exact FirstFlaw.append_left hplaces (List.forall_mem_singleton.2 hsite)

theorem FirstFlaw.unique {places : List Site} {e e' : BankError} (h : FirstFlaw places e)
    (h' : FirstFlaw places e') : e = e' := by
  induction places with
  | nil =>
    obtain ⟨before, site, after, hplaces, -⟩ := h
    simp at hplaces
  | cons site places ih =>
    rw [firstFlaw_cons_iff] at h h'
    rcases h with ⟨hsite, rfl⟩ | ⟨hsite, h⟩ <;> rcases h' with ⟨hsite', rfl⟩ | ⟨hsite', h'⟩
    · rfl
    · exact absurd hsite' hsite
    · exact absurd hsite hsite'
    · exact ih h h'

theorem FirstFlaw.not_sound {places : List Site} {e : BankError} (h : FirstFlaw places e) :
    ¬∀ q ∈ places, q.Sound := by
  obtain ⟨before, site, after, rfl, -, hsite, rfl⟩ := h
  intro hall
  exact hsite (hall site (by simp))

/-- Reading these places succeeds if they are sound and reports the first that is not. -/
def Judges {α : Type} (places : List Site) : Except BankError α → Prop
  | .ok _ => ∀ q ∈ places, q.Sound
  | .error e => FirstFlaw places e

theorem Judges.ok_iff {α : Type} {places : List Site} {r : Except BankError α}
    (h : Judges places r) : (∃ a, r = .ok a) ↔ ∀ q ∈ places, q.Sound := by
  cases r with
  | ok a => exact iff_of_true ⟨a, rfl⟩ h
  | error e =>
    refine iff_of_false ?_ h.not_sound
    rintro ⟨a, ha⟩
    cases ha

theorem Judges.error_iff {α : Type} {places : List Site} {r : Except BankError α}
    (h : Judges places r) (e : BankError) : r = .error e ↔ FirstFlaw places e := by
  constructor
  · rintro rfl
    exact h
  · intro he
    cases r with
    | ok a => exact absurd h he.not_sound
    | error e' => rw [FirstFlaw.unique he h]

theorem Judges.map {α β : Type} {places : List Site} {r : Except BankError α} (h : Judges places r)
    (f : α → β) : Judges places (r.map f) := by
  cases r with
  | ok a => exact h
  | error e => exact h

/-- A sound site goes first. -/
theorem Judges.cons {α : Type} {places : List Site} {r : Except BankError α} (h : Judges places r)
    {site : Site} (hsite : site.Sound) : Judges (site :: places) r := by
  cases r with
  | ok a => exact List.forall_mem_cons.2 ⟨hsite, h⟩
  | error e => exact FirstFlaw.append_left h (List.forall_mem_singleton.2 hsite)

/-- What is read second is not reached if the first has a flaw. -/
theorem Judges.append {α β γ : Type} {places others : List Site} {first : Except BankError α}
    {rest : Except BankError β} (hfirst : Judges places first) (hrest : Judges others rest)
    (f : α → β → γ) : Judges (places ++ others) (first.bind fun a => rest.map (f a)) := by
  cases first with
  | error e => exact FirstFlaw.append_right hfirst others
  | ok a =>
    cases rest with
    | error e => exact FirstFlaw.append_left hrest hfirst
    | ok b => exact List.forall_mem_append.2 ⟨hfirst, hrest⟩

/-! ## The readers -/

theorem phrases_judges (location : String) (v : Value) :
    Judges [.list location v] (phrases location v) := by
  cases h : phrases location v with
  | ok ss =>
    obtain ⟨ts, hv, -⟩ := (phrases_eq_ok_iff location v ss).1 h
    exact List.forall_mem_singleton.2 ⟨ts, hv⟩
  | error e =>
    have hsite : ¬(Site.list location v).Sound := by
      rintro ⟨ts, hv⟩
      rw [(phrases_eq_ok_iff location v _).2 ⟨ts, hv, rfl⟩] at h
      cases h
    have he : e = .badList location := by
      unfold phrases at h
      split at h
      · split at h <;> cases h
        rfl
      · cases h
        rfl
    rw [he]
    exact firstFlaw_cons_of_not_sound hsite []

theorem categories_judges (place : String → Key) (location : String → String)
    (ms : Members Value) :
    Judges (ms.map fun c => .list (location c.1) c.2) (categories place location ms) := by
  induction ms with
  | nil => simp [categories, Judges]
  | cons c ms ih =>
    have hcons : categories place location (c :: ms) =
        (phrases (location c.1) c.2).bind fun ss =>
          (categories place location ms).map ((place c.1, ss) :: ·) := by
      rw [categories]
      cases phrases (location c.1) c.2 with
      | error e => rfl
      | ok ss => cases categories place location ms <;> rfl
    rw [hcons]
    exact (phrases_judges (location c.1) c.2).append ih _

theorem tier_judges (key : String) (v : Value) : Judges (tierSites key v) (tier key v) := by
  cases hkey : Key.tierNumber? key with
  | none =>
    have hsite : ¬(Site.tier key v).Sound := by
      rintro ⟨hkey', -⟩
      obtain ⟨n, hn⟩ := (Key.isTier_iff key).1 hkey'
      rw [hkey] at hn
      cases hn
    simp only [tier, hkey]
    exact firstFlaw_cons_of_not_sound hsite _
  | some n =>
    cases v with
    | object cs =>
      have hsite : (Site.tier key (.object cs)).Sound :=
        ⟨(Key.isTier_iff key).2 ⟨n, hkey⟩, cs, rfl⟩
      simp only [tier, hkey, tierSites]
      exact (categories_judges _ _ cs).cons hsite
    | _ =>
      simp only [tier, hkey]
      refine firstFlaw_cons_of_not_sound ?_ _
      rintro ⟨-, cs, hcs⟩
      cases hcs

theorem tiers_judges (ms : Members Value) :
    Judges (ms.flatMap fun m => tierSites m.1 m.2) (tiers ms) := by
  induction ms with
  | nil => simp [tiers, Judges]
  | cons m ms ih =>
    have hcons : tiers (m :: ms) =
        (tier m.1 m.2).bind fun first => (tiers ms).map (first ++ ·) := by
      rw [tiers]
      cases tier m.1 m.2 with
      | error e => rfl
      | ok first => cases tiers ms <;> rfl
    rw [hcons]
    exact (tier_judges m.1 m.2).append ih _

end Document

open Document (Judges FirstFlaw Site sites tierSites IsList Documented)

theorem Bank.ofDocument_judges (document : Value) (labels : List String) :
    Judges (sites document) (ofDocument document labels) := by
  cases document with
  | object ms =>
    have hwhole : (Site.whole (.object ms)).Sound := ⟨ms, rfl⟩
    have hmembers : Judges
        (if Document.isTiered ms then ms.flatMap fun m => tierSites m.1 m.2
          else ms.map fun m => Site.list m.1 m.2) (Document.listings ms) := by
      rw [Document.listings]
      split
      · exact Document.tiers_judges ms
      · exact Document.categories_judges _ id ms
    have hbank : ofDocument (.object ms) labels =
        (Document.listings ms).map fun ls => ofListings ls (Document.isTiered ms) labels := by
      rw [ofDocument]
      cases Document.listings ms <;> rfl
    rw [hbank]
    exact (hmembers.map _).cons hwhole
  | _ =>
    refine Document.firstFlaw_cons_of_not_sound ?_ []
    rintro ⟨ms, hms⟩
    cases hms

/-! ## The documented format -/

namespace Document

theorem isTiered_iff (ms : Members Value) :
    isTiered ms = true ↔ ∃ m ∈ ms, ∃ cs, m.2 = .object cs := by
  have hobject : ∀ v : Value, v.isObject = true ↔ ∃ cs, v = .object cs := by
    intro v
    cases v <;> simp [Value.isObject]
  simp [isTiered, List.any_eq_true, hobject]

theorem forall_mem_tierSites_iff (key : String) (v : Value) :
    (∀ q ∈ tierSites key v, q.Sound) ↔
      Key.IsTier key ∧ ∃ cs, v = .object cs ∧ ∀ c ∈ cs, IsList c.2 := by
  cases v with
  | object cs =>
    simp only [tierSites, List.forall_mem_cons, List.forall_mem_map, Site.Sound]
    simp
  | _ => simp [tierSites, Site.Sound]

theorem documented_iff (document : Value) :
    Documented document ↔ ∀ q ∈ sites document, q.Sound := by
  cases document with
  | object ms =>
    have hwhole : (Site.whole (.object ms)).Sound := ⟨ms, rfl⟩
    have hlists : (∃ m ∈ ms, ∃ cs, m.2 = Value.object cs) → ¬∀ m ∈ ms, IsList m.2 := by
      rintro ⟨m, hm, cs, hcs⟩ hall
      obtain ⟨ss, hss⟩ := hall m hm
      rw [hcs] at hss
      cases hss
    have hdocumented : Documented (.object ms) ↔
        (∀ m ∈ ms, IsList m.2) ∨ (∃ m ∈ ms, ∃ cs, m.2 = .object cs) ∧
          ∀ m ∈ ms, Key.IsTier m.1 ∧ ∃ cs, m.2 = .object cs ∧ ∀ c ∈ cs, IsList c.2 := by
      simp [Documented]
    rw [hdocumented, sites, List.forall_mem_cons]
    cases htiered : isTiered ms with
    | true =>
      have hobject := (isTiered_iff ms).1 htiered
      simp only [if_true, List.forall_mem_flatMap, forall_mem_tierSites_iff, hwhole, hobject,
        hlists hobject, false_or, true_and]
    | false =>
      have hobject : ¬∃ m ∈ ms, ∃ cs, m.2 = Value.object cs := by
        rw [← isTiered_iff, htiered]
        decide
      have hlist : ∀ m : String × Value, (Site.list m.1 m.2).Sound ↔ IsList m.2 := fun _ => Iff.rfl
      simp only [Bool.false_eq_true, if_false, List.forall_mem_map, hwhole, hobject, false_and,
        or_false, true_and, hlist]
  | _ => simp [Documented, sites, Site.Sound]

end Document

namespace Bank

/-- **Acceptance is the documented format, and a refusal names the first flaw.** Every refusal of a
document is about its format; no other fault can arise, as the key of every tier that is read can be
written. -/
theorem ofDocument_decides (document : Value) (labels : List String) :
    ((∃ b, ofDocument document labels = .ok b) ↔ Documented document) ∧
    (∀ e, ofDocument document labels = .error e ↔ FirstFlaw (sites document) e) ∧
    (∀ site : Site, site.error.isFormat = true) ∧
    (∀ key n, Key.tierNumber? key = some n → Key.ofTier n = .ok (Key.tier n)) ∧
    BankError.notAnObject.message = "Word bank document must be a JSON object." ∧
    (∀ key, (BankError.badTier key).message = "Invalid tier " ++ Quoted.write key ++
      ". Expected a key like '03p' mapping to categories.") ∧
    ∀ location, (BankError.badList location).message = "Invalid data format for key " ++
      Quoted.write location ++ ". Expected an array of strings." := by
  have hjudges := ofDocument_judges document labels
  refine ⟨?_, hjudges.error_iff, ?_, fun key n => Key.ofTier_of_tierNumber?, rfl, fun key => rfl,
    fun location => rfl⟩
  · rw [Document.documented_iff, hjudges.ok_iff]
  · intro site
    cases site <;> rfl

end Bank

end Phrasebook
