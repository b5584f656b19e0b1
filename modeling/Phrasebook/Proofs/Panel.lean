import Phrasebook.Panel
import Phrasebook.Proofs.DigitForms

/-!
# Phrasebook.Proofs.Panel

What a panel answers, event after event.

The panel of a document shows plain selections only: a whole number, a number or nothing, a text. An
event has one effect on them (`Event.effect`), unless it is beyond the panel (`Event.Beyond`): its
value is infinite, or a number that has too many digits for a key or a record. `ask_of_beyond` and
`ask_of_not_beyond` say so of one event, handed any settled selection. In a run every event is handed
nothing or a selection that was shown before. One step keeps what was shown settled and is answered
unless it is beyond the panel (`serve_settled`), and so does a run (`run_settled`).
-/

namespace Phrasebook

/-! ## Numbers out of values -/

namespace Value

def IsInfinite (v : Value) : Prop :=
  ∃ x negative, v = .float x ∧ Double.view x = .infinite negative

theorem toInteger_eq_wholeOfInfinity_iff (v : Value) :
    v.toInteger = .error .wholeOfInfinity ↔ v.IsInfinite := by
  constructor
  · intro h
    cases v with
    | float x =>
      cases hx : Double.view x with
      | infinite negative => exact ⟨x, negative, rfl, hx⟩
      | nan => simp [toInteger, hx] at h
      | finite negative mantissa exponent => simp [toInteger, hx] at h
    | text s =>
      rw [toInteger] at h
      cases hr : Numeral.read s.toList with
      | ok n => simp [hr, Except.mapError] at h
      | error e => cases e <;> simp [hr, Except.mapError, Fault.ofRefusal] at h
    | _ => simp [toInteger] at h
  · rintro ⟨x, negative, rfl, hx⟩
    simp [toInteger, hx]

end Value

namespace Panel

theorem readInteger_of_infinite {v : Value} (h : v.IsInfinite) :
    readInteger v = .error .wholeOfInfinity := by
  simp [readInteger, (Value.toInteger_eq_wholeOfInfinity_iff v).2 h]

theorem readInteger_of_not_infinite {v : Value} (h : ¬v.IsInfinite) :
    readInteger v = .ok v.toInteger.toOption := by
  rw [← Value.toInteger_eq_wholeOfInfinity_iff] at h
  rw [readInteger]
  cases hv : v.toInteger with
  | ok n => rfl
  | error e =>
    rw [hv] at h
    cases e <;> first | rfl | exact absurd rfl h

end Panel

/-! ## Plain selections -/

/-- A tier that is given is written, into a key or into a record. -/
def Bank.writesTier (b : Bank) (o : Outlet) : Bool := b.isTiered || o.passes .debug

theorem Bank.CanAsk.tier_isWritable {b : Bank} {o : Outlet} {i : Int} {t : Option Int}
    (h : b.CanAsk o i t) (hwrites : b.writesTier o = true) : ∀ n ∈ t, Numeral.isWritable n = true := by
  obtain ⟨⟨-, htier⟩, htell⟩ := h
  rcases Bool.or_eq_true_iff.1 hwrites with htiered | hdebug
  · exact htier htiered
  · exact (htell hdebug).2

theorem Numeral.isWritable_of_succ {n : Int} (hn : 0 ≤ n) (h : isWritable (n + 1) = true) :
    isWritable n = true := by
  rw [isWritable_iff] at h ⊢
  omega

/-- A selection as the panel of a document shows it. -/
structure Plain where
  category : Int
  tier : Option Int
  query : String

namespace Plain

def selection (s : Plain) : Selection :=
  ⟨.int s.category, Bank.tierArgument s.tier, .text s.query⟩

/-- The bank can be asked for the selection; it comes from the panel of the bank. -/
structure Settled (b : Bank) (o : Outlet) (s : Plain) : Prop where
  category_nonneg : 0 ≤ s.category
  category_isWritable : Numeral.isWritable (s.category + 1) = true
  tier_isSome : b.isTiered = true → s.tier.isSome = true
  tier_isWritable : b.writesTier o = true → ∀ n ∈ s.tier, Numeral.isWritable n = true

theorem Settled.canAsk {b : Bank} {o : Outlet} {s : Plain} (h : s.Settled b o) :
    b.CanAsk o s.category s.tier := by
  refine ⟨⟨h.category_isWritable, fun htiered => h.tier_isWritable ?_⟩, fun hdebug => ⟨?_, ?_⟩⟩
  · rw [Bank.writesTier, htiered, Bool.true_or]
  · exact Numeral.isWritable_of_succ h.category_nonneg h.category_isWritable
  · refine h.tier_isWritable ?_
    rw [Bank.writesTier, hdebug, Bool.or_true]

end Plain

namespace Event

/-- The values that the components send: texts or nothing as queries. -/
def IsSent : Event → Prop
  | query v => v = .null ∨ ∃ s, v = .text s
  | _ => True

/-- What an event makes of the selection `s`; `start` is the selection to begin with. -/
def effect (start : Plain) (e : Event) (s : Plain) : Plain :=
  match e with
  | load => start
  | category v => { s with category := max 0 (v.toInteger.toOption.getD 0) }
  | tier v => { s with tier := v.toInteger.toOption.or s.tier }
  | query v => { s with query := v.text?.getD "" }

/-- The event sends an infinite number. -/
def IsInfinite : Event → Prop
  | category v => v.IsInfinite
  | tier v => v.IsInfinite
  | _ => False

/-- The event is beyond a panel, for this reason: its number is infinite, or has too many digits to be
written. A category always is; a tier is if the panel `writes` tiers. -/
inductive Beyond (writes : Bool) : Event → Fault → Prop
  | infinite {e : Event} (h : e.IsInfinite) : Beyond writes e .wholeOfInfinity
  | longCategory {v : Value} {n : Int} (hv : v.toInteger = .ok n)
      (hn : 10 ^ Numeral.maxDigits ≤ n + 1) : Beyond writes (.category v) .longNumber
  | longTier {v : Value} {n : Int} (h : writes = true) (hv : v.toInteger = .ok n)
      (hn : 10 ^ Numeral.maxDigits ≤ n.natAbs) : Beyond writes (.tier v) .longNumber

end Event

/-! ## Searching for plain selections -/

/-- What a search finds does not depend on what was counted before. -/
theorem Finder.search_result_eq (f : Finder) (s : Plain) (m m' : Meters) :
    (f.search s.selection m).result = (f.search s.selection m').result := by
  rw [Plain.selection, search_text, search_text]

namespace Contents

/-- The selection to begin with: the first category, the tier to begin with, no query. -/
def start (c : Contents) (labels : List String) : Plain :=
  ⟨0, if c.isTiered then some (c.bank labels).firstTier else none, ""⟩

/-- The panel on the bank with these contents. -/
def panel (c : Contents) (labels : List String) (o : Outlet) : Panel :=
  ⟨.ofBank (c.bank labels) o, (c.start labels).selection, (c.bank labels).labels,
    (c.bank labels).tierNumbers⟩

theorem defaultTier_bank (c : Contents) (labels : List String) :
    (c.bank labels).defaultTier = .ok (c.start labels).tier := by
  cases c with
  | flat sheet => rfl
  | tiered ts hne => exact Bank.defaultTier_tiered ts hne labels

theorem initial_bank (c : Contents) (labels : List String) (o : Outlet) :
    (Finder.ofBank (c.bank labels) o).initial = .ok (c.start labels).selection := by
  have hbank : (Finder.ofBank (c.bank labels) o).bank = c.bank labels := rfl
  rw [Finder.initial, hbank, defaultTier_bank]
  rfl

theorem ofFinder_bank (c : Contents) (labels : List String) (o : Outlet) :
    Panel.ofFinder (.ofBank (c.bank labels) o) = .ok (c.panel labels o) := by
  have htiers : (Finder.ofBank (c.bank labels) o).bank.tiers = .ok (c.bank labels).tierNumbers :=
    Bank.tiers_bank c labels
  rw [Panel.ofFinder, htiers, initial_bank]
  rfl

theorem start_settled (c : Contents) (labels : List String) (o : Outlet) :
    (c.start labels).Settled (c.bank labels) o := by
  have hone : Numeral.isWritable (0 + 1) = true := by decide
  refine ⟨Int.le_refl 0, hone, ?_, ?_⟩
  · intro htiered
    cases c with
    | flat sheet => cases htiered
    | tiered ts hne => rfl
  · intro hwrites n hn
    cases c with
    | flat sheet => cases hn
    | tiered ts hne =>
      cases hn
      exact Bank.isWritable_firstTier _

section Search

variable {c : Contents} {labels : List String} {o : Outlet} {s : Plain}

theorem search_of_canAsk (h : (c.bank labels).CanAsk o s.category s.tier) (m : Meters) :
    ∃ ss : List String, ((Finder.ofBank (c.bank labels) o).search s.selection m).result =
      .ok ⟨s.selection, ss.map .text⟩ := by
  obtain ⟨ss, hss⟩ := Bank.search_of_canLookUp h.1
  exact ⟨_, hss o s.query m h.2⟩

theorem search_of_not_canAsk (h : ¬(c.bank labels).CanAsk o s.category s.tier) (m : Meters) :
    ((Finder.ofBank (c.bank labels) o).search s.selection m).result = .error .longNumber :=
  Bank.search_of_not_canAsk h s.query m

end Search

end Contents

/-! ## One event -/

theorem Numeral.isWritable_category_iff (n : Int) :
    isWritable (max 0 n + 1) = true ↔ ¬10 ^ maxDigits ≤ n + 1 := by
  have hpos : 1 < 10 ^ maxDigits := Nat.one_lt_pow (by decide) (by decide)
  have hcast : ((10 ^ maxDigits : Nat) : Int) = 10 ^ maxDigits := by push_cast; rfl
  rw [isWritable_iff, ← hcast]
  -- The power itself is never worked out.
  generalize 10 ^ maxDigits = k at hpos
  omega

theorem Value.not_isInfinite_of_toInteger {v : Value} {n : Int} (h : v.toInteger = .ok n) :
    ¬v.IsInfinite := by
  rw [← toInteger_eq_wholeOfInfinity_iff, h]
  simp

namespace Event

theorem not_isInfinite_of_longNumber {writes : Bool} {e : Event} (h : e.Beyond writes .longNumber) :
    ¬e.IsInfinite := by
  cases h with
  | longCategory hv hn => exact Value.not_isInfinite_of_toInteger hv
  | longTier h hv hn => exact Value.not_isInfinite_of_toInteger hv

theorem not_canAsk_effect {b : Bank} {o : Outlet} {e : Event}
    (h : e.Beyond (b.writesTier o) .longNumber) (start s : Plain) :
    ¬b.CanAsk o (e.effect start s).category (e.effect start s).tier := by
  intro hask
  cases h with
  | @longCategory v n hv hn =>
    have hcategory := hask.1.1
    simp only [effect, hv, Except.toOption, Option.getD_some,
      Numeral.isWritable_category_iff] at hcategory
    exact hcategory hn
  | @longTier v n hwrites hv hn =>
    have htier := hask.tier_isWritable hwrites n
    simp only [effect, hv, Except.toOption, Option.some_or] at htier
    have hn' := (Numeral.isWritable_iff n).1 (htier rfl)
    omega

theorem settled_effect {b : Bank} {o : Outlet} {e : Event}
    (h : ∀ f, ¬e.Beyond (b.writesTier o) f) {start s : Plain} (hstart : start.Settled b o)
    (hs : s.Settled b o) : (e.effect start s).Settled b o := by
  cases e with
  | load => exact hstart
  | category v =>
    refine ⟨Int.le_max_left _ _, ?_, hs.tier_isSome, hs.tier_isWritable⟩
    simp only [effect]
    rw [Numeral.isWritable_category_iff]
    cases hv : v.toInteger with
    | ok n => exact fun hn => h _ (.longCategory hv hn)
    | error f =>
      have hpos : 1 < 10 ^ Numeral.maxDigits := Nat.one_lt_pow (by decide) (by decide)
      simp only [Except.toOption, Option.getD_none]
      exact_mod_cast Nat.not_le.2 hpos
  | tier v =>
    simp only [effect]
    cases hv : v.toInteger with
    | ok n =>
      refine ⟨hs.category_nonneg, hs.category_isWritable, fun _ => rfl, ?_⟩
      intro hwrites k hk
      cases hk
      rw [Numeral.isWritable_iff, ← Nat.not_le]
      exact fun hn => h _ (.longTier hwrites hv hn)
    | error f => exact hs
  | query v =>
    exact ⟨hs.category_nonneg, hs.category_isWritable, hs.tier_isSome, hs.tier_isWritable⟩

end Event

namespace Contents

section Event

variable {c : Contents} {labels : List String} {o : Outlet} {s : Plain} {given : Option Selection}
  {e : Event}

/-- An event that can be read leads to the search for the selection it makes. -/
theorem ask_eq_search (hgiven : given.getD (c.start labels).selection = s.selection)
    (he : e.IsSent) (hfinite : ¬e.IsInfinite) (m : Meters) :
    (c.panel labels o).ask e given m =
      (Finder.ofBank (c.bank labels) o).search (e.effect (c.start labels) s).selection m := by
  have hcurrent : given.getD (c.panel labels o).initial = s.selection := hgiven
  cases e with
  | load => rfl
  | category v =>
    simp only [Panel.ask, Panel.readInteger_of_not_infinite hfinite, hcurrent]
    rfl
  | tier v =>
    simp only [Panel.ask, Panel.readInteger_of_not_infinite hfinite, hcurrent, Event.effect]
    cases v.toInteger.toOption <;> rfl
  | query v =>
    have hquery : v.orEmpty.orEmpty = .text (v.text?.getD "") := by
      rcases he with rfl | ⟨q, rfl⟩
      · rfl
      · rw [Value.orEmpty_text, Value.orEmpty_text]
        rfl
    simp only [Panel.ask, hcurrent, Finder.dispatch, Selection.apply, hquery]
    rfl

theorem ask_of_beyond (hgiven : given.getD (c.start labels).selection = s.selection)
    (he : e.IsSent) {f : Fault} (hf : e.Beyond ((c.bank labels).writesTier o) f) (m : Meters) :
    ((c.panel labels o).ask e given m).result = .error f := by
  cases f with
  | wholeOfInfinity =>
    cases hf with
    | infinite h =>
      cases e with
      | load => cases h
      | category v => simp only [Panel.ask, Panel.readInteger_of_infinite h]
      | tier v => simp only [Panel.ask, Panel.readInteger_of_infinite h]
      | query v => cases h
  | longNumber =>
    rw [ask_eq_search hgiven he (Event.not_isInfinite_of_longNumber hf)]
    exact search_of_not_canAsk (Event.not_canAsk_effect hf _ _) m
  | _ => cases hf

theorem ask_of_not_beyond (hgiven : given.getD (c.start labels).selection = s.selection)
    (he : e.IsSent) (hs : s.Settled (c.bank labels) o)
    (hf : ∀ f, ¬e.Beyond ((c.bank labels).writesTier o) f) (m : Meters) :
    (e.effect (c.start labels) s).Settled (c.bank labels) o ∧
      ∃ ss : List String, ((c.panel labels o).ask e given m).result =
        .ok ⟨(e.effect (c.start labels) s).selection, ss.map .text⟩ := by
  have hsettled := Event.settled_effect hf (start_settled c labels o) hs
  refine ⟨hsettled, ?_⟩
  rw [ask_eq_search hgiven he fun h => hf _ (.infinite h)]
  exact search_of_canAsk hsettled.canAsk m

end Event

end Contents

/-! ## What is shown -/

theorem Markdown.lines_texts (ss : List String) : lines (ss.map .text) = .ok (ss.map line) := by
  induction ss with
  | nil => rfl
  | cons s ss ih =>
    rw [List.map_cons, lines, ih]
    rfl

theorem Markdown.results_texts (s : Selection) (ss : List String) :
    ∃ text, results ⟨s, ss.map .text⟩ = .ok text := by
  rw [results]
  split
  · exact ⟨_, rfl⟩
  · exact ⟨_, by rw [lines_texts]; rfl⟩

namespace Panel

theorem display_ok {a : Answer Found} {s : Selection} {ss : List String}
    (h : a.result = .ok ⟨s, ss.map .text⟩) :
    ∃ results, Markdown.results ⟨s, ss.map .text⟩ = .ok results ∧
      (display a).result = .ok ⟨s, Markdown.count ⟨s, ss.map .text⟩, results⟩ := by
  obtain ⟨results, hresults⟩ := Markdown.results_texts s ss
  refine ⟨results, hresults, ?_⟩
  simp only [display, h, hresults, Except.map]

theorem display_error {a : Answer Found} {f : Fault} (h : a.result = .error f) :
    (display a).result = .error f := by
  simp only [display, h]

end Panel

namespace Contents

section Handle

variable {c : Contents} {labels : List String} {o : Outlet} {s : Plain} {given : Option Selection}
  {e : Event} (hgiven : given.getD (c.start labels).selection = s.selection) (he : e.IsSent)
  (hs : s.Settled (c.bank labels) o) (m : Meters)

include hgiven he hs

theorem handle_error_iff (f : Fault) :
    ((c.panel labels o).handle e given m).result = .error f ↔
      e.Beyond ((c.bank labels).writesTier o) f := by
  have hrefused : ∀ f, e.Beyond ((c.bank labels).writesTier o) f →
      ((c.panel labels o).handle e given m).result = .error f :=
    fun f hf => Panel.display_error (ask_of_beyond hgiven he hf m)
  constructor
  · intro h
    by_cases hbeyond : ∃ f', e.Beyond ((c.bank labels).writesTier o) f'
    · obtain ⟨f', hf'⟩ := hbeyond
      rw [hrefused f' hf'] at h
      cases h
      exact hf'
    · obtain ⟨-, ss, hss⟩ := ask_of_not_beyond hgiven he hs (fun f hf => hbeyond ⟨f, hf⟩) m
      obtain ⟨results, -, hanswer⟩ := Panel.display_ok hss
      rw [Panel.handle, hanswer] at h
      cases h
  · exact hrefused f

/-- An event that is answered shows what a search for the selection of its effect has found. -/
theorem handle_ok {d : Display} (h : ((c.panel labels o).handle e given m).result = .ok d) :
    (e.effect (c.start labels) s).Settled (c.bank labels) o ∧
      ∃ ss : List String, ((Finder.ofBank (c.bank labels) o).search
          (e.effect (c.start labels) s).selection m).result =
            .ok ⟨(e.effect (c.start labels) s).selection, ss.map .text⟩ ∧
        d.selection = (e.effect (c.start labels) s).selection ∧
        d.count = Markdown.count ⟨(e.effect (c.start labels) s).selection, ss.map .text⟩ ∧
        Markdown.results ⟨(e.effect (c.start labels) s).selection, ss.map .text⟩ =
          .ok d.results := by
  have hnone : ∀ f, ¬e.Beyond ((c.bank labels).writesTier o) f := by
    intro f hf
    rw [(handle_error_iff hgiven he hs m f).2 hf] at h
    cases h
  obtain ⟨hsettled, ss, hss⟩ := ask_of_not_beyond hgiven he hs hnone m
  obtain ⟨results, hresults, hanswer⟩ := Panel.display_ok hss
  rw [Panel.handle, hanswer] at h
  cases h
  rw [ask_eq_search hgiven he fun h => hnone _ (.infinite h)] at hss
  exact ⟨hsettled, ss, hss, rfl, rfl, hresults⟩

end Handle

end Contents

/-! ## Runs -/

/-- Where an event gets the selection that it is handed from. -/
inductive Source where
  | nothing
  /-- What the answer in this place has shown, if it has shown anything. -/
  | answer (place : Nat)
  /-- What was shown last. -/
  | last

/-- An event, and where it gets its selection from. -/
structure Request where
  event : Event
  source : Source

/-- What a panel has answered so far, in order, and the meters. -/
structure Past where
  answers : List (Except Fault Display) := []
  meters : Meters := .zero

namespace Past

/-- What was shown last; a failure shows nothing. -/
def shown (past : Past) : Option Selection :=
  past.answers.reverse.findSome? fun a => a.toOption.map Display.selection

/-- The selection that comes from the source. -/
def from? (past : Past) : Source → Option Selection
  | .nothing => none
  | .answer place => past.answers[place]?.bind fun a => a.toOption.map Display.selection
  | .last => past.shown

/-- What comes from a source was shown in some answer. -/
theorem mem_answers_of_from? {past : Past} {source : Source} {s : Selection}
    (h : past.from? source = some s) : ∃ d, .ok d ∈ past.answers ∧ d.selection = s := by
  have hshown : ∀ {a : Except Fault Display}, a ∈ past.answers →
      a.toOption.map Display.selection = some s → ∃ d, .ok d ∈ past.answers ∧ d.selection = s := by
    intro a ha hs
    cases a with
    | error f => cases hs
    | ok d => exact ⟨d, ha, Option.some.inj hs⟩
  cases source with
  | nothing => cases h
  | answer place =>
    obtain ⟨a, ha, hs⟩ := Option.bind_eq_some_iff.1 h
    exact hshown (List.mem_of_getElem? ha) hs
  | last =>
    obtain ⟨a, ha, hs⟩ := List.exists_of_findSome?_eq_some h
    exact hshown (List.mem_reverse.1 ha) hs

end Past

namespace Panel

def serve (p : Panel) (past : Past) (r : Request) : Past :=
  let a := p.handle r.event (past.from? r.source) past.meters
  ⟨past.answers ++ [a.result], a.meters⟩

def run (p : Panel) (rs : List Request) : Past := rs.foldl p.serve {}

theorem run_concat (p : Panel) (rs : List Request) (r : Request) :
    p.run (rs ++ [r]) = p.serve (p.run rs) r := by
  simp [run]

/-- The run of events in turn, each handed what was shown last. -/
def after (p : Panel) (es : List Event) : Past := p.run (es.map (⟨·, .last⟩))

theorem after_concat (p : Panel) (es : List Event) (e : Event) :
    p.after (es ++ [e]) = p.serve (p.after es) ⟨e, .last⟩ := by
  rw [after, List.map_append]
  exact run_concat _ _ _

/-- What is shown after one request more: its answer, or what was shown before if it fails. -/
theorem shown_serve (p : Panel) (past : Past) (r : Request) :
    (p.serve past r).shown =
      ((p.handle r.event (past.from? r.source) past.meters).result.toOption.map
        Display.selection).or past.shown := by
  rw [serve, Past.shown, List.reverse_append]
  cases (p.handle r.event (past.from? r.source) past.meters).result <;> rfl

end Panel

/-- Every selection that was shown is plain and settled. -/
def Past.Settled (b : Bank) (o : Outlet) (past : Past) : Prop :=
  ∀ d, .ok d ∈ past.answers → ∃ s : Plain, s.Settled b o ∧ d.selection = s.selection

namespace Contents

variable {c : Contents} {labels : List String} {o : Outlet}

/-- What is handed in is settled, be it nothing or a selection shown before. -/
theorem current_settled {past : Past} (h : past.Settled (c.bank labels) o) (source : Source) :
    ∃ s : Plain, s.Settled (c.bank labels) o ∧
      (past.from? source).getD (c.start labels).selection = s.selection := by
  cases hfrom : past.from? source with
  | none => exact ⟨c.start labels, start_settled c labels o, rfl⟩
  | some selection =>
    obtain ⟨d, hd, rfl⟩ := Past.mem_answers_of_from? hfrom
    exact h d hd

/-- One request keeps what was shown settled, and fails exactly if it is beyond the panel. -/
theorem serve_settled {past : Past} (h : past.Settled (c.bank labels) o) {r : Request}
    (hr : r.event.IsSent) :
    ((c.panel labels o).serve past r).Settled (c.bank labels) o ∧
      ∀ f, ((c.panel labels o).handle r.event (past.from? r.source) past.meters).result = .error f ↔
        r.event.Beyond ((c.bank labels).writesTier o) f := by
  obtain ⟨s, hs, hgiven⟩ := current_settled h r.source
  refine ⟨?_, handle_error_iff hgiven hr hs past.meters⟩
  intro d hd
  rcases List.mem_append.1 hd with hd | hd
  · exact h d hd
  · obtain ⟨hsettled, -, -, hselection, -⟩ :=
      handle_ok hgiven hr hs past.meters (List.mem_singleton.1 hd).symm
    exact ⟨_, hsettled, hselection⟩

/-- So does a run of requests. -/
theorem run_settled (c : Contents) (labels : List String) (o : Outlet) {rs : List Request}
    (hrs : ∀ r ∈ rs, r.event.IsSent) :
    ((c.panel labels o).run rs).Settled (c.bank labels) o ∧
      List.Forall₂ (fun r a => ∀ f, a = .error f ↔
        r.event.Beyond ((c.bank labels).writesTier o) f) rs ((c.panel labels o).run rs).answers := by
  induction rs using List.reverseRecOn with
  | nil => exact ⟨nofun, .nil⟩
  | append_singleton rs r ih =>
    obtain ⟨hpast, hanswers⟩ := ih fun r hr => hrs r (List.mem_append_left _ hr)
    obtain ⟨hnext, hanswer⟩ := serve_settled hpast (hrs r (by simp))
    rw [Panel.run_concat]
    refine ⟨hnext, List.rel_append hanswers ?_⟩
    exact .cons hanswer .nil

/-- Whatever the events were, what was shown last is settled. -/
theorem after_settled (c : Contents) (labels : List String) (o : Outlet) {es : List Event}
    (hes : ∀ e ∈ es, e.IsSent) :
    ∃ s : Plain, s.Settled (c.bank labels) o ∧
      ((c.panel labels o).after es).shown.getD (c.start labels).selection = s.selection := by
  have hsent : ∀ r ∈ es.map fun e => (⟨e, .last⟩ : Request), r.event.IsSent := by simpa using hes
  exact current_settled (c.run_settled labels o hsent).1 .last

end Contents

namespace Panel

/-- **What a panel does not answer.** Over any run of events, each handed nothing or a selection that
was shown before, an event fails exactly if it is beyond the panel: its category or tier is infinite,
or a number with too many digits for a key, or for a record where the record of a search passes. -/
theorem run_answers {document : Value} {labels : List String} {b : Bank}
    (hb : Bank.ofDocument document labels = .ok b) (o : Outlet) :
    ∃ p, ofFinder (.ofBank b o) = .ok p ∧
      ∀ rs : List Request, (∀ r ∈ rs, r.event.IsSent) →
        List.Forall₂ (fun r a => ∀ f, a = .error f ↔ r.event.Beyond (b.writesTier o) f) rs
          (p.run rs).answers := by
  obtain ⟨c, -, rfl⟩ := (Bank.ofDocument_eq_ok_iff document labels b).1 hb
  exact ⟨c.panel labels o, c.ofFinder_bank labels o, fun rs hrs => (c.run_settled labels o hrs).2⟩

/-- Between two events that are answered, an infinite category is not. -/
theorem run_answers_around_infinity : ∃ b p d d',
    Bank.ofDocument (.object [("01", .ofTexts ["a"])]) [] = .ok b ∧
      ofFinder (.ofBank b ⟨30, 950⟩) = .ok p ∧
      (p.run [⟨.load, .nothing⟩, ⟨.category (.float (Double.infinity true)), .answer 0⟩,
        ⟨.query .null, .last⟩]).answers = [.ok d, .error .wholeOfInfinity, .ok d'] := by
  have hb : Bank.ofDocument (.object [("01", .ofTexts ["a"])]) [] =
      .ok ((Contents.flat [("01", ["a"])]).bank []) :=
    (Bank.ofDocument_eq_ok_iff _ _ _).2 ⟨_, rfl, rfl⟩
  have hinfinite : (Value.float (Double.infinity true)).IsInfinite :=
    ⟨_, true, rfl, by decide +kernel⟩
  obtain ⟨p, hp, hrun⟩ := run_answers hb ⟨30, 950⟩
  have hanswers := hrun [⟨.load, .nothing⟩,
    ⟨.category (.float (Double.infinity true)), .answer 0⟩, ⟨.query .null, .last⟩]
    (by simp [Event.IsSent])
  generalize hrest : (p.run _).answers = answers at hanswers
  rcases hanswers with _ | ⟨hfirst, _ | ⟨hsecond, _ | ⟨hthird, ⟨⟩⟩⟩⟩
  have hanswered : ∀ {e : Event} {a : Except Fault Display} {writes : Bool},
      (e = .load ∨ e = .query .null) → (∀ f, a = .error f ↔ e.Beyond writes f) →
      ∃ d, a = .ok d := by
    intro e a writes he ha
    cases a with
    | ok d => exact ⟨d, rfl⟩
    | error f =>
      have hbeyond := (ha f).1 rfl
      rcases he with rfl | rfl <;> cases hbeyond with
      | infinite h => cases h
  obtain ⟨d, rfl⟩ := hanswered (.inl rfl) hfirst
  obtain ⟨d', rfl⟩ := hanswered (.inr rfl) hthird
  obtain rfl := (hsecond .wholeOfInfinity).2 (.infinite hinfinite)
  exact ⟨_, p, d, d', hb, hp, hrest⟩

/-- Not every event is answered: infinity as a category is a fault of its own. -/
theorem run_infinite_category : ¬∀ (document : Value) (labels : List String) (b : Bank) (p : Panel),
    Bank.ofDocument document labels = .ok b → ofFinder (.ofBank b ⟨30, 950⟩) = .ok p →
      ∀ rs : List Request, (∀ r ∈ rs, r.event.IsSent) →
        ∀ a ∈ (p.run rs).answers, ∃ d, a = .ok d := by
  intro h
  have hb : Bank.ofDocument (.object [("01", .ofTexts ["a"])]) [] =
      .ok ((Contents.flat [("01", ["a"])]).bank []) :=
    (Bank.ofDocument_eq_ok_iff _ _ _).2 ⟨_, rfl, rfl⟩
  have hinfinite : (Value.float (Double.infinity false)).IsInfinite :=
    ⟨_, false, rfl, by decide +kernel⟩
  have hsent : ∀ r ∈ [Request.mk (.category (.float (Double.infinity false))) .nothing],
      r.event.IsSent := by simp [Event.IsSent]
  have hanswers := ((Contents.flat [("01", ["a"])]).run_settled [] ⟨30, 950⟩ hsent).2
  obtain ⟨a, rest, ha, -, hrest⟩ := List.forall₂_cons_left_iff.1 hanswers
  obtain rfl := (ha .wholeOfInfinity).2 (.infinite hinfinite)
  obtain ⟨d, hd⟩ := h _ _ _ _ hb (Contents.ofFinder_bank _ _ _)
    _ hsent _ (hrest ▸ List.mem_cons_self)
  cases hd

end Panel

end Phrasebook
