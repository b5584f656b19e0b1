import Phrasebook.Proofs.Panel
import Phrasebook.Session.Run

/-!
# Phrasebook.Proofs.Changes

Where a session ends after a run of changes.

A change is refused for what it is, not for when it comes: because its value stands for no number, or
because it is a category and the position behind it has no key (`Change.refusal?`). A change that is
not refused sets the one member that it names. So the last accepted change of each kind settles where a
session ends (`Plain.outcome`), and changes of different kinds may change places. `change_refused` and
`change_accepted` say so of one change, `after_settles` carries it along a run.

No other number is refused, whatever is logged: what a text, a double or a truth value stands for has
few enough digits to be written (`Value.isWritable_of_toInteger`).
-/

namespace Phrasebook

/-! ## The size of what is read -/

namespace Double

theorem twoTo_add (m n : Nat) : twoTo (m + n) = twoTo m * twoTo n := Nat.pow_add 2 m n

theorem twoTo_le {m n : Nat} (h : m ≤ n) : twoTo m ≤ twoTo n := Nat.pow_le_pow_right (by decide) h

theorem twoTo_le_pow {m n : Nat} (h : m ≤ n) : twoTo m ≤ 10 ^ n :=
  Nat.le_trans (Nat.pow_le_pow_left (by decide) m) (Nat.pow_le_pow_right (by decide) h)

theorem twoTo_pos (n : Nat) : 0 < twoTo n := Nat.two_pow_pos n

/-- A mantissa of 53 bits and an exponent up to 971 make a number below two to the power of 1024. -/
theorem View.natAbs_lt {negative : Bool} {mantissa : Nat} {exponent n : Int}
    (hmantissa : mantissa < twoTo 53) (hexponent : exponent ≤ 971)
    (h : (View.finite negative mantissa exponent).truncate? = some n) : n.natAbs < twoTo 1024 := by
  have hnat : n.natAbs = if 0 ≤ exponent then mantissa * twoTo exponent.toNat
      else mantissa / twoTo (-exponent).toNat := by
    simp only [View.truncate?, Option.some.injEq] at h
    rw [← h]
    cases negative
    · exact Int.natAbs_natCast _
    · exact (Int.natAbs_neg _).trans (Int.natAbs_natCast _)
  rw [hnat]
  split_ifs
  · calc mantissa * twoTo exponent.toNat
        < twoTo 53 * twoTo exponent.toNat := Nat.mul_lt_mul_of_pos_right hmantissa (twoTo_pos _)
      _ = twoTo (53 + exponent.toNat) := (twoTo_add _ _).symm
      _ ≤ twoTo 1024 := twoTo_le (by omega)
  · calc mantissa / twoTo (-exponent).toNat
        ≤ mantissa := Nat.div_le_self _ _
      _ < twoTo 53 := hmantissa
      _ ≤ twoTo 1024 := twoTo_le (by decide)

/-- Every finite double is one of these. -/
theorem natAbs_lt_of_truncate? {bits : Nat} {n : Int} (h : (viewBits bits).truncate? = some n) :
    n.natAbs < twoTo 1024 := by
  have hfraction : bits % twoTo 52 < twoTo 52 := Nat.mod_lt _ (twoTo_pos 52)
  have hbiased : bits / twoTo 52 % twoTo 11 < 2048 := Nat.mod_lt _ (twoTo_pos 11)
  have htwo : twoTo 53 = twoTo 52 + twoTo 52 := by decide
  simp only [viewBits, beq_iff_eq] at h
  generalize bits % twoTo 52 = fraction at h hfraction
  generalize bits / twoTo 52 % twoTo 11 = biased at h hbiased
  split_ifs at h
  · cases h
  · cases h
  · exact View.natAbs_lt (by omega) (by decide) h
  · refine View.natAbs_lt (by omega) ?_ h
    simp only [Int.ofNat_eq_natCast]
    omega

end Double

/-- The number that a value stands for can be written, if the value is not itself a number that
cannot. -/
theorem Value.isWritable_of_toInteger {v : Value} {n : Int} (h : v.toInteger = .ok n)
    (hv : ∀ k, v = .int k → Numeral.isWritable k = true) : Numeral.isWritable n = true := by
  cases v with
  | int k =>
    cases h
    exact hv n rfl
  | bool b => cases b <;> cases h <;> decide
  | float x =>
    simp only [toInteger] at h
    split at h
    · cases h
    · cases h
    · cases h
      rw [Numeral.isWritable_iff]
      cases htruncate : (Double.view x).truncate? with
      | none => exact Nat.pow_pos (by decide)
      | some k =>
        exact Nat.lt_of_lt_of_le (Double.natAbs_lt_of_truncate? htruncate)
          (Double.twoTo_le_pow (by decide))
  | text s =>
    rw [toInteger] at h
    cases hread : Numeral.read s.toList with
    | ok k =>
      rw [hread] at h
      cases h
      exact Numeral.isWritable_of_read hread
    | error e =>
      rw [hread] at h
      cases h
  | null | array _ | object _ => cases h

/-! ## Changes -/

/-- What a change is about. -/
inductive Change.Kind where
  | category
  | tier
  | query
  | other
  deriving DecidableEq

namespace Change

def kind : Change → Kind
  | category _ => .category
  | tier _ => .tier
  | query _ => .query
  | other _ => .other

/-- The changes that commands bring: any values as categories and tiers, except whole numbers with as
many digits as a numeral may have, and texts or nothing as queries. -/
def IsSent : Change → Prop
  | category v | tier v =>
    ∀ n, v = .int n → (Numeral.natural n.natAbs).length < Numeral.maxDigits
  | query v => v = .null ∨ ∃ s, v = .text s
  | other _ => False

/-- The category that a change brings. -/
def category? : Change → Option Int
  | category v => v.toInteger.toOption
  | _ => none

/-- The tier that a change brings. -/
def tier? : Change → Option Int
  | tier v => v.toInteger.toOption
  | _ => none

/-- The query that a change brings; nothing counts as the empty one. -/
def query? : Change → Option String
  | query v => some (v.text?.getD "")
  | _ => none

/-- Why the value of a change stands for no number. -/
def unread? : Change → Option Fault
  | category v | tier v =>
    match v.toInteger with
    | .error f => some f
    | .ok _ => none
  | _ => none

/-- No key can be written for the category of a change. -/
def isKeyless (c : Change) : Bool := c.category?.any fun n => !Numeral.isWritable (n + 1)

/-- Why a change is refused, if it is. -/
def refusal? (c : Change) : Option Fault :=
  c.unread?.or (if c.isKeyless then some .longNumber else none)

/-- The same changes in another order, which is the same order within each kind. -/
def Interleaved (cs cs' : List Change) : Prop :=
  ∀ k, cs.filter (·.kind = k) = cs'.filter (·.kind = k)

end Change

namespace Plain

/-- The selection with the member that a change brings. -/
def set (s : Plain) (c : Change) : Plain :=
  ⟨c.category?.getD s.category, c.tier?.or s.tier, c.query?.getD s.query⟩

/-- The selection with the last members that changes bring, of those that are not refused. -/
def outcome (start : Plain) (cs : List Change) : Plain :=
  let accepted := cs.filter fun c => c.refusal?.isNone
  ⟨(accepted.filterMap Change.category?).getLast?.getD start.category,
    (accepted.filterMap Change.tier?).getLast?.or start.tier,
    (accepted.filterMap Change.query?).getLast?.getD start.query⟩

theorem outcome_concat_refused {c : Change} {f : Fault} (h : c.refusal? = some f) (start : Plain)
    (cs : List Change) : start.outcome (cs ++ [c]) = start.outcome cs := by
  have hc : [c].filter (fun c => c.refusal?.isNone) = [] := by simp [h]
  simp only [outcome, List.filter_append, hc, List.append_nil]

theorem outcome_concat_accepted {c : Change} (h : c.refusal? = none) (start : Plain)
    (cs : List Change) : start.outcome (cs ++ [c]) = (start.outcome cs).set c := by
  have hc : [c].filter (fun c => c.refusal?.isNone) = [c] := by simp [h]
  simp only [outcome, set, List.filter_append, hc, List.filterMap_append, List.getLast?_append]
  cases hcat : c.category? <;> cases htier : c.tier? <;> cases hquery : c.query? <;>
    simp [hcat, htier, hquery]

end Plain

/-! ## Changes in another order -/

namespace Change

theorem Interleaved.mem {cs cs' : List Change} (h : Interleaved cs cs') {x : Change}
    (hx : x ∈ cs') : x ∈ cs := by
  have hkind : x ∈ cs'.filter (·.kind = x.kind) := by simp [hx]
  rw [← h] at hkind
  exact (List.mem_filter.1 hkind).1

/-- What only changes of one kind bring is brought by the changes of that kind. -/
theorem filterMap_eq_of_kind {α : Type} {k : Kind} {g : Change → Option α}
    (hg : ∀ x, x.kind ≠ k → g x = none) (p : Change → Bool) (cs : List Change) :
    (cs.filter p).filterMap g = ((cs.filter (·.kind = k)).filter p).filterMap g := by
  rw [List.filterMap_filter, List.filterMap_filter, List.filterMap_filter]
  congr 1
  funext x
  by_cases hx : x.kind = k
  · simp [hx]
  · simp [hx, hg x hx]

theorem category?_eq_none {x : Change} (h : x.kind ≠ .category) : x.category? = none := by
  cases x with
  | category v => exact absurd rfl h
  | _ => rfl

theorem tier?_eq_none {x : Change} (h : x.kind ≠ .tier) : x.tier? = none := by
  cases x with
  | tier v => exact absurd rfl h
  | _ => rfl

theorem query?_eq_none {x : Change} (h : x.kind ≠ .query) : x.query? = none := by
  cases x with
  | query v => exact absurd rfl h
  | _ => rfl

end Change

theorem Plain.outcome_interleaved {cs cs' : List Change} (h : Change.Interleaved cs cs')
    (start : Plain) : start.outcome cs = start.outcome cs' := by
  simp only [outcome]
  rw [Change.filterMap_eq_of_kind (fun _ => Change.category?_eq_none) _ cs,
    Change.filterMap_eq_of_kind (fun _ => Change.tier?_eq_none) _ cs,
    Change.filterMap_eq_of_kind (fun _ => Change.query?_eq_none) _ cs, h, h, h,
    ← Change.filterMap_eq_of_kind (fun _ => Change.category?_eq_none) _ cs',
    ← Change.filterMap_eq_of_kind (fun _ => Change.tier?_eq_none) _ cs',
    ← Change.filterMap_eq_of_kind (fun _ => Change.query?_eq_none) _ cs']

/-! ## The number of a change -/

namespace Change

theorem isWritable_of_length_lt {n : Int}
    (h : (Numeral.natural n.natAbs).length < Numeral.maxDigits) : Numeral.isWritable n = true :=
  decide_eq_true (Nat.le_of_lt h)

theorem toInteger_of_toOption {v : Value} {n : Int} (h : v.toInteger.toOption = some n) :
    v.toInteger = .ok n := by
  cases hv : v.toInteger with
  | error f =>
    rw [hv] at h
    cases h
  | ok k =>
    rw [hv] at h
    cases h
    rfl

theorem isWritable_of_category? {x : Change} (hx : x.IsSent) {n : Int} (h : x.category? = some n) :
    Numeral.isWritable n = true := by
  cases x with
  | category v =>
    exact Value.isWritable_of_toInteger (toInteger_of_toOption h)
      fun k hk => isWritable_of_length_lt (hx k hk)
  | tier v | query v | other v => cases h

theorem isWritable_of_tier? {x : Change} (hx : x.IsSent) {n : Int} (h : x.tier? = some n) :
    Numeral.isWritable n = true := by
  cases x with
  | tier v =>
    exact Value.isWritable_of_toInteger (toInteger_of_toOption h)
      fun k hk => isWritable_of_length_lt (hx k hk)
  | category v | query v | other v => cases h

/-- One category only is read and has no key: the one before the first number that is too long. -/
theorem refusal?_eq_unread? {x : Change} (hx : x.IsSent)
    (h : ∀ n, x.category? = some n → n + 1 ≠ 10 ^ Numeral.maxDigits) : x.refusal? = x.unread? := by
  have hkey : x.isKeyless = false := by
    rw [isKeyless, Option.any_eq_false]
    intro n hn
    have hwritable := (Numeral.isWritable_iff n).1 (isWritable_of_category? hx hn)
    have hne := h n hn
    have hcast : ((10 ^ Numeral.maxDigits : Nat) : Int) = 10 ^ Numeral.maxDigits := by
      push_cast
      rfl
    rw [← hcast] at hne
    rw [Bool.not_eq_false', Numeral.isWritable_iff]
    -- The power itself is never worked out.
    generalize 10 ^ Numeral.maxDigits = k at hwritable hne
    omega
  rw [refusal?, hkey]
  simp

end Change

/-! ## One change -/

theorem Selection.apply_unread {x : Change} {f : Fault} (h : x.unread? = some f) (s : Selection) :
    s.apply x = .error f := by
  cases x with
  | category v | tier v =>
    simp only [Change.unread?] at h
    split at h
    · rename_i hv
      cases h
      simp only [apply, hv]
      rfl
    · cases h
  | query v => cases h
  | other v => cases h

theorem Plain.apply_set {x : Change} (hx : x.IsSent) (h : x.unread? = none) (s : Plain) :
    s.selection.apply x = .ok (s.set x).selection := by
  cases x with
  | category v | tier v =>
    simp only [Change.unread?] at h
    split at h
    · cases h
    · rename_i hv
      simp only [Selection.apply, hv]
      simp only [set, Change.category?, Change.tier?, Change.query?, hv]
      rfl
  | query v =>
    rcases hx with rfl | ⟨q, rfl⟩
    · rfl
    · rw [Selection.apply, Value.orEmpty_text]
      rfl
  | other v => cases hx

theorem Plain.canAsk_set_iff {b : Bank} {o : Outlet} {s : Plain} (h : b.CanAsk o s.category s.tier)
    {x : Change} (hx : x.IsSent) :
    b.CanAsk o (s.set x).category (s.set x).tier ↔ x.isKeyless = false := by
  obtain ⟨⟨hcategory, htier⟩, htell⟩ := h
  cases x with
  | category v =>
    cases hv : v.toInteger.toOption with
    | none =>
      simp only [set, Change.isKeyless, Change.category?, Change.tier?, hv]
      exact iff_of_true ⟨⟨hcategory, htier⟩, htell⟩ rfl
    | some n =>
      have hn : Numeral.isWritable n = true := Change.isWritable_of_category? hx hv
      simp only [set, Change.isKeyless, Change.category?, Change.tier?, hv, Option.any_some,
        Bool.not_eq_false', Option.getD_some, Option.none_or]
      exact ⟨fun h => h.1.1, fun hkey => ⟨⟨hkey, htier⟩, fun hdebug => ⟨hn, (htell hdebug).2⟩⟩⟩
  | tier v =>
    simp only [set, Change.isKeyless, Change.category?, Change.tier?]
    cases hv : v.toInteger.toOption with
    | none => exact iff_of_true ⟨⟨hcategory, htier⟩, htell⟩ rfl
    | some n =>
      have hn : ∀ k ∈ some n, Numeral.isWritable k = true := by
        rintro k ⟨⟩
        exact Change.isWritable_of_tier? hx hv
      exact iff_of_true ⟨⟨hcategory, fun _ => hn⟩, fun hdebug => ⟨(htell hdebug).1, hn⟩⟩ rfl
  | query v => exact iff_of_true ⟨⟨hcategory, htier⟩, htell⟩ rfl
  | other v => cases hx

namespace Session

/-- The session stands at a selection that the bank of its finder can be asked for. -/
structure StandsAt (b : Bank) (o : Outlet) (p : Plain) (s : Session) : Prop where
  finder : s.finder = .ofBank b o
  selection : s.selection = p.selection
  canAsk : b.CanAsk o p.category p.tier

section Change

variable {c : Contents} {labels : List String} {o : Outlet} {p : Plain} {s : Session} {x : Change}
  (h : s.StandsAt (c.bank labels) o p) (hx : x.IsSent)

include h hx

theorem change_refused {f : Fault} (hf : x.refusal? = some f) :
    (s.change x).1.result = .error f ∧ (s.change x).2.StandsAt (c.bank labels) o p := by
  have hdispatch : (s.finder.dispatch s.selection x s.meters).result = .error f := by
    rw [h.finder, h.selection, Finder.dispatch]
    cases hunread : x.unread? with
    | some f' =>
      rw [Change.refusal?, hunread] at hf
      cases hf
      rw [Selection.apply_unread hunread]
    | none =>
      rw [Plain.apply_set hx hunread]
      rw [Change.refusal?, hunread, Option.none_or] at hf
      split at hf
      · rename_i hlong
        cases hf
        refine Contents.search_of_not_canAsk ?_ s.meters
        rw [Plain.canAsk_set_iff h.canAsk hx, hlong]
        exact Bool.noConfusion
      · cases hf
  simp only [change, hdispatch, true_and]
  exact ⟨h.finder, h.selection, h.canAsk⟩

theorem change_accepted (hf : x.refusal? = none) :
    ∃ found, (s.change x).1.result = .ok (.found found) ∧ found.selection = (p.set x).selection ∧
      (s.change x).2.StandsAt (c.bank labels) o (p.set x) := by
  rw [Change.refusal?, Option.or_eq_none_iff] at hf
  obtain ⟨hunread, hlong⟩ := hf
  have hcanAsk : (c.bank labels).CanAsk o (p.set x).category (p.set x).tier := by
    rw [Plain.canAsk_set_iff h.canAsk hx]
    simpa using hlong
  obtain ⟨ss, hss⟩ := Contents.search_of_canAsk hcanAsk s.meters
  have hdispatch : (s.finder.dispatch s.selection x s.meters).result =
      .ok ⟨(p.set x).selection, ss.map .text⟩ := by
    rw [h.finder, h.selection, Finder.dispatch, Plain.apply_set hx hunread]
    exact hss
  simp only [change, hdispatch]
  exact ⟨_, rfl, rfl, h.finder, rfl, hcanAsk⟩

theorem change_error_iff (f : Fault) :
    (s.change x).1.result = .error f ↔ x.refusal? = some f := by
  constructor
  · intro herror
    cases hf : x.refusal? with
    | some f' =>
      rw [(change_refused h hx hf).1] at herror
      cases herror
      rfl
    | none =>
      obtain ⟨found, hfound, -⟩ := change_accepted h hx hf
      rw [hfound] at herror
      cases herror
  · intro hf
    exact (change_refused h hx hf).1

end Change

/-! ## Runs of changes -/

/-- The session after changes. -/
def after (s : Session) (cs : List Change) : Session :=
  cs.foldl (fun s x => (s.step (.change x)).2) s

theorem after_concat (s : Session) (cs : List Change) (x : Change) :
    s.after (cs ++ [x]) = ((s.after cs).change x).2 := by
  simp [after, step]

theorem after_standsAt {c : Contents} {labels : List String} {o : Outlet} {p : Plain} {s : Session}
    (h : s.StandsAt (c.bank labels) o p) {cs : List Change} (hcs : ∀ x ∈ cs, x.IsSent) :
    (s.after cs).StandsAt (c.bank labels) o (p.outcome cs) := by
  induction cs using List.reverseRecOn with
  | nil => exact h
  | append_singleton cs x ih =>
    have hstands := ih fun x hx => hcs x (List.mem_append_left _ hx)
    have hx := hcs x (by simp)
    rw [after_concat]
    cases hf : x.refusal? with
    | some f =>
      rw [Plain.outcome_concat_refused hf]
      exact (change_refused hstands hx hf).2
    | none =>
      rw [Plain.outcome_concat_accepted hf]
      obtain ⟨found, -, -, hnext⟩ := change_accepted hstands hx hf
      exact hnext

/-- Wherever a session stands, a search finds something, and the same in every session that stands
there. -/
theorem exists_found {c : Contents} {labels : List String} {o : Outlet} {p : Plain}
    (h : (c.bank labels).CanAsk o p.category p.tier) :
    ∃ found, ∀ s : Session, s.StandsAt (c.bank labels) o p →
      ∀ m, (s.finder.search s.selection m).result = .ok found := by
  obtain ⟨ss, hss⟩ := Contents.search_of_canAsk h .zero
  refine ⟨⟨p.selection, ss.map .text⟩, ?_⟩
  intro s hs m
  rw [hs.finder, hs.selection, ← hss]
  exact Finder.search_result_eq _ _ m .zero

theorem start_bank (c : Contents) (labels : List String) (o : Outlet) :
    start (.ofBank (c.bank labels) o) =
      .ok ⟨.ofBank (c.bank labels) o, (c.start labels).selection, .zero⟩ := by
  rw [start, Contents.initial_bank]
  rfl

/-- **A session ends where the last accepted change of each kind has led it.** A change fails exactly
if it is refused, which means that the value stands for no number, save for the one category that has
no key; then it leaves the selection as it is. Changes of different kinds may change places: the
session ends at the same selection, and a search for it finds the same. -/
theorem after_settles {document : Value} {labels : List String} {b : Bank}
    (hb : Bank.ofDocument document labels = .ok b) (o : Outlet) :
    ∃ (s : Session) (p : Plain), start (.ofBank b o) = .ok s ∧ s.selection = p.selection ∧
      p.category = 0 ∧ b.defaultTier = .ok p.tier ∧ p.query = "" ∧
      ∀ cs : List Change, (∀ x ∈ cs, x.IsSent) →
        (∀ x : Change, x.IsSent →
          (∀ f, ((s.after cs).change x).1.result = .error f ↔ x.refusal? = some f) ∧
          ((∀ n, x.category? = some n → n + 1 ≠ 10 ^ Numeral.maxDigits) →
            ∀ f, ((s.after cs).change x).1.result = .error f ↔ x.unread? = some f) ∧
          ∀ f, ((s.after cs).change x).1.result = .error f →
            ((s.after cs).change x).2.selection = (s.after cs).selection) ∧
        (s.after cs).selection = (p.outcome cs).selection ∧
        ∃ found, (∀ m, ((s.after cs).finder.search (s.after cs).selection m).result = .ok found) ∧
          ∀ cs', Change.Interleaved cs cs' →
            (s.after cs').selection = (s.after cs).selection ∧
            ∀ m, ((s.after cs').finder.search (s.after cs').selection m).result = .ok found := by
  obtain ⟨c, -, rfl⟩ := (Bank.ofDocument_eq_ok_iff document labels b).1 hb
  refine ⟨_, c.start labels, start_bank c labels o, rfl, rfl, c.defaultTier_bank labels, rfl, ?_⟩
  intro cs hcs
  have hstart : StandsAt (c.bank labels) o (c.start labels)
      ⟨.ofBank (c.bank labels) o, (c.start labels).selection, .zero⟩ :=
    ⟨rfl, rfl, (c.start_settled labels o).canAsk⟩
  have hstands := after_standsAt hstart hcs
  refine ⟨?_, hstands.selection, ?_⟩
  · intro x hx
    have hiff := change_error_iff hstands hx
    refine ⟨hiff, ?_, ?_⟩
    · intro hlast f
      rw [hiff, Change.refusal?_eq_unread? hx hlast]
    · intro f herror
      rw [(change_refused hstands hx ((hiff f).1 herror)).2.selection, hstands.selection]
  · obtain ⟨found, hfound⟩ := exists_found hstands.canAsk
    refine ⟨found, hfound _ hstands, ?_⟩
    intro cs' hcs'
    have hstands' := after_standsAt hstart fun x hx => hcs x (hcs'.mem hx)
    rw [← Plain.outcome_interleaved hcs'] at hstands'
    exact ⟨hstands'.selection.trans hstands.selection.symm, hfound _ hstands'⟩

/-- A category in Persian digits and a query, in either order; then a category that is none. -/
theorem after_settles_either_order : ∃ b s,
    Bank.ofDocument (.object [Bank.spelledTier.member]) [] = .ok b ∧
      start (.ofBank b ⟨10, 950⟩) = .ok s ∧
      (s.after [.category (.text " ۵"), .query (.text "a*"), .category .null]).selection =
        ⟨.int 5, .int 3, .text "a*"⟩ ∧
      (s.after [.query (.text "a*"), .category (.text " ۵"), .category .null]).selection =
        ⟨.int 5, .int 3, .text "a*"⟩ := by
  have hb : Bank.ofDocument (.object [Bank.spelledTier.member]) [] =
      .ok ((Contents.tiered [Bank.spelledTier] (by simp)).bank []) :=
    (Bank.ofDocument_eq_ok_iff _ _ _).2 ⟨_, rfl, rfl⟩
  obtain ⟨s, p, hs, -, -, htier, -, hrun⟩ := after_settles hb ⟨10, 950⟩
  obtain ⟨-, houtcome, found, -, hreordered⟩ :=
    hrun [.category (.text " ۵"), .query (.text "a*"), .category .null] (by simp [Change.IsSent])
  have hinterleaved : Change.Interleaved
      [.category (.text " ۵"), .query (.text "a*"), .category .null]
      [.query (.text "a*"), .category (.text " ۵"), .category .null] := by
    intro k
    cases k <;> rfl
  have hthird : p.tier = some 3 := (Except.ok.inj htier).symm
  have hselection : (s.after
      [.category (.text " ۵"), .query (.text "a*"), .category .null]).selection =
        ⟨.int 5, .int 3, .text "a*"⟩ := by
    rw [houtcome, Plain.outcome, hthird]
    rfl
  exact ⟨_, s, hb, hs, hselection, (hreordered _ hinterleaved).1.trans hselection⟩

/-- The largest number of a text is read, and no category key can be written with it. -/
theorem change_overlong_text : ¬∀ (document : Value) (labels : List String) (b : Bank) (s : Session)
    (x : Change), Bank.ofDocument document labels = .ok b →
    start (.ofBank b ⟨30, 950⟩) = .ok s → x.IsSent →
    ∀ f, (s.change x).1.result = .error f ↔ x.unread? = some f := by
  intro h
  obtain ⟨n, hread, hnext⟩ := Numeral.exists_last
  have hn : (Value.text (Numeral.write n)).toInteger = .ok n := by
    rw [Value.toInteger, Numeral.write, String.toList_ofList, Numeral.read_chars hread]
    rfl
  have hunread : (Change.category (.text (Numeral.write n))).unread? = none := by
    rw [Change.unread?, hn]
  have hrefusal : (Change.category (.text (Numeral.write n))).refusal? = some .longNumber := by
    rw [Change.refusal?, hunread, Change.isKeyless, Change.category?, hn]
    simp [Except.toOption, hnext]
  have hb : Bank.ofDocument (.object [("01", .ofTexts ["a"])]) [] =
      .ok ((Contents.flat [("01", ["a"])]).bank []) :=
    (Bank.ofDocument_eq_ok_iff _ _ _).2 ⟨_, rfl, rfl⟩
  have hstands : StandsAt ((Contents.flat [("01", ["a"])]).bank []) ⟨30, 950⟩
      ((Contents.flat [("01", ["a"])]).start [])
      ⟨.ofBank ((Contents.flat [("01", ["a"])]).bank []) ⟨30, 950⟩, _, .zero⟩ :=
    ⟨rfl, rfl, ((Contents.flat [("01", ["a"])]).start_settled [] _).canAsk⟩
  have hsent : (Change.category (.text (Numeral.write n))).IsSent := by
    intro k hk
    cases hk
  have herror := (change_refused hstands hsent hrefusal).1
  have hunread' := (h _ [] _ _ _ hb (start_bank _ [] _) hsent _).1 herror
  rw [hunread] at hunread'
  cases hunread'

end Session

end Phrasebook
