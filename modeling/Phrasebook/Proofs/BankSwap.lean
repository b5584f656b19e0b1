import Phrasebook.Proofs.Channels
import Phrasebook.Session.Application
import Phrasebook.Session.Run

/-!
# Phrasebook.Proofs.BankSwap

A finder that is put on another bank is as good as a new one.

All that a finder has of its bank is the bank itself and one bound detail of its logger, and another
bank replaces both (`setBank_ofBank`). So every finder of a run is the one that would be opened on its
bank. What is left of the past is in the meters. They are counted on but never asked: over other meters
a run of inquiries answers the same and adds the same to them (`replies_plus`).
-/

namespace Phrasebook

open List (Forall₂)

/-! ## Growth -/

namespace Histogram

variable {β : Type}

/-- The observations of two histograms together, cell by cell. -/
def plus (h g : Histogram Nat β) : Histogram Nat β :=
  ⟨h.cells.zipWith (fun c d => (c.1, c.2 + d.2)) g.cells, h.sum + g.sum⟩

@[simp] theorem bounds_observe (h : Histogram Nat β) (sum : Nat) (holds : β → Bool) :
    (h.observe sum holds).bounds = h.bounds := by
  obtain ⟨cells, _⟩ := h
  simp only [bounds, observe]
  induction cells with
  | nil => rfl
  | cons c cells ih =>
    rw [countIn]
    split
    · rfl
    · rw [List.map_cons, List.map_cons, ih]

theorem plus_empty {h : Histogram Nat β} {bs : List β} (hbs : h.bounds = bs) :
    h.plus (.empty 0 bs) = h := by
  subst hbs
  obtain ⟨cells, sum⟩ := h
  simp only [plus, empty, bounds, Nat.add_zero, Histogram.mk.injEq, and_true]
  induction cells with
  | nil => rfl
  | cons c cells ih => rw [List.map_cons, List.map_cons, List.zipWith_cons_cons, ih]; rfl

theorem countIn_zipWith (holds : β → Bool) {cells cells' : List (β × Nat)}
    (h : cells.map Prod.fst = cells'.map Prod.fst) :
    countIn holds (cells.zipWith (fun c d => (c.1, c.2 + d.2)) cells') =
      cells.zipWith (fun c d => (c.1, c.2 + d.2)) (countIn holds cells') := by
  induction cells generalizing cells' with
  | nil => rfl
  | cons c cells ih =>
    cases cells' with
    | nil => cases h
    | cons d cells' =>
      obtain ⟨hbound, hrest⟩ := List.cons.inj h
      rw [List.zipWith_cons_cons, countIn, countIn, hbound]
      split
      · rw [List.zipWith_cons_cons, hbound]
        rfl
      · rw [List.zipWith_cons_cons, hbound, ih hrest]

/-- What is observed on top of others adds to them. -/
theorem plus_observe {h g : Histogram Nat β} (hbounds : h.bounds = g.bounds) (n : Nat)
    (holds : β → Bool) :
    (h.plus g).observe ((h.plus g).sum + n) holds = h.plus (g.observe (g.sum + n) holds) := by
  simp only [plus, observe, countIn_zipWith holds hbounds, Nat.add_assoc]

end Histogram

namespace Meters

/-- What two meters counted, together. -/
def plus (m g : Meters) : Meters :=
  ⟨m.requests + g.requests, m.failures + g.failures, m.durations + g.durations,
    m.sizes.plus g.sizes⟩

theorem plus_request (m g : Meters) : (m.plus g).request = m.plus g.request := rfl

theorem plus_finished {m g : Meters} (h : m.sizes.bounds = g.sizes.bounds) (n : Nat) :
    (m.plus g).finished n = m.plus (g.finished n) := by
  simp only [plus, finished, Histogram.plus_observe h, Nat.add_assoc]

theorem plus_zero {m : Meters} (h : m.sizes.bounds = sizeBounds) : m.plus .zero = m := by
  simp only [plus, zero, Histogram.plus_empty h, Nat.add_zero]

end Meters

namespace Answer

variable {α : Type}

/-- The answer where other meters have counted before. -/
def after (m : Meters) (a : Answer α) : Answer α := { a with meters := m.plus a.meters }

theorem after_logged (m : Meters) (log : Except Fault (List Record)) (a : Answer α) :
    (a.logged log).after m = (a.after m).logged log := by
  cases log <;> rfl

/-- Two answers, one that began over the meters `m` and one over `m'`, have the same result and the
same trace, and the meters have grown by the same. -/
structure Alike (m m' : Meters) (a a' : Answer α) : Prop where
  result : a.result = a'.result
  trace : a.trace = a'.trace
  growth : ∃ g, a.meters = m.plus g ∧ a'.meters = m'.plus g

theorem alike_after (m m' : Meters) (a : Answer α) : Alike m m' (a.after m) (a.after m') :=
  ⟨rfl, rfl, a.meters, rfl, rfl⟩

end Answer

/-! ## Inquiries -/

/-- What a finder can be asked for. -/
inductive Inquiry where
  | initial
  | search (s : Selection)
  | dispatch (s : Selection) (c : Change)

namespace Finder

variable {f : Finder} {m g : Meters}

/-- The answer to one inquiry. -/
def reply (f : Finder) (m : Meters) : Inquiry → Answer Outcome
  | .initial => ⟨f.initial.map .selection, {}, m⟩
  | .search s =>
    let a := f.search s m
    ⟨a.result.map .found, a.trace, a.meters⟩
  | .dispatch s c =>
    let a := f.dispatch s c m
    ⟨a.result.map .found, a.trace, a.meters⟩

/-- The answers to inquiries, one after another. -/
def replies (f : Finder) (m : Meters) : List Inquiry → List (Answer Outcome)
  | [] => []
  | q :: qs => f.reply m q :: f.replies (f.reply m q).meters qs

/-- An inquiry makes one search, or it leaves the meters alone. -/
theorem reply_cases (f : Finder) (q : Inquiry) :
    (∃ result, ∀ m, f.reply m q = ⟨result, {}, m⟩) ∨
      ∃ s, ∀ m, f.reply m q = f.reply m (.search s) := by
  cases q with
  | initial => exact .inl ⟨_, fun _ => rfl⟩
  | search s => exact .inr ⟨s, fun _ => rfl⟩
  | dispatch s c =>
    simp only [reply, dispatch]
    cases s.apply c with
    | error e => exact .inl ⟨_, fun _ => rfl⟩
    | ok s' => exact .inr ⟨s', fun _ => rfl⟩

theorem failed_plus (s : Selection) (span : Span Fault) (e : Fault) (rs : List Record) :
    f.failed s span e rs (m.plus g) = (f.failed s span e rs g).after m := by
  rw [failed, failed, Answer.after_logged]
  rfl

theorem finished_plus (h : m.sizes.bounds = g.sizes.bounds) (s : Selection) (span : Span Fault)
    (candidates : Nat) (found : List Value) (rs : List Record) :
    f.finished s span candidates found rs (m.plus g) =
      (f.finished s span candidates found rs g).after m := by
  rw [finished, finished, Answer.after_logged, Meters.plus_finished h]
  rfl

theorem search_plus (h : m.sizes.bounds = g.sizes.bounds) (s : Selection) :
    f.search s (m.plus g) = (f.search s g).after m := by
  simp only [search, Meters.plus_request]
  cases s.query.orEmpty.length with
  | error e => rfl
  | ok n =>
    simp only
    cases f.bank.lookup s.category s.tier with
    | error e => exact failed_plus _ _ _ _
    | ok l =>
      simp only
      cases (Matcher.ofQuery s.query).select l.phrases with
      | error e => exact failed_plus _ _ _ _
      | ok found =>
        have hrequest : m.sizes.bounds = g.request.sizes.bounds := h
        exact finished_plus hrequest _ _ _ _ _

theorem Course.bounds_eq {s : Selection} {a : Answer Found} (h : f.Course s m a) :
    a.meters.sizes.bounds = m.sizes.bounds := by
  cases h with
  | unmeasured => rfl
  | failed =>
    rw [Finder.failed, Answer.logged_meters]
    rfl
  | finished =>
    rw [Finder.finished, Answer.logged_meters]
    exact Histogram.bounds_observe _ _ _

theorem reply_plus (h : m.sizes.bounds = g.sizes.bounds) (q : Inquiry) :
    f.reply (m.plus g) q = (f.reply g q).after m := by
  rcases f.reply_cases q with ⟨result, hq⟩ | ⟨s, hq⟩
  · rw [hq, hq]
    rfl
  · rw [hq, hq]
    simp only [reply, search_plus h]
    rfl

theorem bounds_reply (q : Inquiry) : (f.reply m q).meters.sizes.bounds = m.sizes.bounds := by
  rcases f.reply_cases q with ⟨result, hq⟩ | ⟨s, hq⟩
  · rw [hq]
  · rw [hq]
    exact (f.search_course s m).bounds_eq

/-- Over meters that have counted before, inquiries are answered the same. -/
theorem replies_plus (h : m.sizes.bounds = g.sizes.bounds) (qs : List Inquiry) :
    f.replies (m.plus g) qs = (f.replies g qs).map (·.after m) := by
  induction qs generalizing g with
  | nil => rfl
  | cons q qs ih =>
    have hreply : m.sizes.bounds = (f.reply g q).meters.sizes.bounds := by rw [bounds_reply, h]
    rw [replies, replies, List.map_cons, reply_plus h]
    exact congrArg _ (ih hreply)

/-- The answers over some meters are those over none, which show the growth. -/
theorem replies_eq_after (f : Finder) (h : m.sizes.bounds = Meters.sizeBounds) (qs : List Inquiry) :
    f.replies m qs = (f.replies .zero qs).map (·.after m) := by
  have hzero : m.sizes.bounds = Meters.zero.sizes.bounds := h
  rw [← replies_plus hzero, Meters.plus_zero h]

theorem replies_alike (f : Finder) {m m' : Meters} (h : m.sizes.bounds = Meters.sizeBounds)
    (h' : m'.sizes.bounds = Meters.sizeBounds) (qs : List Inquiry) :
    Forall₂ (Answer.Alike m m') (f.replies m qs) (f.replies m' qs) := by
  rw [f.replies_eq_after h, f.replies_eq_after h', List.forall₂_map_left_iff,
    List.forall₂_map_right_iff, List.forall₂_same]
  exact fun a _ => Answer.alike_after m m' a

/-! ## Records -/

/-- A record of the finder's own, with details besides the shape of the bank. -/
def Writes (f : Finder) (r : Record) : Prop :=
  ∃ severity message details, r = f.logger.entry severity message details ∧
    "tiered" ∉ Pairs.keys details

theorem writes_of_record {severity : Severity} {message : String} {given own : Members Value}
    {rs : List Record} (h : f.logger.record severity message given own = .ok rs)
    (hkeys : "tiered" ∉ Pairs.keys (given ++ own)) {r : Record} (hr : r ∈ rs) : f.Writes r := by
  rw [Logger.record] at h
  split at h
  · split at h
    · cases h
    · cases h
      exact ⟨severity, message, given ++ own, List.mem_singleton.1 hr, hkeys⟩
  · cases h
    cases hr

variable {s : Selection} {span : Span Fault} {rs : List Record} {r : Record}

theorem mem_records_logged {α : Type} {log : Except Fault (List Record)} {a : Answer α}
    (hlog : ∀ logged, log = .ok logged → ∀ r ∈ logged, f.Writes r)
    (h : r ∈ (a.logged log).trace.records) : r ∈ a.trace.records ∨ f.Writes r := by
  cases log with
  | error e => exact .inl h
  | ok logged => exact (List.mem_append.1 h).imp_right fun hr => hlog logged rfl r hr

theorem mem_records_failed {e : Fault} (h : r ∈ (f.failed s span e rs m).trace.records) :
    r ∈ rs ∨ f.Writes r :=
  mem_records_logged (fun _ hlog _ hr => writes_of_record hlog (by simp) hr) h

theorem mem_records_finished {candidates : Nat} {found : List Value}
    (h : r ∈ (f.finished s span candidates found rs m).trace.records) : r ∈ rs ∨ f.Writes r :=
  mem_records_logged (fun _ hlog _ hr => writes_of_record hlog (by simp) hr) h

/-- The records of a search: the bank's, of a key that it lacks, and the finder's own. -/
theorem mem_records_search (h : r ∈ (f.search s m).trace.records) :
    (∃ key, r = Bank.missingRecord f.outlet key) ∨ f.Writes r := by
  simp only [search] at h
  split at h
  · cases h
  · split at h
    · exact .inr ((mem_records_failed h).resolve_left List.not_mem_nil)
    · split at h
      · exact (mem_records_failed h).imp_left fun hr => ⟨_, eq_missingRecord_of_mem hr⟩
      · exact (mem_records_finished h).imp_left fun hr => ⟨_, eq_missingRecord_of_mem hr⟩

/-- The records of a logger that is bound to the shape of a bank tell it. -/
def TellsShape (f : Finder) (r : Record) : Prop :=
  r.logger = f.logger.name → Pairs.at? r.details "tiered" = some (.bool f.bank.isTiered)

theorem tellsShape_search (b : Bank) (o : Outlet)
    (h : r ∈ ((ofBank b o).search s m).trace.records) : (ofBank b o).TellsShape r := by
  intro hlogger
  rcases mem_records_search h with ⟨key, rfl⟩ | ⟨severity, message, details, rfl, hkeys⟩
  · have hname : (Bank.logger o).name ≠ (ofBank b o).logger.name := by
      change "phrase_finder.app.data.word_bank" ≠ "phrase_finder.app.services.search_service"
      decide
    exact absurd hlogger hname
  · rw [Logger.entry, Pairs.at?_merge_of_notMem _ hkeys, bound_ofBank]
    rfl

theorem tellsShape_reply (b : Bank) (o : Outlet) {q : Inquiry}
    (h : r ∈ ((ofBank b o).reply m q).trace.records) : (ofBank b o).TellsShape r := by
  rcases (ofBank b o).reply_cases q with ⟨result, hq⟩ | ⟨s, hq⟩
  · rw [hq] at h
    cases h
  · rw [hq] at h
    exact tellsShape_search b o h

theorem tellsShape_replies (b : Bank) (o : Outlet) {qs : List Inquiry} {a : Answer Outcome}
    (ha : a ∈ (ofBank b o).replies m qs) :
    ∀ r ∈ a.trace.records, (ofBank b o).TellsShape r := by
  induction qs generalizing m with
  | nil => cases ha
  | cons q qs ih =>
    rcases List.mem_cons.1 ha with rfl | ha
    · exact fun r hr => tellsShape_reply b o hr
    · exact ih ha

/-! ## Banks that take another's place -/

/-- The finder is as good as a new one on the bank that logs to the same outlet: over the meters of any
two runs both answer all inquiries alike, and all that it logs tells the shape of the bank. -/
structure AsNew (f : Finder) (b : Bank) : Prop where
  bank : f.bank = b
  alike : ∀ (o o' : Outlet) (ts ts' : List Task) (qs : List Inquiry),
    Forall₂ (Answer.Alike (Desk.run o ts).meters (Desk.run o' ts').meters)
      (f.replies (Desk.run o ts).meters qs)
      ((ofBank b f.outlet).replies (Desk.run o' ts').meters qs)
  tellsShape : ∀ (o : Outlet) (ts : List Task) (qs : List Inquiry),
    ∀ a ∈ f.replies (Desk.run o ts).meters qs, ∀ r ∈ a.trace.records, f.TellsShape r

theorem asNew_ofBank (b : Bank) (o : Outlet) : (ofBank b o).AsNew b := by
  have hbounds : ∀ o' ts, (Desk.run o' ts).meters.sizes.bounds = Meters.sizeBounds :=
    fun _ ts => (Desk.sizes_run ts).bounds_eq
  refine ⟨rfl, ?_, ?_⟩
  · intro o₁ o₂ ts ts' qs
    exact replies_alike _ (hbounds o₁ ts) (hbounds o₂ ts') qs
  · intro o' ts qs a ha
    exact tellsShape_replies b o ha

end Finder

namespace Application

theorem eq_onBank_of_build {s : Surroundings} {i : Ingredients} {app : Application}
    (h : (build s i).1 = .ok app) : app = onBank i app.bank s.outlet := by
  simp only [build] at h
  split at h
  · cases h
    rfl
  · split at h
    · cases h
      rfl
    · cases h
    · cases h

/-- A finder of a run that goes on with the bank of an application is as good as a new one. -/
theorem asNew_onBank {i : Ingredients}
    (h : ∀ f ∈ i.finder, ∃ o ts, f ∈ (Desk.run o ts).finders) (b : Bank) (o : Outlet) :
    (onBank i b o).finder.AsNew b := by
  rw [onBank]
  cases hi : i.finder with
  | none => exact Finder.asNew_ofBank b o
  | some f =>
    obtain ⟨o', ts, hf⟩ := h f hi
    have hnew := (Desk.current_run o' ts).finders f hf
    have hset : f.setBank b = .ofBank b o' := by
      rw [hnew]
      exact Finder.setBank_ofBank _ b o'
    simp only [hset]
    exact Finder.asNew_ofBank b o'

end Application

namespace Finder

/-- **Another bank makes a finder as good as new.** After any run, a finder that is put on a bank, by
a task or by an application that is built with both, is as good as a new one on that bank; and so is
the finder of every application, which searches the bank of the application. What was logged by the
searches before tells the shape of the bank that was searched. -/
theorem setBank_asNew {o : Outlet} {ts : List Task} {place : Nat} {f : Finder}
    (h : (Desk.run o ts).finders[place]? = some f) (b : Bank) :
    (∃ f', (Desk.run o (ts ++ [.setBank place b])).finders[place]? = some f' ∧ f'.AsNew b) ∧
    (∀ (s : Surroundings) (path : Option String), ∃ app,
      (Application.build s ⟨path, some b, some f⟩).1 = .ok app ∧
        app.bank = b ∧ app.finder.AsNew b) ∧
    (∀ (s : Surroundings) (i : Ingredients) (app : Application),
      (Application.build s i).1 = .ok app → app.finder.bank = app.bank ∧
        ((∀ g ∈ i.finder, ∃ o' ts', g ∈ (Desk.run o' ts').finders) →
          app.finder.AsNew app.bank)) ∧
    ∀ c ∈ (Desk.run o ts).calls, ∀ r ∈ c.answer.trace.records, c.finder.TellsShape r := by
  have hmem := List.mem_of_getElem? h
  refine ⟨?_, ?_, ?_, ?_⟩
  · have hnew := (Desk.current_run o ts).finders f hmem
    refine ⟨f.setBank b, ?_, ?_⟩
    · rw [Desk.run_concat, Desk.step, List.getElem?_modify_eq, h]
      rfl
    · rw [hnew, setBank_ofBank]
      exact asNew_ofBank b o
  · intro s path
    refine ⟨_, rfl, rfl, Application.asNew_onBank ?_ b s.outlet⟩
    intro g hg
    cases hg
    exact ⟨o, ts, hmem⟩
  · intro s i app happ
    have honBank := Application.eq_onBank_of_build happ
    constructor
    · rw [honBank, Application.onBank]
      cases i.finder <;> rfl
    · intro hi
      rw [honBank]
      exact Application.asNew_onBank hi app.bank s.outlet
  · intro c hc r hr
    obtain ⟨b', m, hfinder, hanswer⟩ := (Desk.current_run o ts).calls c hc
    rw [hanswer] at hr
    rw [hfinder]
    exact tellsShape_search b' o hr

/-- A finder on a flat bank, after a search that fails and one that does not, on a tiered bank. -/
theorem setBank_asNew_tiered : ∃ f,
    (Desk.run ⟨20, 980⟩ [.newFinder ⟨[(["01"], [.text "a"])], false, []⟩,
      .search 0 { query := .int 5 }, .search 0 {},
      .setBank 0 ⟨[(["05p", "01"], [.text "b"])], true, []⟩]).finders[0]? = some f ∧
    f.initial = .ok ⟨.int 0, .int 5, .text ""⟩ ∧
    f.AsNew ⟨[(["05p", "01"], [.text "b"])], true, []⟩ := by
  have h : (Desk.run ⟨20, 980⟩ [.newFinder ⟨[(["01"], [.text "a"])], false, []⟩,
      .search 0 { query := .int 5 }, .search 0 {}]).finders[0]? =
      some (.ofBank ⟨[(["01"], [.text "a"])], false, []⟩ ⟨20, 980⟩) := rfl
  obtain ⟨⟨f, hf, hnew⟩, -⟩ := setBank_asNew h ⟨[(["05p", "01"], [.text "b"])], true, []⟩
  refine ⟨f, hf, ?_, hnew⟩
  rw [initial, hnew.bank]
  rfl

end Finder

end Phrasebook
