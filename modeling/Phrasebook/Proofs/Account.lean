import Mathlib.Data.List.Induction
import Phrasebook.Proofs.Obstacle
import Phrasebook.Session.Desk

/-!
# Phrasebook.Proofs.Account

Every search is accounted for once.

`Finder.find` is what a search comes to inside of its span. `Finder.Course` lists the ways in which a
search may go, with all that each leaves behind: no length can be taken of the query, a failure inside
of the span, or phrases found (`search_course`). The last two are logged, which may fail in its turn
(`Finder.failed_reports`, `Finder.finished_returns`).

A task makes one search or none (`step_cases`), so that what one search adds to the meters settles what
a run leaves there (`run_induction`). No finder keeps anything of a bank that it was on before, so at
any time each is the one that is opened on its bank (`Current`, `current_run`). `run_accounts` puts the
two together. A search whose query has no length fails before its span begins: it is asked for and then
left out of the account.
-/

namespace Phrasebook

namespace Span

variable {ε : Type}

/-- The values that were set under a name, in order. -/
def values (s : Span ε) (name : String) : List Value :=
  (s.attributes.filter fun a => a.1 = name).map Prod.snd

theorem values_annotate (attributes : Members Value) (s : Span ε) (name : String) :
    (s.annotate attributes).values name =
      s.values name ++ ((attributes.filter fun a => !a.2.isNull).filter
        fun a => a.1 = name).map Prod.snd := by
  simp only [values, annotate, List.filter_append, List.map_append]

theorem values_fail (e : ε) (s : Span ε) (name : String) :
    (s.fail e).values name = s.values name ++ if "error" = name then [.bool true] else [] := by
  simp only [values, fail, List.filter_append, List.map_append]
  split <;> simp_all

end Span

/-- What a search comes to inside of its span: what is looked up, and what the query finds there. -/
def Finder.find (f : Finder) (s : Selection) : Except Fault (Bank.Lookup × List Value) :=
  match f.bank.lookup s.category s.tier with
  | .error e => .error e
  | .ok l => ((Matcher.ofQuery s.query).select l.phrases).map fun found => (l, found)

/-! ## Calls and what becomes of them -/

namespace Call

/-- The call ended without a result. -/
def raised (c : Call) : Bool := !c.answer.result.isOk

/-- The query, or the empty text in place of nothing, has a length. -/
def isMeasured (c : Call) : Bool := c.selection.query.orEmpty.length?.isSome

/-- The search fails inside of its span. -/
def hasFailed (c : Call) : Bool := c.isMeasured && !(c.finder.find c.selection).isOk

/-- The search comes to the end of its span. -/
def hasFound (c : Call) : Bool := c.isMeasured && (c.finder.find c.selection).isOk

/-- How many phrases a search found that came to the end of its span. -/
def size? (c : Call) : Option Nat :=
  if c.isMeasured then (c.finder.find c.selection).toOption.map fun x => x.2.length else none

theorem isSome_size? (c : Call) : c.size?.isSome = c.hasFound := by
  rw [size?, hasFound]
  cases c.isMeasured with
  | false => rfl
  | true => cases c.finder.find c.selection <;> rfl

/-- What has no length: a number that is not zero, and what is true. -/
theorem isMeasured_eq_false_iff (c : Call) :
    c.isMeasured = false ↔
      (∃ n, c.selection.query = .int n ∧ n ≠ 0) ∨ c.selection.query = .bool true ∨
        ∃ x, c.selection.query = .float x ∧ (x == 0) = false := by
  rw [isMeasured, Value.orEmpty]
  cases c.selection.query with
  | null => simp [Value.isNothing, Value.length?]
  | bool b => cases b <;> simp [Value.isNothing, Value.length?]
  | int n => by_cases hn : n = 0 <;> simp [Value.isNothing, Value.length?, hn]
  | float x => cases hx : x == 0 <;> simp [Value.isNothing, Value.length?, hx]
  | text s => by_cases hs : s = "" <;> simp [Value.isNothing, Value.length?, hs]
  | array items => cases items <;> simp [Value.isNothing, Value.length?]
  | object members => cases members <;> simp [Value.isNothing, Value.length?]

/-- The records of errors that the call left. -/
def errors (c : Call) : List Record := c.answer.trace.records.filter fun r => r.severity = .error

/-- A failure is recorded on the one span, which is flagged. -/
def Flags (c : Call) (e : Fault) : Prop :=
  ∃ span, c.answer.trace.spans = [span] ∧ span.failures = [e] ∧
    span.values "error" = [.bool true]

/-- A failure is logged once with its message. -/
def Logs (c : Call) (e : Fault) : Prop :=
  ∃ r, c.errors = [r] ∧ Pairs.at? r.details "error" = some (.text e.message)

/-- A failure inside of the span is recorded there, then logged if errors pass, and raised. If the
category cannot be written, what is raised is that, and nothing is logged. -/
structure Reports (c : Call) (o : Outlet) (e : Fault) : Prop where
  flags : c.Flags e
  silent : o.passes .error = false → c.answer.result = .error e ∧ c.errors = []
  told : o.passes .error = true → o.obstacle? c.selection.category = none →
    c.answer.result = .error e ∧ c.Logs e
  stopped : o.passes .error = true → ∀ e', o.obstacle? c.selection.category = some e' →
    c.answer.result = .error e' ∧ c.errors = []

/-- What was found is returned. Only where a success is logged, a category or a tier that cannot be
written is raised instead. -/
structure Returns (c : Call) (o : Outlet) (found : List Value) : Prop where
  silent : o.passes .debug = false → c.answer.result = .ok ⟨c.selection, found⟩
  told : o.obstacle? c.selection.category = none → o.obstacle? c.selection.tier = none →
    c.answer.result = .ok ⟨c.selection, found⟩
  stopped : o.passes .debug = true →
    (o.obstacle? c.selection.category ≠ none ∨ o.obstacle? c.selection.tier ≠ none) →
    ∃ e, (o.obstacle? c.selection.category = some e ∨ o.obstacle? c.selection.tier = some e) ∧
      c.answer.result = .error e

/-- What becomes of a search: it has no length, it fails, or it finds something. -/
structure IsSettled (c : Call) (o : Outlet) : Prop where
  unmeasured : c.isMeasured = false →
    c.answer.result = .error (.noLength c.selection.query.kind) ∧ c.answer.trace = {}
  failed : c.isMeasured = true → ∀ e, c.finder.find c.selection = .error e → c.Reports o e
  found : c.isMeasured = true → ∀ l found, c.finder.find c.selection = .ok (l, found) →
    c.Returns o found

end Call

/-! ## One search -/

theorem Value.orEmpty_of_length?_eq_none {v : Value} (h : v.orEmpty.length? = none) :
    v.orEmpty = v := by
  rw [orEmpty] at h ⊢
  split
  · rename_i hv
    rw [if_pos hv] at h
    cases h
  · rfl

namespace Finder

/-- How a search may go. -/
inductive Course (f : Finder) (s : Selection) (m : Meters) : Answer Found → Prop
  | unmeasured (hlength : s.query.orEmpty.length? = none) :
      Course f s m ⟨.error (.noLength s.query.kind), {}, m.request⟩
  | failed {n : Nat} {e : Fault} {rs : List Record} (hlength : s.query.orEmpty.length? = some n)
      (hfind : f.find s = .error e) (hrs : ∀ r ∈ rs, r.severity = .warning) :
      Course f s m (f.failed s (openingSpan s n) e rs m.request)
  | finished {n : Nat} {l : Bank.Lookup} {found : List Value}
      (hlength : s.query.orEmpty.length? = some n) (hfind : f.find s = .ok (l, found)) :
      Course f s m (f.finished s (openingSpan s n) l.phrases.length found (l.records f.outlet)
        m.request)

theorem eq_missingRecord_of_mem {l : Bank.Lookup} {o : Outlet} {r : Record}
    (h : r ∈ l.records o) : r = Bank.missingRecord o l.key := by
  rw [Bank.Lookup.records] at h
  split at h
  · cases h
  · exact List.mem_singleton.1 (List.mem_filter.1 h).1

theorem severity_of_mem_records {l : Bank.Lookup} {o : Outlet} {r : Record}
    (h : r ∈ l.records o) : r.severity = .warning := by
  rw [eq_missingRecord_of_mem h]
  rfl

theorem search_course (f : Finder) (s : Selection) (m : Meters) : f.Course s m (f.search s m) := by
  rw [search, Value.length]
  cases hlength : s.query.orEmpty.length? with
  | none =>
    simp only [Value.orEmpty_of_length?_eq_none hlength]
    exact .unmeasured hlength
  | some n =>
    simp only
    cases hl : f.bank.lookup s.category s.tier with
    | error e => exact .failed hlength (by rw [find, hl]) (by simp)
    | ok l =>
      simp only
      cases hfound : (Matcher.ofQuery s.query).select l.phrases with
      | error e =>
        have hfind : f.find s = .error e := by simp [find, hl, hfound, Except.map]
        exact .failed hlength hfind fun r hr => severity_of_mem_records hr
      | ok found =>
        have hfind : f.find s = .ok (l, found) := by simp [find, hl, hfound, Except.map]
        exact .finished hlength hfind

theorem filter_error_eq_nil {rs : List Record} (h : ∀ r ∈ rs, r.severity = .warning) :
    rs.filter (fun r => r.severity = .error) = [] := by
  refine List.filter_eq_nil_iff.2 fun r hr => ?_
  simp [h r hr]

/-- The span of a search begins with its selection and nothing else. -/
theorem values_openingSpan (s : Selection) (n : Nat) {name : String}
    (h : name ∉ ["phrase_search.category_index", "phrase_search.tier",
      "phrase_search.query_length"]) :
    (openingSpan s n).values name = [] := by
  simp only [List.mem_cons, List.not_mem_nil, or_false, not_or] at h
  simp [Span.values, openingSpan, Span.start, Span.annotate, Ne.symm h.1, Ne.symm h.2.1,
    Ne.symm h.2.2]

theorem failed_reports (b : Bank) (o : Outlet) (s : Selection) (n : Nat) (e : Fault)
    {rs : List Record} (h : ∀ r ∈ rs, r.severity = .warning) (m : Meters) :
    (Call.mk (ofBank b o) s ((ofBank b o).failed s (openingSpan s n) e rs m)).Reports o e := by
  have hflags : (Call.mk (ofBank b o) s
      ((ofBank b o).failed s (openingSpan s n) e rs m)).Flags e := by
    refine ⟨_, Answer.logged_spans _ _, ?_, ?_⟩
    · simp [Span.fail, openingSpan, Span.start, Span.annotate]
    · rw [Span.values_fail, values_openingSpan s n (by decide)]
      rfl
  rcases logFailure_cases b o s e with
    ⟨hpasses, hlog⟩ | ⟨hpasses, hnone, r, hlog, hseverity, hmessage⟩ | ⟨hpasses, e', hsome, hlog⟩
  · refine ⟨hflags, fun _ => ?_, by simp [hpasses], by simp [hpasses]⟩
    simp [failed, hlog, Call.errors, filter_error_eq_nil h]
  · refine ⟨hflags, by simp [hpasses], fun _ _ => ⟨?_, r, ?_, hmessage⟩, by simp [hnone]⟩
    · simp [failed, hlog]
    · simp [failed, hlog, Call.errors, filter_error_eq_nil h, hseverity]
  · refine ⟨hflags, by simp [hpasses], by simp [hsome], fun _ e'' he'' => ?_⟩
    obtain rfl : e' = e'' := Option.some.inj (hsome.symm.trans he'')
    simp [failed, hlog, Call.errors, filter_error_eq_nil h]

theorem finished_returns (b : Bank) (o : Outlet) (s : Selection) (span : Span Fault)
    (candidates : Nat) (found : List Value) (rs : List Record) (m : Meters) :
    (Call.mk (ofBank b o) s
      ((ofBank b o).finished s span candidates found rs m)).Returns o found := by
  rcases logSuccess_cases b o s candidates found.length with
    ⟨hpasses, hlog⟩ | ⟨hpasses, hcategory, htier, r, hlog, -, -, -⟩ | ⟨hpasses, e, hsome, hlog⟩
  · refine ⟨fun _ => ?_, fun _ _ => ?_, by simp [hpasses]⟩
    · simp [finished, hlog]
    · simp [finished, hlog]
  · refine ⟨by simp [hpasses], fun _ _ => ?_, by simp [hcategory, htier]⟩
    simp [finished, hlog]
  · refine ⟨by simp [hpasses], fun hcategory htier => ?_, fun _ _ => ⟨e, hsome, ?_⟩⟩
    · simp [hcategory, htier] at hsome
    · simp [finished, hlog]

namespace Course

variable {f : Finder} {b : Bank} {o : Outlet} {s : Selection} {m : Meters} {a : Answer Found}

/-- What a course adds to the meters, and to which of the two sorts of calls its own belongs. -/
theorem meters_cases (h : f.Course s m a) :
    ((Call.mk f s a).hasFailed = false ∧ (Call.mk f s a).size? = none ∧
      a.meters = m.request) ∨
    ((Call.mk f s a).hasFailed = true ∧ (Call.mk f s a).size? = none ∧
      a.meters = m.request.failure) ∨
    ((Call.mk f s a).hasFailed = false ∧ ∃ n, (Call.mk f s a).size? = some n ∧
      a.meters = m.request.finished n) := by
  cases h with
  | unmeasured hlength =>
    refine .inl ⟨?_, ?_, rfl⟩
    · simp [Call.hasFailed, Call.isMeasured, hlength]
    · simp [Call.size?, Call.isMeasured, hlength]
  | failed hlength hfind =>
    refine .inr (.inl ⟨?_, ?_, Answer.logged_meters _ _⟩)
    · simp [Call.hasFailed, Call.isMeasured, hlength, hfind, Except.isOk, Except.toBool]
    · simp [Call.size?, hfind, Except.toOption]
  | finished hlength hfind =>
    refine .inr (.inr ⟨?_, _, ?_, Answer.logged_meters _ _⟩)
    · simp [Call.hasFailed, hfind, Except.isOk, Except.toBool]
    · simp [Call.size?, Call.isMeasured, hlength, hfind, Except.toOption]

theorem requests_eq (h : f.Course s m a) : a.meters.requests = m.requests + 1 := by
  rcases h.meters_cases with ⟨-, -, hm⟩ | ⟨-, -, hm⟩ | ⟨-, n, -, hm⟩ <;> rw [hm] <;> rfl

theorem failures_eq (h : f.Course s m a) :
    a.meters.failures = m.failures + [Call.mk f s a].countP Call.hasFailed := by
  rw [List.countP_singleton]
  rcases h.meters_cases with ⟨hfailed, -, hm⟩ | ⟨hfailed, -, hm⟩ | ⟨hfailed, n, -, hm⟩ <;>
    rw [hm, hfailed] <;> rfl

theorem durations_eq (h : f.Course s m a) :
    a.meters.durations = m.durations + [Call.mk f s a].countP Call.hasFound := by
  rw [List.countP_singleton, ← Call.isSome_size?]
  rcases h.meters_cases with ⟨-, hsize, hm⟩ | ⟨-, hsize, hm⟩ | ⟨-, n, hsize, hm⟩ <;>
    rw [hm, hsize] <;> rfl

theorem isSettled (h : (ofBank b o).Course s m a) : (Call.mk (ofBank b o) s a).IsSettled o := by
  cases h with
  | unmeasured hlength =>
    exact ⟨fun _ => ⟨rfl, rfl⟩, by simp [Call.isMeasured, hlength],
      by simp [Call.isMeasured, hlength]⟩
  | failed hlength hfind hrs =>
    refine ⟨by simp [Call.isMeasured, hlength], fun _ e he => ?_, by simp [hfind]⟩
    cases hfind.symm.trans he
    exact failed_reports b o s _ _ hrs _
  | finished hlength hfind =>
    refine ⟨by simp [Call.isMeasured, hlength], by simp [hfind], fun _ l found hfound => ?_⟩
    cases hfind.symm.trans hfound
    exact finished_returns b o s _ _ _ _ _

end Course

/-- Nothing of the bank before is kept. -/
theorem setBank_ofBank (b b' : Bank) (o : Outlet) : (ofBank b o).setBank b' = .ofBank b' o := by
  simp [setBank, ofBank, shapeDetail, Logger.bind, Pairs.merge, Pairs.put]

end Finder

/-- One of three: a failure inside of the span, something found, or no length. -/
theorem Call.countP_add (cs : List Call) :
    cs.countP hasFailed + cs.countP hasFound + cs.countP (fun c => !c.isMeasured) =
      cs.length := by
  induction cs with
  | nil => rfl
  | cons c cs ih =>
    have hone : (if c.hasFailed then 1 else 0) + (if c.hasFound then 1 else 0) +
        (if !c.isMeasured then 1 else 0) = 1 := by
      rw [hasFailed, hasFound]
      cases c.isMeasured <;> cases (c.finder.find c.selection).isOk <;> rfl
    simp only [List.countP_cons, List.length_cons]
    omega

/-! ## Runs of tasks -/

namespace Desk

variable {o : Outlet}

/-- A task makes one search, or it leaves the meters and the kept calls alone. -/
theorem step_cases (d : Desk) (t : Task) :
    (∃ f s, f ∈ d.finders ∧ (d.step t).meters = (f.search s d.meters).meters ∧
      (d.step t).calls = d.calls ++ [⟨f, s, f.search s d.meters⟩]) ∨
    ((d.step t).meters = d.meters ∧ (d.step t).calls = d.calls) := by
  cases t with
  | search place s =>
    simp only [step]
    cases hf : d.finders[place]? with
    | none => exact .inr ⟨rfl, rfl⟩
    | some f => exact .inl ⟨f, s, List.mem_of_getElem? hf, rfl, rfl⟩
  | dispatch place s c =>
    simp only [step]
    cases hf : d.finders[place]? with
    | none => exact .inr ⟨rfl, rfl⟩
    | some f =>
      simp only [Finder.dispatch]
      cases s.apply c with
      | error e => exact .inr ⟨rfl, rfl⟩
      | ok s' => exact .inl ⟨f, s', List.mem_of_getElem? hf, rfl, rfl⟩
  | setBank place b => exact .inr ⟨rfl, rfl⟩
  | newFinder b => exact .inr ⟨rfl, rfl⟩

theorem run_concat (ts : List Task) (t : Task) : run o (ts ++ [t]) = (run o ts).step t := by
  simp [run]

theorem outlet_step (d : Desk) (t : Task) : (d.step t).outlet = d.outlet := by
  cases t with
  | search place s =>
    simp only [step]
    cases d.finders[place]? <;> rfl
  | dispatch place s c =>
    simp only [step]
    cases d.finders[place]? with
    | none => rfl
    | some f => cases s.apply c <;> rfl
  | setBank place b => rfl
  | newFinder b => rfl

/-- A finder after a task was there before, or was put on a bank or opened on it just now. -/
theorem mem_finders_step {d : Desk} {t : Task} {f : Finder} (h : f ∈ (d.step t).finders) :
    f ∈ d.finders ∨ (∃ f' ∈ d.finders, ∃ b, f = f'.setBank b) ∨ ∃ b, f = .ofBank b d.outlet := by
  cases t with
  | search place s =>
    simp only [step] at h
    cases hf : d.finders[place]? <;> rw [hf] at h <;> exact .inl h
  | dispatch place s c =>
    simp only [step] at h
    cases hf : d.finders[place]? with
    | none =>
      rw [hf] at h
      exact .inl h
    | some f' =>
      rw [hf] at h
      cases hs : s.apply c <;> simp only [hs] at h <;> exact .inl h
  | setBank place b =>
    obtain ⟨i, hi⟩ := List.mem_iff_getElem?.1 h
    simp only [step, List.getElem?_modify, Option.map_eq_map, Option.map_eq_some_iff] at hi
    obtain ⟨f', hf', rfl⟩ := hi
    have hmem := List.mem_of_getElem? hf'
    split
    · exact .inr (.inl ⟨f', hmem, b, rfl⟩)
    · exact .inl hmem
  | newFinder b =>
    rcases List.mem_append.1 h with h | h
    · exact .inl h
    · exact .inr (.inr ⟨b, List.mem_singleton.1 h⟩)

/-- Every finder, also of the searches made before, is the one that is opened on its bank. -/
structure Current (d : Desk) (o : Outlet) : Prop where
  outlet : d.outlet = o
  finders : ∀ f ∈ d.finders, f = .ofBank f.bank o
  calls : ∀ c ∈ d.calls, ∃ b m, c.finder = .ofBank b o ∧
    c.answer = (Finder.ofBank b o).search c.selection m

theorem Current.step {d : Desk} (h : d.Current o) (t : Task) : (d.step t).Current o := by
  refine ⟨(outlet_step d t).trans h.outlet, fun f hf => ?_, fun c hc => ?_⟩
  · rcases mem_finders_step hf with hf | ⟨f', hf', b, rfl⟩ | ⟨b, rfl⟩
    · exact h.finders f hf
    · rw [h.finders f' hf']
      exact Finder.setBank_ofBank _ b o
    · rw [h.outlet]
      rfl
  · rcases step_cases d t with ⟨f, s, hf, -, hcalls⟩ | ⟨-, hcalls⟩
    · rw [hcalls] at hc
      rcases List.mem_append.1 hc with hc | hc
      · exact h.calls c hc
      · obtain rfl := List.mem_singleton.1 hc
        refine ⟨f.bank, d.meters, h.finders f hf, ?_⟩
        rw [← h.finders f hf]
    · rw [hcalls] at hc
      exact h.calls c hc

theorem current_run (o : Outlet) (ts : List Task) : (run o ts).Current o := by
  induction ts using List.reverseRecOn with
  | nil => exact ⟨rfl, nofun, nofun⟩
  | append_singleton ts t ih =>
    rw [run_concat]
    exact ih.step t

/-- Each call of a run is the search of a finder that is opened on some bank. -/
theorem course_of_mem_calls {ts : List Task} {c : Call} (h : c ∈ (run o ts).calls) :
    ∃ b m, c.finder = .ofBank b o ∧ (Finder.ofBank b o).Course c.selection m c.answer := by
  obtain ⟨b, m, hfinder, hanswer⟩ := (current_run o ts).calls c h
  refine ⟨b, m, hfinder, ?_⟩
  rw [hanswer]
  exact Finder.search_course _ _ m

/-- What holds of no calls at all, and is kept by one search more, holds after every run. -/
theorem run_induction {P : Meters → List Call → Prop} (zero : P .zero [])
    (search : ∀ m cs f s a, Finder.Course f s m a → P m cs → P a.meters (cs ++ [⟨f, s, a⟩]))
    (ts : List Task) : P (run o ts).meters (run o ts).calls := by
  induction ts using List.reverseRecOn with
  | nil => exact zero
  | append_singleton ts t ih =>
    rw [run_concat]
    rcases step_cases (run o ts) t with ⟨f, s, -, hmeters, hcalls⟩ | ⟨hmeters, hcalls⟩
    · rw [hmeters, hcalls]
      exact search _ _ f s _ (f.search_course s _) ih
    · rw [hmeters, hcalls]
      exact ih

theorem requests_run (ts : List Task) :
    (run o ts).meters.requests = (run o ts).calls.length := by
  refine run_induction (P := fun m cs => m.requests = cs.length) rfl
    (fun m cs f s a ha ih => ?_) ts
  rw [ha.requests_eq, ih, List.length_append, List.length_singleton]

theorem failures_run (ts : List Task) :
    (run o ts).meters.failures = (run o ts).calls.countP Call.hasFailed := by
  refine run_induction (P := fun m cs => m.failures = cs.countP Call.hasFailed) rfl
    (fun m cs f s a ha ih => ?_) ts
  rw [ha.failures_eq, ih, List.countP_append]

theorem durations_run (ts : List Task) :
    (run o ts).meters.durations = (run o ts).calls.countP Call.hasFound := by
  refine run_induction (P := fun m cs => m.durations = cs.countP Call.hasFound) rfl
    (fun m cs f s a ha ih => ?_) ts
  rw [ha.durations_eq, ih, List.countP_append]

/-- **Every search is accounted for once.** After every run each search that was made is a failure
inside of a span, a duration or one whose query has no length, a number that is not zero or what is
true; such a search leaves nothing behind. A failure is recorded on its span and raised; it is logged
too, where errors pass and the category can be written. What took a duration is returned, unless it was
to be logged and could not be. -/
theorem run_accounts (o : Outlet) (ts : List Task) :
    (run o ts).meters.requests = (run o ts).calls.length ∧
    (run o ts).meters.failures = (run o ts).calls.countP Call.hasFailed ∧
    (run o ts).meters.durations = (run o ts).calls.countP Call.hasFound ∧
    (run o ts).meters.requests = (run o ts).meters.failures + (run o ts).meters.durations +
      ((run o ts).calls.countP fun c => !c.isMeasured) ∧
    ∀ c ∈ (run o ts).calls, c.IsSettled o ∧
      (c.isMeasured = false ↔
        (∃ n, c.selection.query = .int n ∧ n ≠ 0) ∨ c.selection.query = .bool true ∨
          ∃ x, c.selection.query = .float x ∧ (x == 0) = false) := by
  refine ⟨requests_run ts, failures_run ts, durations_run ts, ?_, fun c hc => ⟨?_, ?_⟩⟩
  · rw [requests_run, failures_run, durations_run, Call.countP_add]
  · obtain ⟨b, m, hfinder, hcourse⟩ := course_of_mem_calls hc
    have hsettled := hcourse.isSettled
    rw [← hfinder] at hsettled
    exact hsettled
  · exact c.isMeasured_eq_false_iff

/-- The account as it would be if each search either returned or failed inside of a span that tells
it, and every failure were logged. -/
def IsPlain (d : Desk) : Prop :=
  d.meters.requests = d.calls.length ∧
  d.meters.failures = d.calls.countP Call.raised ∧
  d.meters.durations = (d.calls.countP fun c => !c.raised) ∧
  d.meters.requests = d.meters.failures + d.meters.durations ∧
  ∀ c ∈ d.calls, ∀ e, c.answer.result = .error e → c.Flags e ∧ c.Logs e

/-- The one search of a finder on a bank of one phrase. -/
def singleCall (o : Outlet) (s : Selection) : Call :=
  let f := Finder.ofBank ⟨[(["01"], [.text "a"])], false, []⟩ o
  ⟨f, s, f.search s .zero⟩

/-- The tasks of opening that finder and making that search. -/
def singleTasks (s : Selection) : List Task :=
  [.newFinder ⟨[(["01"], [.text "a"])], false, []⟩, .search 0 s]

theorem calls_singleTasks (o : Outlet) (s : Selection) :
    (run o (singleTasks s)).calls = [singleCall o s] := rfl

theorem isSettled_singleCall (o : Outlet) (s : Selection) : (singleCall o s).IsSettled o :=
  (Finder.search_course _ s _).isSettled

/-- Where everything passes, a tier that is nested too deep for its record fails a search that has
found something. -/
theorem raised_singleCall {o : Outlet} {n : Nat} (hpasses : o.passes .debug = true)
    (hn : o.room < n) : (singleCall o { tier := .nested n }).raised = true := by
  have hreturns := (isSettled_singleCall o { tier := .nested n }).found rfl _ _ rfl
  have htier : o.obstacle? (.nested n) ≠ none := by
    rw [Outlet.obstacle?_nested hn]
    exact nofun
  obtain ⟨e, -, hresult⟩ := hreturns.stopped hpasses (.inr htier)
  rw [Call.raised, hresult]
  rfl

/-- The account is not the plain one for a number as a query, for a category that is nested too deep
for its record, where errors do not pass, and for a tier that is nested too deep where everything
passes. -/
theorem run_leaves_out :
    ¬(run ⟨20, 980⟩ (singleTasks { query := .int 5 })).IsPlain ∧
    ¬(run ⟨20, 980⟩ (singleTasks { category := .nested 991 })).IsPlain ∧
    ¬(run ⟨50, 980⟩ (singleTasks { category := .text "a" })).IsPlain ∧
    ¬(run ⟨10, 980⟩ (singleTasks { tier := .nested 991 })).IsPlain := by
  refine ⟨fun h => ?_, fun h => ?_, fun h => ?_, fun h => ?_⟩
  · exact absurd h.2.1 (by decide)
  · have hreports := (isSettled_singleCall ⟨20, 980⟩ { category := .nested 991 }).failed rfl _ rfl
    obtain ⟨hresult, herrors⟩ := hreports.stopped rfl _ (Outlet.obstacle?_nested (by decide))
    obtain ⟨-, r, hr, -⟩ := h.2.2.2.2 _ (List.mem_singleton.2 rfl) _ hresult
    cases herrors.symm.trans hr
  · obtain ⟨-, r, hr, -⟩ := h.2.2.2.2 _ (List.mem_singleton.2 rfl) _ rfl
    cases hr
  · have hraised := raised_singleCall (o := ⟨10, 980⟩) (n := 991) (by decide) (by decide)
    have hfound : (singleCall ⟨10, 980⟩ { tier := .nested 991 }).hasFound = true := rfl
    have hdurations := h.2.2.1
    rw [durations_run, calls_singleTasks, List.countP_singleton, List.countP_singleton, hraised,
      hfound] at hdurations
    cases hdurations

end Desk

end Phrasebook
