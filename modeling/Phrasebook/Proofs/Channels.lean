import Phrasebook.Proofs.Account
import Phrasebook.Proofs.Histogram
import Phrasebook.Proofs.Pairs

/-!
# Phrasebook.Proofs.Channels

The channels of a search agree with what it finds.

A search that comes to the end of its span shows the numbers of its candidates and of its results
there, and in the record of its success where that is logged (`Call.Shows`); and it shows the number of
its results to the histogram of sizes. Over every run that histogram is the one of the results of all
these searches, whatever failed in between (`Meters.Sizes`, `run_agrees`). A search that found
something returns it, but for one that cannot be logged.
-/

namespace Phrasebook

/-! ## What a search shows -/

namespace Matcher

theorem select_sublist {m : Matcher} {vs kept : List Value} (h : m.select vs = .ok kept) :
    kept.Sublist vs := by
  induction vs generalizing kept with
  | nil =>
    cases h
    exact .slnil
  | cons v vs ih =>
    rw [select] at h
    cases hv : m.accepts v with
    | error e =>
      rw [hv] at h
      cases h
    | ok verdict =>
      cases hrest : m.select vs with
      | error e =>
        rw [hv, hrest] at h
        cases h
      | ok rest =>
        rw [hv, hrest] at h
        cases h
        cases verdict
        · exact (ih hrest).cons v
        · exact (ih hrest).cons_cons v

end Matcher

namespace Bank

theorem list?_of_lookup {b : Bank} {category tier : Value} {l : Lookup}
    (h : b.lookup category tier = .ok l) : l.list? = b.list? l.key := by
  rw [lookup] at h
  cases hkey : b.key category tier with
  | error e =>
    rw [hkey] at h
    cases h
  | ok key =>
    rw [hkey] at h
    cases h
    rfl

theorem details_missingRecord (o : Outlet) (key : Key) :
    Pairs.at? (missingRecord o key).details "key" = some (.text (Key.text key)) := by
  simp [missingRecord, Logger.entry, Pairs.merge, Pairs.at?_put]

/-- A look-up under a key that the bank lacks leaves a warning, where warnings pass, and no other
look-up leaves anything. -/
theorem records_of_lookup {b : Bank} {category tier : Value} {l : Lookup} {o : Outlet}
    (h : b.lookup category tier = .ok l) :
    (l.key ∈ Pairs.keys b.entries ∨ o.passes .warning = false → l.records o = []) ∧
    (l.key ∉ Pairs.keys b.entries → o.passes .warning = true →
      ∃ w : Record, l.records o = [w] ∧ w.severity = .warning ∧
        Pairs.at? w.details "key" = some (.text (Key.text l.key))) := by
  have hpassing : o.passing [missingRecord o l.key] =
      if o.passes .warning then [missingRecord o l.key] else [] := by
    rw [Outlet.passing, List.filter_singleton, Bool.cond_eq_ite]
    rfl
  rw [Lookup.records, list?_of_lookup h, list?, hpassing, ← Pairs.isSome_at?_iff]
  constructor
  · rintro (hkey | hpasses)
    · exact if_pos hkey
    · simp [hpasses]
  · intro hkey hpasses
    rw [if_neg hkey, if_pos hpasses]
    exact ⟨_, rfl, rfl, details_missingRecord o l.key⟩

end Bank

namespace Finder

variable {f : Finder} {s : Selection} {l : Bank.Lookup} {found : List Value}

theorem find_eq_ok_iff : f.find s = .ok (l, found) ↔
    f.bank.lookup s.category s.tier = .ok l ∧
      (Matcher.ofQuery s.query).select l.phrases = .ok found := by
  rw [find]
  cases f.bank.lookup s.category s.tier with
  | error e => simp
  | ok l' =>
    simp only [Except.ok.injEq]
    constructor
    · intro h
      cases hselect : (Matcher.ofQuery s.query).select l'.phrases with
      | error e =>
        rw [hselect] at h
        cases h
      | ok found' =>
        rw [hselect] at h
        cases h
        exact ⟨rfl, hselect⟩
    · rintro ⟨rfl, hselect⟩
      rw [hselect]
      rfl

end Finder

namespace Call

/-- What a search shows that found phrases by a look-up. The numbers of those looked up and of those
found are on its one span. They are in one record, its last, if that was logged. Before it there is a
warning where the bank lacks the key and warnings pass, and nothing else. -/
structure Shows (c : Call) (o : Outlet) (l : Bank.Lookup) (found : List Value) : Prop where
  lookup : c.finder.bank.lookup c.selection.category c.selection.tier = .ok l
  length_le : found.length ≤ l.phrases.length
  span : ∃ span : Span Fault, c.answer.trace.spans = [span] ∧ span.failures = [] ∧
    span.values "phrase_search.candidates" = [.int l.phrases.length] ∧
    span.values "phrase_search.results" = [.int found.length]
  records : ∃ warnings successes : List Record,
    c.answer.trace.records = warnings ++ successes ∧
    (l.key ∈ Pairs.keys c.finder.bank.entries ∨ o.passes .warning = false → warnings = []) ∧
    (l.key ∉ Pairs.keys c.finder.bank.entries → o.passes .warning = true →
      ∃ w : Record, warnings = [w] ∧ w.severity = .warning ∧
        Pairs.at? w.details "key" = some (.text (Key.text l.key))) ∧
    (o.passes .debug = false ∨ c.raised = true → successes = []) ∧
    (o.passes .debug = true → c.raised = false →
      ∃ r : Record, successes = [r] ∧ r.severity = .debug ∧
        Pairs.at? r.details "candidates" = some (.int l.phrases.length) ∧
        Pairs.at? r.details "results" = some (.int found.length))

end Call

namespace Finder

variable {b : Bank} {o : Outlet} {s : Selection} {m : Meters} {l : Bank.Lookup}
  {found : List Value}

theorem finished_shows (hfind : (ofBank b o).find s = .ok (l, found)) (n : Nat) (m : Meters) :
    (Call.mk (ofBank b o) s ((ofBank b o).finished s (openingSpan s n) l.phrases.length found
      (l.records o) m)).Shows o l found := by
  obtain ⟨hlookup, hselect⟩ := find_eq_ok_iff.1 hfind
  obtain ⟨hpresent, hmissing⟩ := Bank.records_of_lookup (o := o) hlookup
  refine ⟨hlookup, (Matcher.select_sublist hselect).length_le,
    ⟨_, Answer.logged_spans _ _, rfl, ?_, ?_⟩, ?_⟩
  · rw [Span.values_annotate, values_openingSpan s n (by decide)]
    simp [Value.isNull]
  · rw [Span.values_annotate, values_openingSpan s n (by decide)]
    simp [Value.isNull]
  · rcases logSuccess_cases b o s l.phrases.length found.length with
      ⟨hpasses, hlog⟩ | ⟨hpasses, -, -, r, hlog, hr⟩ | ⟨hpasses, e, -, hlog⟩
    · refine ⟨l.records o, [], ?_, hpresent, hmissing, fun _ => rfl, by simp [hpasses]⟩
      simp [finished, hlog]
    · refine ⟨l.records o, [r], ?_, hpresent, hmissing, ?_, fun _ _ => ⟨r, rfl, hr⟩⟩
      · simp [finished, hlog]
      · simp [finished, hlog, hpasses, Call.raised, Except.isOk, Except.toBool]
    · refine ⟨l.records o, [], ?_, hpresent, hmissing, fun _ => rfl, ?_⟩
      · simp [finished, hlog]
      · simp [finished, hlog, Call.raised, Except.isOk, Except.toBool]

theorem failed_raised (f : Finder) (span : Span Fault) (e : Fault) (rs : List Record)
    (m : Meters) : (Call.mk f s (f.failed s span e rs m)).raised = true := by
  rw [failed, Call.raised, Answer.logged_result]
  cases f.logFailure s e <;> rfl

namespace Course

variable {f : Finder} {a : Answer Found}

theorem hasFound_of_not_raised (h : f.Course s m a) (ha : (Call.mk f s a).raised = false) :
    (Call.mk f s a).hasFound = true := by
  cases h with
  | unmeasured => cases ha
  | failed => cases (failed_raised _ _ _ _ _).symm.trans ha
  | finished hlength hfind =>
    simp [Call.hasFound, Call.isMeasured, hlength, hfind, Except.isOk, Except.toBool]

theorem shows (h : (ofBank b o).Course s m a)
    (hmeasured : (Call.mk (ofBank b o) s a).isMeasured = true)
    (hfind : (ofBank b o).find s = .ok (l, found)) :
    (Call.mk (ofBank b o) s a).Shows o l found := by
  cases h with
  | unmeasured hlength => simp [Call.isMeasured, hlength] at hmeasured
  | failed hlength hfail hrs => cases hfail.symm.trans hfind
  | finished hlength hfind' =>
    cases hfind'.symm.trans hfind
    exact finished_shows hfind _ _

end Course

end Finder

/-! ## Sizes over a run -/

namespace Meters

/-- A histogram of sizes shows the numbers that were observed. -/
structure Sizes (h : Histogram Nat (Option Nat)) (ns : List Nat) : Prop where
  count : h.count = ns.length
  sum : h.sum = ns.sum
  cumulative : h.cumulative = sizeBounds.map fun b => (b, ns.countP (holds · b))

theorem sizes_zero : Sizes zero.sizes [] := ⟨rfl, rfl, rfl⟩

/-- The bounds ascend: what one of them holds is held by those behind it. -/
theorem sizeBounds_ascend (n : Nat) :
    sizeBounds.Pairwise fun b b' => holds n b = true → holds n b' = true := by
  rw [sizeBounds, List.pairwise_append, List.pairwise_map]
  refine ⟨?_, List.pairwise_singleton _ _, ?_⟩
  · have hsorted : [0, 1, 5, 10, 25, 50, 100, 250, 500, 1000].Pairwise (· ≤ ·) := by decide
    refine hsorted.imp fun hle hb => ?_
    simp only [holds, decide_eq_true_eq] at hb ⊢
    omega
  · intro b _ b' hb' _
    rw [List.mem_singleton.1 hb']
    rfl

theorem Sizes.bounds_eq {h : Histogram Nat (Option Nat)} {ns : List Nat} (hs : Sizes h ns) :
    h.bounds = sizeBounds := by
  have hmap := congrArg (List.map Prod.fst) hs.cumulative
  rw [Histogram.cumulative, Histogram.bounds_totals, List.map_map] at hmap
  rw [Histogram.bounds, hmap]
  exact List.map_id sizeBounds

theorem Sizes.observe {h : Histogram Nat (Option Nat)} {ns : List Nat} (hs : Sizes h ns) (n : Nat) :
    Sizes (h.observe (h.sum + n) (holds n)) (ns ++ [n]) := by
  have hbounds := hs.bounds_eq
  refine ⟨?_, ?_, ?_⟩
  · have hopen : ∃ b ∈ h.bounds, holds n b = true := ⟨none, by rw [hbounds]; decide, rfl⟩
    rw [Histogram.count_observe hopen, hs.count, List.length_append, List.length_singleton]
  · rw [Histogram.sum_observe, hs.sum, List.sum_append, List.sum_singleton]
  · rw [Histogram.cumulative_observe (by rw [hbounds]; exact sizeBounds_ascend n), hs.cumulative,
      List.map_map]
    refine List.map_congr_left fun b _ => ?_
    simp [List.countP_append, List.countP_singleton]

end Meters

namespace Call

/-- The sizes of all these searches, one after another. -/
def sizes (cs : List Call) : List Nat := cs.filterMap size?

theorem length_sizes (cs : List Call) : (sizes cs).length = cs.countP hasFound := by
  rw [sizes, List.length_filterMap_eq_countP]
  simp only [isSome_size?]

end Call

theorem Finder.Course.sizes {f : Finder} {s : Selection} {m : Meters} {a : Answer Found}
    (h : f.Course s m a) {ns : List Nat} (hs : Meters.Sizes m.sizes ns) :
    Meters.Sizes a.meters.sizes (ns ++ Call.sizes [⟨f, s, a⟩]) := by
  have hsizes : Call.sizes [⟨f, s, a⟩] = (Call.size? ⟨f, s, a⟩).toList := by
    rw [Call.sizes, List.filterMap_cons, List.filterMap_nil]
    cases Call.size? ⟨f, s, a⟩ <;> rfl
  rw [hsizes]
  rcases h.meters_cases with ⟨-, hsize, hm⟩ | ⟨-, hsize, hm⟩ | ⟨-, n, hsize, hm⟩
  · rw [hsize, hm, Option.toList_none, List.append_nil]
    exact hs
  · rw [hsize, hm, Option.toList_none, List.append_nil]
    exact hs
  · rw [hsize, hm, Option.toList_some]
    exact hs.observe n

namespace Desk

variable {o : Outlet}

theorem sizes_run (ts : List Task) :
    Meters.Sizes (run o ts).meters.sizes (Call.sizes (run o ts).calls) := by
  refine run_induction (P := fun m cs => Meters.Sizes m.sizes (Call.sizes cs)) Meters.sizes_zero
    (fun m cs f s a ha ih => ?_) ts
  rw [Call.sizes, List.filterMap_append]
  exact ha.sizes ih

/-- **The channels agree.** After every run the histogram of sizes counts and sums what the searches
found that came to the end of their spans, and for each bound those of at most that size. Each of these
searches shows the same numbers on its span, and in a record where it is logged. They are the searches
that returned, and those whose success was to be logged and could not be. -/
theorem run_agrees (o : Outlet) (ts : List Task) :
    (run o ts).meters.sizes.count = (run o ts).calls.countP Call.hasFound ∧
    (run o ts).meters.sizes.sum = (Call.sizes (run o ts).calls).sum ∧
    (run o ts).meters.sizes.cumulative = Meters.sizeBounds.map (fun b =>
      (b, (Call.sizes (run o ts).calls).countP (Meters.holds · b))) ∧
    ∀ c ∈ (run o ts).calls,
      (c.raised = false → c.hasFound = true) ∧
      (c.isMeasured = true → ∀ l found, c.finder.find c.selection = .ok (l, found) →
        c.Shows o l found ∧ c.Returns o found) := by
  have hsizes := sizes_run (o := o) ts
  refine ⟨?_, hsizes.sum, hsizes.cumulative, fun c hc => ?_⟩
  · rw [hsizes.count, Call.length_sizes]
  · obtain ⟨b, m, hfinder, hcourse⟩ := course_of_mem_calls hc
    obtain ⟨f, s, a⟩ := c
    obtain rfl : f = .ofBank b o := hfinder
    refine ⟨hcourse.hasFound_of_not_raised, fun hmeasured l found hfind => ⟨?_, ?_⟩⟩
    · exact hcourse.shows hmeasured hfind
    · exact hcourse.isSettled.found hmeasured l found hfind

/-- A tier that is nested too deep for its record: the size of a search is counted that does not
return. And where only grave records pass, a search that returns leaves none. -/
theorem run_disagrees :
    ((run ⟨10, 980⟩ (singleTasks { tier := .nested 991 })).meters.sizes.count = 1 ∧
      (run ⟨10, 980⟩ (singleTasks { tier := .nested 991 })).calls.map Call.raised = [true]) ∧
    (run ⟨20, 980⟩ (singleTasks {})).calls.map Call.raised = [false] ∧
    ((run ⟨20, 980⟩ (singleTasks {})).calls.flatMap fun c => c.answer.trace.records) = [] := by
  refine ⟨⟨?_, ?_⟩, rfl, rfl⟩
  · rw [(sizes_run _).count, Call.length_sizes]
    rfl
  · rw [calls_singleTasks, List.map_singleton, raised_singleCall (by decide) (by decide)]

end Desk

end Phrasebook
