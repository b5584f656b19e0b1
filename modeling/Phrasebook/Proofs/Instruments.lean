import Mathlib.Tactic.SplitIfs
import Phrasebook.Session.Instruments

/-!
# Phrasebook.Proofs.Instruments

All finders use the same metrics.

What stands under a name in a registry stays there whatever is created or used later
(`Later.at?_names`), and creating a metric under a name that is taken finds what stands there
(`create_of_taken`). So a finder that is opened later gets the metrics of the first one, and what was
counted by then stays as it is (`Instruments.ofRegistry_later`). This is why finders that work side by
side share their meters, and why a new bank does not reset them.
-/

namespace Phrasebook

open Phrasebook.Metric

/-- What becomes of a registry by creating metrics and by using them. -/
inductive Registry.Later (r : Registry) : Registry → Prop
  | refl : Later r r
  | counter {r' : Registry} (h : Later r r') (name : String) (labelNames : List String) :
      Later r (r'.createCounter name labelNames).1
  | histogram {r' : Registry} (h : Later r r') (name : String) (labelNames : List String)
      (bounds : Option (List Float)) : Later r (r'.createHistogram name labelNames bounds).1
  | increase {r' r'' : Registry} (h : Later r r') {handle : Handle} {amount : Value}
      (hr : r'.increase handle amount = .ok r'') : Later r r''
  | observe {r' r'' : Registry} (h : Later r r') {handle : Handle} {amount : Value}
      (hr : r'.observe handle amount = .ok r'') : Later r r''
  | series {r' : Registry} (h : Later r r') (handle : Handle) (labels : Members Value) :
      Later r (r'.series handle labels).1

namespace Registry

variable {r r' : Registry} {k : Kind} {name : String} {labelNames : List String} {s : Series}
  {blank : Option Series} {id : Nat}

/-! ## Names stay -/

/-- The names that a metric reserves that is asked for under some name. -/
def namesFor (k : Kind) (name : String) : List String :=
  baseName k name :: k.endings.map (baseName k name ++ ·)

theorem at?_putAll (id : Nat) (reserved : List String) (names : Pairs String Nat) (name : String) :
    Pairs.at? (reserved.foldl (fun ns n => Pairs.put n id ns) names) name =
      if name ∈ reserved then some id else Pairs.at? names name := by
  induction reserved generalizing names with
  | nil => simp
  | cons n reserved ih =>
    rw [List.foldl_cons, ih, Pairs.at?_put]
    by_cases h : name ∈ reserved
    · simp [h]
    · simp [h, eq_comm]

/-- A metric that is registered takes its names, none of which was taken before. -/
theorem register?_names (hs : s.kind = k) (h : r.register? k name labelNames s = some r') :
    (∀ n ∈ namesFor k name, Pairs.at? r.names n = none) ∧
      ∀ n, Pairs.at? r'.names n =
        if n ∈ namesFor k name then some r.collectors.length else Pairs.at? r.names n := by
  subst hs
  simp only [register?] at h
  -- The first series has no part in the names, and its case split would come first.
  generalize (if labelNames.isEmpty then [([], s)] else []) = series at h
  split_ifs at h with hname htaken
  cases h
  refine ⟨fun n hn => ?_, fun n => at?_putAll _ _ _ n⟩
  rw [List.any_eq_true] at htaken
  exact Option.not_isSome_iff_eq_none.1 fun hn' => htaken ⟨n, hn, hn'⟩

theorem names_increase {handle : Handle} {amount : Value}
    (h : r.increase handle amount = .ok r') : r'.names = r.names := by
  rw [increase] at h
  split at h
  · cases h
  · split at h
    · split at h
      · cases h
      · cases h
        rfl
      · cases hy : amount.toAddend .notAdded <;> rw [hy] at h <;> cases h
        rfl
    · cases h
      rfl

theorem names_observe {handle : Handle} {amount : Value}
    (h : r.observe handle amount = .ok r') : r'.names = r.names := by
  rw [observe] at h
  split at h
  · cases h
  · split at h
    · cases hy : amount.toAddend .notAdded <;> rw [hy] at h <;> cases h
      rfl
    · cases h
      rfl

theorem names_series (r : Registry) (handle : Handle) (labels : Members Value) :
    (r.series handle labels).1.names = r.names := by
  rw [series]
  split
  · split
    · rfl
    · simp only
      split_ifs <;> rfl
  · rfl

theorem at?_names_create (hkind : ∀ s ∈ blank, s.kind = k)
    (h : Pairs.at? r.names name = some id) (name' : String) (labelNames : List String) :
    Pairs.at? (r.create k name' labelNames blank).1.names name = some id := by
  rw [create]
  cases hr : blank.bind (r.register? k name' labelNames) with
  | none => exact h
  | some r' =>
    obtain ⟨s, hs, hregister⟩ := Option.bind_eq_some_iff.1 hr
    obtain ⟨hfree, hnames⟩ := register?_names (hkind s hs) hregister
    have hname : name ∉ namesFor k name' := by
      intro hmem
      rw [hfree name hmem] at h
      cases h
    rw [hnames, if_neg hname, h]

theorem kind_counter : ∀ s ∈ some (Series.counter 0.0), s.kind = .counter := by
  rintro s ⟨⟩
  rfl

theorem kind_histogram (bounds : Option (List Float)) :
    ∀ s ∈ bounds.map fun bs => Series.histogram (.empty 0.0 bs), s.kind = .histogram := by
  intro s hs
  obtain ⟨bs, -, rfl⟩ := Option.map_eq_some_iff.1 hs
  rfl

/-- What stands under a name stays there. -/
theorem Later.at?_names (h : Later r r') (hname : Pairs.at? r.names name = some id) :
    Pairs.at? r'.names name = some id := by
  induction h with
  | refl => exact hname
  | counter h name' labelNames ih => exact at?_names_create kind_counter ih _ _
  | histogram h name' labelNames bounds ih => exact at?_names_create (kind_histogram _) ih _ _
  | increase h hr ih => rwa [names_increase hr]
  | observe h hr ih => rwa [names_observe hr]
  | series h handle labels ih => rwa [names_series]

/-! ## Creating again -/

/-- A metric reserves the name that it is asked for, also where it goes by another one. -/
theorem mem_namesFor (k : Kind) (name : String) : name ∈ namesFor k name := by
  rw [namesFor, baseName]
  split_ifs with h
  · simp only [Bool.and_eq_true, decide_eq_true_eq] at h
    obtain ⟨rfl, hsuffix⟩ := h
    obtain ⟨cs, hcs⟩ := List.isSuffixOf_iff_suffix.1 hsuffix
    have htake : name.toList.take (name.toList.length - "_total".toList.length) = cs := by
      rw [← hcs]
      simp
    refine List.mem_cons_of_mem _ (List.mem_map.2 ⟨"_total", List.mem_cons_self, ?_⟩)
    rw [htake, ← String.toList_inj, String.toList_append, String.toList_ofList, hcs]
  · exact List.mem_cons_self

/-- Creating under a name that is taken finds what stands there. -/
theorem create_of_taken (hkind : ∀ s ∈ blank, s.kind = k)
    (h : Pairs.at? r.names name = some id) :
    r.create k name labelNames blank = (r, ⟨k, .metric id⟩) := by
  rw [create]
  cases hr : blank.bind (r.register? k name labelNames) with
  | none => simp only [existing, h]
  | some r' =>
    obtain ⟨s, hs, hregister⟩ := Option.bind_eq_some_iff.1 hr
    rw [(register?_names (hkind s hs) hregister).1 name (mem_namesFor k name)] at h
    cases h

/-- A handle that reaches something reaches what stands under the name from then on. -/
theorem at?_names_of_create (hkind : ∀ s ∈ blank, s.kind = k)
    (h : (r.create k name labelNames blank).2.target ≠ .nothing) :
    ∃ id, (r.create k name labelNames blank).2 = ⟨k, .metric id⟩ ∧
      Pairs.at? (r.create k name labelNames blank).1.names name = some id := by
  rw [create] at h ⊢
  cases hr : blank.bind (r.register? k name labelNames) with
  | none =>
    rw [hr] at h
    simp only [existing] at h ⊢
    cases hname : Pairs.at? r.names name with
    | none =>
      rw [hname] at h
      exact absurd rfl h
    | some id => exact ⟨id, rfl, rfl⟩
  | some r' =>
    obtain ⟨s, hs, hregister⟩ := Option.bind_eq_some_iff.1 hr
    refine ⟨r.collectors.length, rfl, ?_⟩
    exact ((register?_names (hkind s hs) hregister).2 name).trans (if_pos (mem_namesFor k name))

/-- Created again at any later time, a metric is the one that it was, and nothing changes. -/
theorem create_later (hkind : ∀ s ∈ blank, s.kind = k)
    (h : (r.create k name labelNames blank).2.target ≠ .nothing)
    (hlater : Later (r.create k name labelNames blank).1 r') :
    r'.create k name labelNames blank = (r', (r.create k name labelNames blank).2) := by
  obtain ⟨id, hhandle, hid⟩ := at?_names_of_create hkind h
  rw [create_of_taken hkind (hlater.at?_names hid), hhandle]

theorem createCounter_later (h : (r.createCounter name labelNames).2.target ≠ .nothing)
    (hlater : Later (r.createCounter name labelNames).1 r') :
    r'.createCounter name labelNames = (r', (r.createCounter name labelNames).2) :=
  create_later kind_counter h hlater

theorem createHistogram_later {bounds : Option (List Float)}
    (h : (r.createHistogram name labelNames bounds).2.target ≠ .nothing)
    (hlater : Later (r.createHistogram name labelNames bounds).1 r') :
    r'.createHistogram name labelNames bounds =
      (r', (r.createHistogram name labelNames bounds).2) :=
  create_later (kind_histogram _) h hlater

theorem Later.trans {r'' : Registry} (h : Later r r') (h' : Later r' r'') : Later r r'' := by
  induction h' with
  | refl => exact h
  | counter _ name labelNames ih => exact ih.counter name labelNames
  | histogram _ name labelNames bounds ih => exact ih.histogram name labelNames bounds
  | increase _ hr ih => exact ih.increase hr
  | observe _ hr ih => exact ih.observe hr
  | series _ handle labels ih => exact ih.series handle labels

end Registry

namespace Instruments

open Registry

/-- **Finders share their metrics.** Where the metrics of a finder could be created, a finder that is
opened at any later time gets the same ones, and leaves them as they are. -/
theorem ofRegistry_later {r r' : Registry}
    (hreach : ∀ h ∈ (ofRegistry r).2.handles, h.target ≠ .nothing)
    (hlater : Later (ofRegistry r).1 r') : ofRegistry r' = (r', (ofRegistry r).2) := by
  simp only [handles, List.forall_mem_cons] at hreach
  obtain ⟨hrequests, hfailures, hdurations, hsizes, -⟩ := hreach
  have hafterDurations := (Later.refl.histogram _ _ _).trans hlater
  have hafterFailures := (Later.refl.histogram _ _ _).trans hafterDurations
  have hafterRequests := (Later.refl.counter _ _).trans hafterFailures
  rw [ofRegistry]
  simp only [createCounter_later hrequests hafterRequests,
    createCounter_later hfailures hafterFailures,
    createHistogram_later hdurations hafterDurations, createHistogram_later hsizes hlater]
  rfl

end Instruments

end Phrasebook
