import Phrasebook.Telemetry.Metric

/-!
# Phrasebook.Telemetry.Registry

Metrics under their names, and the handles through which the program uses them.

A metric reserves its own name and some endings of it. Creating a metric whose name, labels or bounds
are not allowed, or whose names are taken, yields a handle on what stands under the given name, of
whatever kind it is, or an inert handle if nothing does. A metric with labels measures nothing itself:
each set of label values has a series of its own, made when it is first asked for. Using a metric in
a way that it refuses has no effect.
-/

namespace Phrasebook

open Phrasebook.Metric

/-- A metric: its name, its labels, and its series by label values; without labels there is one
series, under no values. -/
structure Collector where
  name : String
  labelNames : List String
  blank : Series
  series : Pairs (List String) Series

namespace Collector

def kind (c : Collector) : Kind := c.blank.kind

/-- The names that a metric reserves. -/
def reserved (c : Collector) : List String :=
  c.name :: c.kind.endings.map (c.name ++ ·)

/-- The samples of a metric, with its labels and under full names. -/
def samples (c : Collector) : List Sample :=
  c.series.flatMap fun s =>
    s.2.samples.map fun x => { x with
      name := c.name ++ x.name
      labels := c.labelNames.zip s.1 ++ x.labels }

end Collector

/-- All metrics, by number, and who stands under which name. -/
structure Registry where
  collectors : List Collector
  names : Pairs String Nat

/-- What a handle reaches. -/
inductive Target where
  | nothing
  | metric (id : Nat)
  | labelled (id : Nat) (values : List String)
  deriving DecidableEq, Repr

/-- A handle for metrics of a kind; what it reaches may be of another kind. -/
structure Handle where
  kind : Kind
  target : Target
  deriving DecidableEq, Repr

namespace Handle

def inert (k : Kind) : Handle := ⟨k, .nothing⟩

def word (h : Handle) : String := h.kind.word ++ "Handle"

end Handle

namespace Registry

def empty : Registry := ⟨[], []⟩

/-- The handle on what stands under a name. -/
def existing (r : Registry) (k : Kind) (name : String) : Handle :=
  match Pairs.at? r.names name with
  | some id => ⟨k, .metric id⟩
  | none => .inert k

/-- Registers a metric if its names and labels are allowed and none of its names is taken. -/
def register? (r : Registry) (k : Kind) (name : String) (labelNames : List String)
    (blank : Series) : Option Registry :=
  let c : Collector :=
    ⟨baseName k name, labelNames, blank, if labelNames.isEmpty then [([], blank)] else []⟩
  if !(isMetricName c.name && labelNames.all (isLabelName k)) then none
  else if c.reserved.any fun n => (Pairs.at? r.names n).isSome then none
  else
    let id := r.collectors.length
    some ⟨r.collectors ++ [c], c.reserved.foldl (fun ns n => Pairs.put n id ns) r.names⟩

/-- Creates a metric, or falls back on what stands under its name. -/
def create (r : Registry) (k : Kind) (name : String) (labelNames : List String)
    (blank : Option Series) : Registry × Handle :=
  match blank.bind (r.register? k name labelNames) with
  | some r' => (r', ⟨k, .metric r.collectors.length⟩)
  | none => (r, r.existing k name)

def createCounter (r : Registry) (name : String) (labelNames : List String) : Registry × Handle :=
  r.create .counter name labelNames (some (.counter 0.0))

/-- Creates a histogram under bounds, or under the standard ones. -/
def createHistogram (r : Registry) (name : String) (labelNames : List String)
    (bounds : Option (List Float)) : Registry × Handle :=
  let blank := (completeBounds? (bounds.getD standardBounds)).map fun bs =>
    Series.histogram (.empty 0.0 bs)
  r.create .histogram name labelNames blank

/-- The metric and the label values that a handle reaches, if it reaches a series. -/
def reach? (r : Registry) (h : Handle) : Option (Nat × Collector × List String × Series) :=
  match h.target with
  | .nothing => none
  | .metric id => do
    let c ← r.collectors[id]?
    let s ← Pairs.at? c.series []
    return (id, c, [], s)
  | .labelled id values => do
    let c ← r.collectors[id]?
    let s ← Pairs.at? c.series values
    return (id, c, values, s)

def collector? (r : Registry) (h : Handle) : Option Collector :=
  match h.target with
  | .nothing => none
  | .metric id => r.collectors[id]?
  | .labelled id _ => r.collectors[id]?

/-- Puts a series in place. -/
def setSeries (r : Registry) (id : Nat) (values : List String) (s : Series) : Registry :=
  { r with
    collectors := r.collectors.modify id fun c => { c with series := Pairs.put values s c.series } }

/-- Refuses a use that the handle, or the metric it reaches, is not made for. -/
def demand (r : Registry) (h : Handle) (k : Kind) (ability : String) : Except Fault Unit :=
  if h.kind ≠ k then .error (.lacks h.word ability)
  else match r.collector? h with
    | some c => if c.kind = k then .ok () else .error (.lacks c.kind.word ability)
    | none => .ok ()

/-- Adds to a counter; nothing happens below zero. -/
def increase (r : Registry) (h : Handle) (amount : Value) : Except Fault Registry :=
  match r.demand h .counter "inc" with
  | .error e => .error e
  | .ok () =>
    match r.reach? h with
    | some (id, _, values, .counter x) =>
      match amount.isNegative with
      | .error e => .error e
      | .ok true => .ok r
      | .ok false => (amount.toAddend .notAdded).map fun y => r.setSeries id values (.counter (x + y))
    | _ => .ok r

def observe (r : Registry) (h : Handle) (amount : Value) : Except Fault Registry :=
  match r.demand h .histogram "observe" with
  | .error e => .error e
  | .ok () =>
    match r.reach? h with
    | some (id, _, values, .histogram g) =>
      (amount.toAddend .notAdded).map fun y =>
        r.setSeries id values (.histogram (g.observe (g.sum + y) amount.atMost))
    | _ => .ok r

/-- Observes how long something took. The time is not measured, only that it was. -/
def observeTime (r : Registry) (h : Handle) : Except Fault Registry :=
  if h.kind = .histogram then r.observe h (.float 0.0) else .error (.lacks h.word "time")

/-- The same names, in any order. -/
def sameNames (a b : List String) : Bool :=
  a.mergeSort (· ≤ ·) == b.mergeSort (· ≤ ·)

/-- The handle on the series of label values, which is made if it is new. Labels that are not those
of the metric, or labels upon labels, give an inert handle. -/
def series (r : Registry) (h : Handle) (labels : Members Value) : Registry × Handle :=
  match h.target with
  | .metric id =>
    match r.collectors[id]? with
    | none => (r, .inert h.kind)
    | some c =>
      let named := Pairs.keys labels
      if c.labelNames.isEmpty || !sameNames named c.labelNames ||
          !isMetricName (baseName c.kind c.name) then (r, .inert h.kind)
      else
        let values := c.labelNames.map fun n => ((Pairs.at? labels n).getD .null).plain
        let r' := if (Pairs.at? c.series values).isSome then r else r.setSeries id values c.blank
        (r', ⟨h.kind, .labelled id values⟩)
  | _ => (r, .inert h.kind)

/-- The handle on the series of label values, none of which may be under the name `self`. -/
def label (r : Registry) (h : Handle) (labels : Members Value) :
    Except Fault (Registry × Handle) :=
  if "self" ∈ Pairs.keys labels then .error (.nameTaken "_MetricHandle.labels" "self")
  else .ok (r.series h labels)

/-- What a handle shows: nothing if it is inert, all samples of a metric, or those of one series. -/
def samples? (r : Registry) (h : Handle) : Option (List Sample) :=
  match h.target with
  | .nothing => none
  | .metric id => (r.collectors[id]?).map Collector.samples
  | .labelled _ _ => (r.reach? h).map fun x => x.2.2.2.samples

end Registry

end Phrasebook
