import Phrasebook.Session.Meters
import Phrasebook.Telemetry.Registry

/-!
# Phrasebook.Session.Instruments

The metrics of searches, under their names in a registry. Every finder creates them when it is opened;
whoever comes later finds those that are there.
-/

namespace Phrasebook

/-- The metrics that a finder uses. -/
structure Instruments where
  requests : Handle
  failures : Handle
  durations : Handle
  sizes : Handle

namespace Instruments

/-- The bounds of the numbers of phrases found, but for the open end. -/
def sizeBounds : List Float := (Meters.sizeBounds.filterMap id).map Nat.toFloat

/-- Creates the metrics of a finder, one after another. -/
def ofRegistry (r : Registry) : Registry × Instruments :=
  let (r, requests) := r.createCounter "phrase_search_requests_total" []
  let (r, failures) := r.createCounter "phrase_search_request_failures_total" []
  let (r, durations) := r.createHistogram "phrase_search_request_seconds" [] none
  let (r, sizes) := r.createHistogram "phrase_search_results" [] (some sizeBounds)
  (r, ⟨requests, failures, durations, sizes⟩)

def handles (i : Instruments) : List Handle := [i.requests, i.failures, i.durations, i.sizes]

end Instruments

end Phrasebook
