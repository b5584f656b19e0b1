import Phrasebook.Bank.Load
import Phrasebook.Pattern.Matcher
import Phrasebook.Session.Meters
import Phrasebook.Session.Selection
import Phrasebook.Telemetry.Span

/-!
# Phrasebook.Session.Finder

Searching a bank by a selection, with an account of every search.

A search is counted when it is asked for. It runs inside one span; a failure inside is counted,
recorded on the span and logged, and a success is observed by the meters and logged. The length of
the query is taken before the span begins, so a query without a length fails outside of it. The record
of a failure, and that of a success, holds members of the selection. Where it passes and cannot be
written, the search fails for that: in place of the failure that was to be logged, or though it had
found something and the meters have observed it.
-/

namespace Phrasebook

/-- Records and spans, in the order in which they came. -/
structure Trace where
  records : List Record := []
  spans : List (Span Fault) := []

namespace Trace

/-- One trace behind another. -/
def append (a b : Trace) : Trace := ⟨a.records ++ b.records, a.spans ++ b.spans⟩

end Trace

/-- The answer to a request: its result, the trace it left and the meters after it. -/
structure Answer (α : Type) where
  result : Except Fault α
  trace : Trace
  meters : Meters

namespace Answer

variable {α : Type}

/-- The answer once it was logged. What keeps that from being done comes in place of the result. -/
def logged (log : Except Fault (List Record)) (a : Answer α) : Answer α :=
  match log with
  | .error e => { a with result := .error e }
  | .ok rs => { a with trace := { a.trace with records := a.trace.records ++ rs } }

@[simp] theorem logged_ok (rs : List Record) (a : Answer α) :
    a.logged (.ok rs) = { a with trace := { a.trace with records := a.trace.records ++ rs } } :=
  rfl

@[simp] theorem logged_error (e : Fault) (a : Answer α) :
    a.logged (.error e) = { a with result := .error e } := rfl

theorem logged_result (log : Except Fault (List Record)) (a : Answer α) :
    (a.logged log).result = log.bind fun _ => a.result := by
  cases log <;> rfl

theorem logged_spans (log : Except Fault (List Record)) (a : Answer α) :
    (a.logged log).trace.spans = a.trace.spans := by
  cases log <;> rfl

theorem logged_meters (log : Except Fault (List Record)) (a : Answer α) :
    (a.logged log).meters = a.meters := by
  cases log <;> rfl

end Answer

/-- What a search found, and for which selection. -/
structure Found where
  selection : Selection
  phrases : List Value

namespace Found

def count (f : Found) : Nat := f.phrases.length

end Found

/-- A bank with the logger of its searches. -/
structure Finder where
  bank : Bank
  logger : Logger

namespace Finder

/-- The detail that tells the shape of the bank. -/
def shapeDetail (b : Bank) : Members Value := [("tiered", .bool b.isTiered)]

def ofBank (b : Bank) (o : Outlet) : Finder :=
  ⟨b, Logger.bind ⟨"phrase_finder.app.services.search_service",
    [("component", .text "search_service")], o⟩ (shapeDetail b)⟩

def outlet (f : Finder) : Outlet := f.logger.outlet

/-- Puts another bank in place of the finder's. -/
def setBank (f : Finder) (b : Bank) : Finder :=
  ⟨b, f.logger.bind (shapeDetail b)⟩

/-- The selection to begin with: the first category, the default tier, no query. -/
def initial (f : Finder) : Except Fault Selection :=
  f.bank.defaultTier.map fun tier => { tier := (tier.map Value.int).getD .null }

/-- The span of a search as it begins. -/
def openingSpan (s : Selection) (queryLength : Nat) : Span Fault :=
  .start "phrase_finder.search"
    [("phrase_search.category_index", s.category), ("phrase_search.tier", s.tier),
     ("phrase_search.query_length", .int queryLength)]

/-- Logs that a search failed. -/
def logFailure (f : Finder) (s : Selection) (e : Fault) : Except Fault (List Record) :=
  f.logger.record .error "Phrase search failed" [("category_index", s.category)]
    [("error", .text e.message)]

/-- Logs that a search finished; the time it took is not measured. -/
def logSuccess (f : Finder) (s : Selection) (candidates results : Nat) :
    Except Fault (List Record) :=
  f.logger.record .debug "Phrase search completed"
    [("category_index", s.category), ("tier", s.tier)]
    [("candidates", .int candidates), ("results", .int results), ("elapsed_ms", .int 0)]

/-- The answer of a search that fails inside its span. -/
def failed (f : Finder) (s : Selection) (span : Span Fault) (e : Fault) (records : List Record)
    (m : Meters) : Answer Found :=
  Answer.logged (f.logFailure s e) ⟨.error e, ⟨records, [span.fail e]⟩, m.failure⟩

/-- The answer of a search that finishes its span, having looked up candidates and found some. -/
def finished (f : Finder) (s : Selection) (span : Span Fault) (candidates : Nat)
    (found : List Value) (records : List Record) (m : Meters) : Answer Found :=
  let counted := span.annotate
    [("phrase_search.candidates", .int candidates), ("phrase_search.results", .int found.length)]
  Answer.logged (f.logSuccess s candidates found.length)
    ⟨.ok ⟨s, found⟩, ⟨records, [counted]⟩, m.finished found.length⟩

/-- Searches the bank of the finder. -/
def search (f : Finder) (s : Selection) (m : Meters) : Answer Found :=
  match s.query.orEmpty.length with
  | .error e => ⟨.error e, {}, m.request⟩
  | .ok queryLength =>
    let span := openingSpan s queryLength
    match f.bank.lookup s.category s.tier with
    | .error e => f.failed s span e [] m.request
    | .ok l =>
      let records := l.records f.outlet
      match (Matcher.ofQuery s.query).select l.phrases with
      | .error e => f.failed s span e records m.request
      | .ok found => f.finished s span l.phrases.length found records m.request

/-- Changes a selection and searches for the changed one once. -/
def dispatch (f : Finder) (s : Selection) (c : Change) (m : Meters) : Answer Found :=
  match s.apply c with
  | .error e => ⟨.error e, {}, m⟩
  | .ok s' => f.search s' m

end Finder

end Phrasebook
