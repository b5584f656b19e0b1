import Phrasebook.Bank.Document
import Phrasebook.Bank.Sample
import Phrasebook.Telemetry.Log

/-!
# Phrasebook.Bank.Load

Loading a word bank: from a path, else from the path that the environment names, else the sample.
A path that is empty names nothing. Success leaves a record of what was loaded.
-/

namespace Phrasebook

/-- Variables of the environment. -/
abbrev Environment := Pairs String String

/-- What surrounds the program: files, variables, the outlet of its logs, and how many levels there
are for reading a document. -/
structure Surroundings where
  files : Storage.Reader
  environment : Environment
  outlet : Outlet
  levels : Nat

namespace Bank

/-- The variable that names the file of a word bank. -/
def pathVariable : String := "PHRASE_FINDER_WORD_BANK"

def logger (o : Outlet) : Logger :=
  ⟨"phrase_finder.app.data.word_bank", [("component", .text "word_bank")], o⟩

/-- The document in a file: bytes as UTF-8 text with unified line breaks, and that as JSON. -/
def readDocument (s : Surroundings) (path : String) : Except Fault Value :=
  if '\x00' ∈ path.toList then .error .nullInPath
  else
    match s.files path with
    | .error trouble => .error (.bank (.unreadable path trouble))
    | .ok bytes =>
      match Utf8.decode bytes with
      | .error fault => .error (.undecodable fault)
      | .ok cs =>
        match Json.read s.levels (LineBreak.unify cs) with
        | .ok v => .ok v
        | .error (.malformed m) => .error (.bank (.malformed path m))
        | .error (.longNumeral digits) => .error (.longNumeral digits)
        | .error (.tooDeep descent) => .error (.tooDeep descent)

/-- The path that is loaded, if one is named. -/
def source (environment : Environment) (path : Option String) : Option String :=
  match path with
  | some p => if p = "" then named else some p
  | none => named
where
  named : Option String := (Pairs.at? environment pathVariable).filter (· ≠ "")

def loadedRecord (o : Outlet) (b : Bank) (origin : String) : Record :=
  (logger o).entry .info "Word bank loaded"
    [("source", .text origin), ("tiered", .bool b.isTiered),
     ("tiers", .array (b.tierNumbers.map .int)), ("entries", .int b.size)]

/-- Loads a bank; what is logged is returned beside it. -/
def load (s : Surroundings) (path : Option String) (labels : List String) :
    Except Fault (Bank × List Record) :=
  match source s.environment path with
  | some p =>
    match readDocument s (Path.normal p) with
    | .error e => .error e
    | .ok document => finish document p
  | none => finish sampleDocument "bundled"
where
  /-- Checks the document and makes the record. -/
  finish (document : Value) (origin : String) : Except Fault (Bank × List Record) :=
    match ofDocument document labels with
    | .error e => .error (.bank e)
    | .ok b => .ok (b, s.outlet.passing [loadedRecord s.outlet b origin])

/-- The record of a look-up under a key that the bank lacks. -/
def missingRecord (o : Outlet) (key : Key) : Record :=
  (logger o).entry .warning "Word bank key missing" [("key", .text (Key.text key))]

/-- The records a look-up leaves: one if the key is missing. -/
def Lookup.records (l : Lookup) (o : Outlet) : List Record :=
  if l.list?.isSome then [] else o.passing [missingRecord o l.key]

end Bank

end Phrasebook
