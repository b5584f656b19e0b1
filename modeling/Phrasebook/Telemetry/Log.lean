import Phrasebook.Json.Writer

/-!
# Phrasebook.Telemetry.Log

Log records with details.

A logger carries bound details; a record takes them over and adds its own, which win over bound ones
of the same key. The text of a record is its message, and behind it its details as a JSON object with
the members in the order of their keys. Two names are no details that can be bound: `name` when a
logger is opened and `self` when more is bound to it.

A logger writes to an outlet, which lets records pass from some rank on. A record is written when it
passes and only then. Details that were handed over by a caller may be impossible to write, and then
logging fails; what the program tells of itself, words, flags and short numbers, never is.
-/

namespace Phrasebook

/-- How grave a record is. -/
inductive Severity where
  | debug
  | info
  | warning
  | error
  | critical
  deriving DecidableEq, Repr

namespace Severity

def rank : Severity → Int
  | debug => 10
  | info => 20
  | warning => 30
  | error => 40
  | critical => 50

def name : Severity → String
  | debug => "DEBUG"
  | info => "INFO"
  | warning => "WARNING"
  | error => "ERROR"
  | critical => "CRITICAL"

end Severity

/-- Where records go. -/
structure Outlet where
  /-- The rank from which records pass. -/
  threshold : Int
  /-- How many levels the details may be nested, beside the two that every object of them takes. -/
  room : Nat
  deriving DecidableEq, Repr

namespace Outlet

/-- Records of the severity pass. -/
def passes (o : Outlet) (s : Severity) : Bool := o.threshold ≤ s.rank

end Outlet

structure Record where
  severity : Severity
  logger : String
  message : String
  details : Members Value

namespace Record

def text (r : Record) : String :=
  if r.details.isEmpty then r.message
  else r.message ++ " | " ++ Json.write (Value.object r.details).sorted

end Record

/-- The records that pass. -/
def Outlet.passing (o : Outlet) (rs : List Record) : List Record :=
  rs.filter fun r => o.passes r.severity

/-- A named source of records with bound details. -/
structure Logger where
  name : String
  bound : Members Value
  outlet : Outlet

namespace Logger

def bind (l : Logger) (details : Members Value) : Logger :=
  { l with bound := Pairs.merge l.bound details }

/-- A logger with details; `name` is its own. -/
def withDetails (name : String) (details : Members Value) (o : Outlet) : Except Fault Logger :=
  if "name" ∈ Pairs.keys details then .error (.nameTaken "get_logger" "name")
  else .ok ⟨name, details, o⟩

/-- Binds details of any name but `self`. -/
def bindDetails (l : Logger) (details : Members Value) : Except Fault Logger :=
  if "self" ∈ Pairs.keys details then .error (.nameTaken "StructuredLoggerAdapter.bind" "self")
  else .ok (l.bind details)

/-- A record with more details. -/
def entry (l : Logger) (severity : Severity) (message : String) (details : Members Value) :
    Record :=
  ⟨severity, l.name, message, Pairs.merge l.bound details⟩

/-- Why a record cannot be written to which these details were handed over. -/
def obstacle? (l : Logger) (given : Members Value) : Option Fault :=
  Json.obstacle? (l.outlet.room + 2) (Value.object (Pairs.merge l.bound given)).sorted

/-- Logs a record with details that were handed over and others of the program's own, if it passes. -/
def record (l : Logger) (severity : Severity) (message : String) (given own : Members Value) :
    Except Fault (List Record) :=
  if l.outlet.passes severity then
    match l.obstacle? given with
    | some e => .error e
    | none => .ok [l.entry severity message (given ++ own)]
  else .ok []

end Logger

end Phrasebook
