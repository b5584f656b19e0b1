import Phrasebook.Pairs
import Phrasebook.Telemetry.Threshold

/-!
# Phrasebook.Telemetry.LogSetup

Setting up the logs of the program once.

The first set-up installs the output at the root and sets the thresholds of the root, of the project
and of the chatty loggers, which report every round trip of the panel and are held at warnings unless
the project tells everything. Later set-ups change nothing unless they are forced.
-/

namespace Phrasebook

/-- The thresholds in force. -/
structure LogSetup where
  isDone : Bool
  root : Threshold
  /-- The thresholds that loggers were given, by their names. -/
  levels : Pairs String Threshold
  /-- The layouts of the installed outputs. -/
  layouts : List String

namespace LogSetup

def levelVariable : String := "PHRASE_FINDER_LOG_LEVEL"

def projectLogger : String := "phrase_finder"

/-- The loggers that report every round trip of the panel. -/
def chattyLoggers : List String := ["httpx", "uvicorn.access"]

/-- The layout of a line: time, severity, logger, message. -/
def layout : String := "%(asctime)s | %(levelname)s | %(name)s | %(message)s"

/-- Before any set-up. -/
def initial : LogSetup := ⟨false, .number 30, [], []⟩

/-- The threshold of a logger, zero if it was given none. -/
def level (s : LogSetup) (logger : String) : Threshold :=
  (Pairs.at? s.levels logger).getD (.number 0)

/-- The threshold of the project. -/
def project (s : LogSetup) : Threshold := s.level projectLogger

/-- The threshold of the chatty loggers, which are set together. -/
def chatty (s : LogSetup) : Threshold := s.level "httpx"

/-- The rank from which records of the project pass: its own threshold, or that of the root if it has
none. -/
def effective (s : LogSetup) : Int := if s.project.rank = 0 then s.root.rank else s.project.rank

/-- Sets the threshold of some loggers. -/
def setLevel (s : LogSetup) (t : Threshold) (loggers : List String) : LogSetup :=
  { s with levels := loggers.foldl (fun ls logger => Pairs.put logger t ls) s.levels }

/-- Installs the output at the root and sets the threshold there, unless the root has an output
already that is not to be replaced. -/
def install (s : LogSetup) (t : Threshold) (force : Bool) : LogSetup :=
  if s.layouts.isEmpty || force then { s with root := t, layouts := [layout] } else s

/-- The threshold of the chatty loggers beside a threshold of the project. -/
def chattyFor (t : Threshold) : Threshold :=
  if Threshold.debug.rank < t.rank then
    if Threshold.warning.rank ≤ t.rank then t else Threshold.warning
  else t

/-- The threshold that is asked for: the one given, or the one in the environment. -/
def wanted (given : Value) (named : Option String) : Value :=
  if given.isNull then (named.map .text).getD .null else given

/-- Sets up the logs and tells the threshold of the project. -/
def configure (s : LogSetup) (given : Value) (named : Option String) (force : Bool) :
    Except Fault (Threshold × LogSetup) :=
  if s.isDone && !force then .ok (s.project, s)
  else
    match Threshold.ofValue (wanted given named) with
    | .error e => .error e
    | .ok t =>
      let installed := (s.install t force).setLevel t [projectLogger]
      .ok (t, { installed.setLevel (chattyFor t) chattyLoggers with isDone := true })

end LogSetup

end Phrasebook
