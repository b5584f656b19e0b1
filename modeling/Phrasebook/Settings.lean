import Phrasebook.Bank.Load
import Phrasebook.Panel
import Phrasebook.Session.Application
import Phrasebook.Telemetry.LogSetup

/-!
# Phrasebook.Settings

What the environment says about serving the panel, and the start of the program up to serving it.
-/

namespace Phrasebook

/-- How the panel is served. -/
structure Launch where
  host : String
  port : Int
  share : Bool

namespace Settings

/-- The variable that asks for a public link. -/
def shareVariable : String := "PHRASE_FINDER_SHARE"

def portVariable : String := "PHRASE_FINDER_PORT"

def standardPort : Int := 7860

/-- The words that ask for a public link. -/
def agreement : List (List Char) := ["1".toList, "true".toList, "yes".toList, "on".toList]

/-- A public link is asked for, in any letter case and with blanks around. -/
def share (e : Environment) : Bool :=
  match Pairs.at? e shareVariable with
  | some s => agreement.contains ((Blank.trim s).toList.map Letter.lower)
  | none => false

/-- The port that is named, or the standard one where none can be read. -/
def port (e : Environment) : Int :=
  ((Pairs.at? e portVariable).bind Numeral.read?).getD standardPort

def launch (e : Environment) : Launch := ⟨"0.0.0.0", port e, share e⟩

end Settings

/-- The program ready to serve its panel. -/
structure Startup where
  launch : Launch
  threshold : Threshold
  panel : Panel

namespace Startup

/-- The surroundings once the logs are set up: records pass from the rank that is in force. -/
def withLogs (s : Surroundings) (logs : LogSetup) : Surroundings :=
  { s with outlet := { s.outlet with threshold := logs.effective } }

/-- Sets up the logs, builds the application and opens its panel. -/
def run (s : Surroundings) : Except Fault Startup :=
  match LogSetup.configure .initial .null (Pairs.at? s.environment LogSetup.levelVariable) false with
  | .error e => .error e
  | .ok (threshold, logs) =>
    match (Application.build (withLogs s logs) {}).1 with
    | .error e => .error e
    | .ok app =>
      (Panel.ofFinder app.finder).map fun panel =>
        ⟨Settings.launch s.environment, threshold, panel⟩

end Startup

end Phrasebook
