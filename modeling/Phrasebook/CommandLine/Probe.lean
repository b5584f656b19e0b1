import Phrasebook.CommandLine.Arguments
import Phrasebook.Session.Application

/-!
# Phrasebook.CommandLine.Probe

The command line that searches a bank the way the panel does.

It shows the number of phrases and the phrases, one on a line or all as JSON; or it only checks the
bank and tells what it holds. A category is given from one, and none lies before the first.
-/

namespace Phrasebook

namespace CommandLine

/-- What a run leaves: its exit code and both outputs. -/
structure Output where
  exit : Nat
  out : String
  err : String
  deriving DecidableEq, Repr

/-- The name under which complaints are made. -/
def programName : String := "phrase_probe.py"

def usage : List String :=
  ["usage: phrase_probe.py [-h] [--word-bank WORD_BANK] [--category CATEGORY]",
   "                       [--tier TIER] [--json] [--check]",
   "                       [query]"]

def help : List String :=
  usage ++
  ["",
   "Filter one category of a word bank with a wildcard query. Use '*' for any run",
   "of characters; a query without '*' is a substring search.",
   "",
   "positional arguments:",
   "  query                 Wildcard query (default: everything).",
   "",
   "options:",
   "  -h, --help            show this help message and exit",
   "  --word-bank WORD_BANK",
   "                        Path to a word bank JSON file (defaults to the bundled",
   "                        sample).",
   "  --category CATEGORY   One-based category number, as shown in the sidebar.",
   "  --tier TIER           Point tier for tiered banks.",
   "  --json                Emit results as JSON.",
   "  --check               Only load and validate the word bank, then print a",
   "                        summary."]

/-- Lines as text, each with its line feed. -/
def unlines (lines : List String) : String :=
  String.join (lines.map (· ++ "\n"))

/-- A run that failed with a message. -/
def refuse (lines : List String) : Output := ⟨2, "", unlines lines⟩

def succeed (lines : List String) : Output := ⟨0, unlines lines, ""⟩

def summary (b : Bank) : String :=
  s!"ok: {b.size} phrases, tiered={(Value.bool b.isTiered).describe}, " ++
    s!"tiers={(Value.array (b.tierNumbers.map .int)).describe}"

/-- The position of a category that is counted from one. -/
def position : Given → Except Fault Int
  | .number n => .ok (max 0 (n - 1))
  | g => .error (.notLessened g.toValue.kind)

/-- The tier that is asked for, or the one to begin with. -/
def tier (a : Arguments) (b : Bank) : Except Fault Value :=
  match a.tier with
  | some g => .ok g.toValue
  | none => b.defaultTier.map fun t => (t.map Value.int).getD .null

def selection (a : Arguments) (b : Bank) : Except Fault Selection :=
  match position a.category with
  | .error e => .error e
  | .ok n => (tier a b).map fun t => ⟨.int n, t, .text a.query⟩

def report (a : Arguments) (f : Found) : List String :=
  if a.json then
    [Json.write (.object [("count", .int f.count), ("phrases", .array f.phrases)])]
  else Numeral.write f.count :: f.phrases.map Value.plain

/-- Searches as the arguments ask for. -/
def probe (a : Arguments) (app : Application) : Except Fault Output :=
  if a.check then .ok (succeed [summary app.bank])
  else
    match selection a app.bank with
    | .error e => .error e
    | .ok s => (app.finder.search s .zero).result.map fun f => succeed (report a f)

/-- Runs the command line. Only a fault that is no refusal of the bank is left to the caller. -/
def run (s : Surroundings) (arguments : List String) : Except Fault Output :=
  match read arguments with
  | .help => .ok (succeed help)
  | .refused c => .ok (refuse (usage ++ [s!"{programName}: error: {c.message}"]))
  | .understood a =>
    match (Application.build s { path := a.wordBank }).1 with
    | .error (.bank e) => .ok (refuse [s!"Word bank error: {e.message}"])
    | .error e => .error e
    | .ok app => probe a app

end CommandLine

end Phrasebook
