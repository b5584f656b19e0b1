import Phrasebook.CommandLine.Probe

/-!
# Phrasebook.Main

The program: its arguments, its environment and its files are read here, everything else is decided
in `CommandLine.run`.
-/

namespace Phrasebook

namespace Program

/-- The number behind the code of an error; some codes are negated numbers. -/
def number (code : UInt32) : Nat :=
  if code < 0x80000000 then code.toNat else (0 - code).toNat

/-- The trouble with this number; `words` tells it where it has no name of its own. -/
def troubleOf (code : UInt32) (words : String) : Storage.Trouble :=
  let named : List Storage.Trouble := [.missing, .forbidden, .notDirectory, .isDirectory, .nameTooLong]
  (named.find? fun t => t.number = number code).getD (.other (number code) words)

/-- The trouble behind an error of the file system. -/
def trouble : IO.Error → Storage.Trouble
  | .noFileOrDirectory _ code words | .noSuchThing _ code words
  | .permissionDenied _ code words | .inappropriateType _ code words
  | .invalidArgument _ code words | .resourceExhausted _ code words
  | .alreadyExists _ code words | .interrupted _ code words => troubleOf code words
  | .otherError code words | .resourceBusy code words | .resourceVanished code words
  | .hardwareFault code words | .unsatisfiedConstraints code words
  | .illegalOperation code words | .protocolError code words | .timeExpired code words
  | .unsupportedOperation code words => troubleOf code words
  | .unexpectedEof => .other 0 "unexpected end of file"
  | .userError words => .other 0 words

/-- Reads the file that will be asked for, if one will be. -/
def readFile (path : String) : IO (Except Storage.Trouble (List UInt8)) := do
  try
    let bytes ← IO.FS.readBinFile path
    return .ok bytes.toList
  catch e => return .error (trouble e)

/-- The files as far as the arguments and the environment name one. -/
def files (environment : Environment) (arguments : List String) : IO Storage.Reader := do
  match CommandLine.read arguments with
  | .understood a =>
    match Bank.source environment a.wordBank with
    | some path =>
      let outcome ← readFile (Path.normal path)
      return fun _ => outcome
    | none => return fun _ => .error .missing
  | _ => return fun _ => .error .missing

def environment : IO Environment := do
  let value ← IO.getEnv Bank.pathVariable
  return (value.map fun v => (Bank.pathVariable, v)).toList

/-- The levels that are left where a bank is loaded or searched. -/
def levels : Nat := 950

/-- Warnings pass where nobody has set up the logs. -/
def outlet : Outlet := ⟨Severity.warning.rank, levels⟩

end Program

end Phrasebook

open Phrasebook in
def main (arguments : List String) : IO UInt32 := do
  let environment ← Program.environment
  let files ← Program.files environment arguments
  match CommandLine.run ⟨files, environment, Program.outlet, Program.levels⟩ arguments with
  | .ok output =>
    (← IO.getStdout).putStr output.out
    (← IO.getStderr).putStr output.err
    return output.exit.toUInt32
  | .error e =>
    (← IO.getStderr).putStrLn e.message
    return 1
