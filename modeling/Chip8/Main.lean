/-
# The command line

Reads the arguments and the configuration file.  The window in which a program
would run is not part of this library.
-/

import Chip8.CommandLine.Launch

namespace Chip8

/-- The text of a file. -/
def readText (path : Text) : IO (Except FileError Text) := do
  try
    return .ok (← IO.FS.readFile path.shown)
  catch e =>
    match e with
    | .noFileOrDirectory .. => return .error .missing
    | _ => return .error .directory

/-- Says why the program does not start, and gives the exit code. -/
def reportLaunchError : LaunchError → IO UInt32
  | .ended e => do
    IO.print e.out
    IO.eprint e.err.shown
    return UInt32.ofNat e.code
  | .file .missing => do IO.eprintln "The configuration file does not exist."; return 1
  | .file _ => do IO.eprintln "The configuration file cannot be read."; return 1
  | .read (.document .malformed) => do
    IO.eprintln "The configuration file is not well formed."; return 1
  | .read (.document e) => do IO.eprintln e.message; return 1
  | .read (.config e) => do IO.eprintln e.message.shown; return 1

end Chip8

/-- Starts the program with the words of the command line. -/
def main (args : List String) : IO UInt32 := do
  let words := args.map Chip8.Text.ofString
  let text ← match Chip8.Arguments.ofWords words with
    | .ok ⟨_, .file path⟩ => Chip8.readText path
    | _ => pure (.error .missing)
  match Chip8.Launch.ofWords (fun _ => text) words with
  | .error e => Chip8.reportLaunchError e
  | .ok launch => do
    IO.eprintln s!"Ready at log level {launch.logLevel.name}; there is no window to run in."
    return 1
