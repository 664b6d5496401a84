/-
# Starting the program

The arguments come first, then the configuration, then the log.  Without a
configuration file every choice has its default.
-/

import Chip8.CommandLine.Arguments
import Chip8.Config.Read

namespace Chip8

/-- Why a file cannot be opened. -/
inductive FileError where
  | missing
  | directory
  /-- A part of the path is no directory although the path goes on after it. -/
  | notDirectory (path : Text)
  /-- The path has a null character in it. -/
  | nullCharacter
  /-- The file has no name. -/
  | unnamed
  deriving DecidableEq, Repr

/-- The wording of the refusal; for a file that is missing or a directory there is none. -/
def FileError.message : FileError → Text
  | .missing | .directory => ""
  | .notDirectory path => "[Errno 20] Not a directory: " ++ Text.quoted path
  | .nullCharacter => "embedded null byte"
  | .unnamed => "expected str, bytes or os.PathLike object, not list"

/-- Why the program does not start. -/
inductive LaunchError where
  | ended (e : EarlyEnd)
  | file (e : FileError)
  | read (e : ReadError)
  deriving DecidableEq, Repr

/-- What the program starts with. -/
structure Launch where
  rom : Option Text
  config : SystemConfig

namespace Launch

/-- The configuration of a source; the text of a file is given by its name. -/
def loadConfig (textOf : Text → Except FileError Text) (source : ConfigSource) :
    Except LaunchError SystemConfig :=
  match source with
  | .standard => .ok {}
  | .unnamed => .error (.file .unnamed)
  | .file path => do
    let text ← (textOf path).mapError .file
    (Config.ofFileText text).mapError .read

/-- The program as some words ask for it. -/
def ofWords (textOf : Text → Except FileError Text) (words : List Text) :
    Except LaunchError Launch := do
  let arguments ← (Arguments.ofWords words).mapError .ended
  let config ← loadConfig textOf arguments.config
  return { rom := arguments.rom, config }

/-- The least urgent events that are logged. -/
def logLevel (l : Launch) : LogLevel := l.config.machine.logLevel

/-- The form of a line of the log: time, level, place and message. -/
def logFormat : String := "%(asctime)s %(levelname)s %(name)s: %(message)s"

end Launch
end Chip8
