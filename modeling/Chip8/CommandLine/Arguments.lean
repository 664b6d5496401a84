/-
# Arguments of the command line

The program takes a program file and two options, `--config` with the name of a
configuration file and `-h` or `--help`.  A long option may be shortened as long
as it stays clear which one is meant, and its value may be attached with an equals
sign.  After `--` every word is a file; attached as a value, `--` is dropped, and the
option has no value then.

A word that starts with a hyphen is an option, unless it is the hyphen alone, a
negative number or holds a space.  Words that nothing takes are reported together
at the end.
-/

import Chip8.Text.Classes
import Chip8.Text.Quoted

namespace Chip8

/-- Where the configuration comes from. -/
inductive ConfigSource where
  /-- Every choice has its default. -/
  | standard
  | file (path : Text)
  /-- A file is asked for, but its name is the separator and does not count. -/
  | unnamed
  deriving DecidableEq, Repr

/-- What the words of a command line ask for. -/
structure Arguments where
  rom : Option Text := none
  config : ConfigSource := .standard
  deriving DecidableEq, Repr

/-- Why words are no command line. -/
inductive UsageError where
  /-- A shortened option may mean both long ones. -/
  | ambiguous (word : Text)
  /-- The name of the configuration file is missing. -/
  | configMissing
  /-- The help option has a value. -/
  | helpValue (value : Text)
  /-- Words that nothing takes. -/
  | unrecognized (words : List Text)
  deriving DecidableEq, Repr

/-- Why the program ends before it starts. -/
inductive EarlyEnd where
  | help
  | usage (e : UsageError)
  deriving DecidableEq, Repr

/-- The wording of a refusal. -/
def UsageError.message : UsageError → Text
  | .ambiguous word => "ambiguous option: " ++ word ++ " could match --help, --config"
  | .configMissing => "argument --config: expected one argument"
  | .helpValue value => "argument -h/--help: ignored explicit argument " ++ Text.quoted value
  | .unrecognized words => "unrecognized arguments: " ++ Text.joined " " words

namespace CommandLine

/-- The name of the program. -/
def programName : String := "retro-chip8"

/-- How the program is called. -/
def usage : String := "usage: " ++ programName ++ " [-h] [--config CONFIG] [rom]\n"

/-- What the program is and takes. -/
def help : String :=
  usage ++ "\nChip-8 interpreter\n\npositional arguments:\n" ++
    "  rom              Chip-8 ROM file to load at startup\n\noptions:\n" ++
    "  -h, --help       show this help message and exit\n" ++
    "  --config CONFIG  YAML system configuration file\n"

end CommandLine

namespace EarlyEnd

/-- The exit code: zero for help and two for a refusal. -/
def code : EarlyEnd → Nat
  | .help => 0
  | .usage _ => 2

/-- What is written to standard output. -/
def out : EarlyEnd → String
  | .help => CommandLine.help
  | .usage _ => ""

/-- What is written to standard error. -/
def err : EarlyEnd → Text
  | .help => ""
  | .usage e => CommandLine.usage ++ CommandLine.programName ++ ": error: " ++ e.message ++ "\n"

end EarlyEnd

namespace CommandLine

/-- A word of the command line by its meaning. -/
inductive Word where
  /-- A file. -/
  | plain (s : Text)
  /-- The mark after which all words are files. -/
  | separator
  | help
  /-- The help option with a value, which it does not take. -/
  | helpValue (value : Text)
  /-- The option for the configuration, with its value if that is attached. -/
  | config (value : Option Text)
  /-- An option that there is not. -/
  | unknown (s : Text)
  deriving DecidableEq, Repr

/-- Whether characters are a negative number: digits, with a point in front of the last ones if
there is one.  A line feed at the end is not looked at. -/
def isNegativeNumber (cs : List Char) : Bool :=
  let isDigit := fun c => (Text.digit? c).isSome
  match cs with
  | '-' :: ds =>
    let ds := if ds.getLast? = some '\n' then ds.dropLast else ds
    match ds.dropWhile isDigit with
    | [] => !ds.isEmpty
    | '.' :: rest => !rest.isEmpty && rest.all isDigit
    | _ => false
  | _ => false

/-- What is attached to the letter of the help option: the same letter once more, or several
times; anything else is refused. -/
def helpLetters : List Glyph → Word
  | [.char 'h'] => .help
  | .char 'h' :: rest => helpLetters rest
  | gs => .helpValue ⟨gs⟩

/-- The meaning of a word that starts with two hyphens. -/
def longOption (word : Text) : Except UsageError Word :=
  let name := word.glyphs.takeWhile (· ≠ .char '=')
  let value := match word.glyphs.drop name.length with
    | [] => none
    | _ :: value => some (⟨value⟩ : Text)
  let help := name.isPrefixOf (Text.ofString "--help").glyphs
  let config := name.isPrefixOf (Text.ofString "--config").glyphs
  if help && config then .error (.ambiguous word)
  else if help then .ok ((value.map Word.helpValue).getD .help)
  else if config then .ok (.config value)
  else if word.glyphs.contains (.char ' ') then .ok (.plain word)
  else .ok (.unknown word)

/-- The meaning of a word in front of the separator.  After the letter of the help option one
equals sign is passed over. -/
def Word.ofText (word : Text) : Except UsageError Word :=
  match word.glyphs with
  | [.char '-', .char '-'] => .ok .separator
  | .char '-' :: .char '-' :: _ => longOption word
  | [.char '-', .char 'h'] => .ok .help
  | .char '-' :: .char 'h' :: .char '=' :: rest => .ok (helpLetters rest)
  | .char '-' :: .char 'h' :: rest => .ok (helpLetters rest)
  | .char '-' :: _ :: _ =>
    if isNegativeNumber word.chars || word.glyphs.contains (.char ' ') then .ok (.plain word)
    else .ok (.unknown word)
  | _ => .ok (.plain word)

/-- The meanings of all words. -/
def Word.ofTexts : List Text → Except UsageError (List Word)
  | [] => .ok []
  | word :: rest => do
    match ← Word.ofText word with
    | .separator => return .separator :: rest.map .plain
    | w => return w :: (← Word.ofTexts rest)

/-- The arguments so far, whether the place of the file is taken, and the words that nothing
takes. -/
structure Progress where
  arguments : Arguments := {}
  romTaken : Bool := false
  extras : List Text := []

namespace Progress

/-- Takes the file; there may be none after the separator. -/
def takeRom (p : Progress) (rom : Option Text) : Progress :=
  { p with arguments := { p.arguments with rom }, romTaken := true }

/-- Takes the name of the configuration file, in place of an earlier one. -/
def takeConfig (p : Progress) (path : Text) : Progress :=
  let source := if path = "--" then .unnamed else .file path
  { p with arguments := { p.arguments with config := source } }

/-- Notes a word that nothing takes. -/
def addExtra (p : Progress) (word : Text) : Progress := { p with extras := p.extras ++ [word] }

end Progress

/-- Goes through words from left to right. -/
def readWords : List Word → Progress → Except EarlyEnd Progress
  | [], p => .ok p
  | .help :: _, _ => .error .help
  | .helpValue value :: _, _ => .error (.usage (.helpValue value))
  | .unknown s :: rest, p => readWords rest (p.addExtra s)
  | .config (some path) :: rest, p => readWords rest (p.takeConfig path)
  | .config none :: .plain path :: rest, p => readWords rest (p.takeConfig path)
  | .config none :: _, _ => .error (.usage .configMissing)
  | .plain s :: .separator :: rest, p =>
    if p.romTaken then readWords (.separator :: rest) (p.addExtra s)
    else readWords rest (p.takeRom (some s))
  | .plain s :: rest, p => readWords rest (if p.romTaken then p.addExtra s else p.takeRom (some s))
  | .separator :: .plain s :: rest, p =>
    if p.romTaken then readWords (.plain s :: rest) (p.addExtra "--")
    else readWords rest (p.takeRom (some s))
  | .separator :: rest, p => readWords rest (if p.romTaken then p.addExtra "--" else p.takeRom none)

end CommandLine

/-- The arguments of a command line. -/
def Arguments.ofWords (words : List Text) : Except EarlyEnd Arguments := do
  let ws ← (CommandLine.Word.ofTexts words).mapError .usage
  let p ← CommandLine.readWords ws {}
  if p.extras.isEmpty then return p.arguments else throw (.usage (.unrecognized p.extras))

end Chip8
