/-
# Configurations from documents

A document is a mapping with the sections `machine`, `display` and `keymap`.
What is left out has its default, a document that is null is an empty one, and
names that are not known are ignored.

Fields are read in a fixed order and the first one that is wrong is reported.  A
field is shown as the document has it, or, where it is compared in lower or upper
case, in that case.
-/

import Chip8.Config
import Chip8.Number.Numeral
import Chip8.Value.Text

namespace Chip8

/-- Why a document is no configuration. -/
inductive ConfigError where
  | rootShape
  | sectionShape (name : String)
  | keymapShape
  | frequency (name : String) (text : Text)
  | frequencySign (name : String) (text : Text)
  | keyScan (name : Text)
  | logLevel (name : Text)
  /-- A value that is neither an integer nor a text. -/
  | notInteger (text : Text)
  | numeral (e : NumeralError)
  | scale (n : Int)
  | keyCode (hostKey code : Text)
  /-- An integer is too large for floating point. -/
  | tooLarge
  /-- A value that the refusal or the configuration is to show is not written out. -/
  | unwritten (e : WritingError)
  deriving DecidableEq, Repr

/-- The wording of the refusal. -/
def ConfigError.message : ConfigError → Text
  | .rootShape => "Configuration root must be a mapping."
  | .sectionShape name => s!"'{name}' section must be a mapping."
  | .keymapShape => "keymap must be a mapping of host key to Chip-8 key code."
  | .frequency name text => s!"Invalid {name}: " ++ text
  | .frequencySign name text => s!"{name} must be positive: " ++ text
  | .keyScan name => "Invalid key_scan mode: " ++ name
  | .logLevel name => "Invalid log_level: " ++ name
  | .notInteger text => "Invalid integer format: " ++ text
  | .numeral e => e.message
  | .scale n => s!"Invalid display scale: {n}"
  | .keyCode hostKey code => "Invalid Chip-8 key code for '" ++ hostKey ++ "': " ++ code
  | .tooLarge => Number.tooLarge
  | .unwritten e => e.message

namespace Config

/-- Refuses with an error that shows values. -/
def refuse {α : Type} (error : Except ConfigError ConfigError) : Except ConfigError α :=
  match error with
  | .ok e => .error e
  | .error e => .error e

/-- The text that bytes stand for, if they are ASCII. -/
def asciiText? (bs : List UInt8) : Option Text :=
  if bs.all (· < 128) then some (.ofChars (bs.map fun b => Char.ofNat b.toNat)) else none

/-- A field that is read by `read` if it is there. -/
def field {α : Type} (entries : List (Value × Value)) (name : String) (default : α)
    (read : Value → Except ConfigError α) : Except ConfigError α :=
  match lookup? entries name with
  | none => .ok default
  | some v => read v

variable (d : Document)

/-- The text of a value, unless it is not written out. -/
def describe (v : Value) : Except ConfigError Text := (d.text v).mapError .unwritten

/-- A value as floating point: a number, or a numeral. -/
def floatOf (name : String) (v : Value) : Except ConfigError Float :=
  let read := fun (text? : Option Text) =>
    match text?.bind Numeral.float? with
    | some x => .ok x
    | none => refuse (return .frequency name (← describe d v))
  match v with
  | .str s => read (some s)
  | .bytes bs => read (asciiText? bs)
  | v =>
    match v.number? with
    | none => read none
    | some n =>
      match n.toFloat? with
      | some x => .ok x
      | none => .error .tooLarge

/-- A frequency: any number but one that is known not to be positive. -/
def frequency (name : String) (v : Value) : Except ConfigError Float := do
  let hz ← floatOf d name v
  if hz ≤ 0 then refuse (return .frequencySign name (← describe d v)) else return hz

/-- An integer: a value that is one, or a numeral. -/
def integer (v : Value) : Except ConfigError Int :=
  match v with
  | .int n => .ok n
  | .str s => (Numeral.integer s).mapError .numeral
  | v => refuse (return .notInteger (← describe d v))

/-- The entries of a section, which may be missing or empty in any way. -/
def sectionEntries (entries : List (Value × Value)) (name : String) :
    Except ConfigError (List (Value × Value)) :=
  match lookup? entries name with
  | none => .ok []
  | some v =>
    if d.isTruthy v then
      match d.entries? v with
      | some inside => .ok inside
      | none => .error (.sectionShape name)
    else .ok []

/-- The mode of a name in any case. -/
def keyScan (v : Value) : Except ConfigError KeyScan := do
  let name := (← describe d v).lower
  match name.string?.bind KeyScan.ofName? with
  | some mode => return mode
  | none => .error (.keyScan name)

/-- The level of a name in any case. -/
def logLevel (v : Value) : Except ConfigError LogLevel := do
  let name := (← describe d v).upper
  match name.string?.bind LogLevel.ofName? with
  | some level => return level
  | none => .error (.logLevel name)

/-- A seed: null or an integer. -/
def seed (v : Value) : Except ConfigError (Option Int) :=
  match v with
  | .null => .ok none
  | v => return some (← integer d v)

/-- The section `machine`. -/
def machine (entries : List (Value × Value)) : Except ConfigError MachineConfig := do
  let cpuHz ← field entries "cpu_hz" defaultCpuHz (frequency d "cpu_hz")
  let timerHz ← field entries "timer_hz" defaultTimerHz (frequency d "timer_hz")
  let keyScan ← field entries "key_scan" .reference (keyScan d)
  let seed ← field entries "rng_seed" none (seed d)
  let logLevel ← field entries "log_level" .warning (logLevel d)
  return { cpuHz, timerHz, keyScan, seed, logLevel }

/-- A display scale: a positive integer. -/
def scale (v : Value) : Except ConfigError Int := do
  let n ← integer d v
  if n < 1 then refuse (do let _ ← describe d (.int n); return .scale n) else return n

/-- The section `display`. -/
def display (entries : List (Value × Value)) : Except ConfigError DisplayConfig := do
  let scale ← field entries "scale" 10 (scale d)
  let foreground ← field entries "foreground" (Text.ofString "#FFFFFF") (describe d)
  let background ← field entries "background" (Text.ofString "#000000") (describe d)
  let refreshHz ← field entries "refresh_hz" 60 (frequency d "refresh_hz")
  return { scale, foreground, background, refreshHz }

/-- One entry of the section `keymap`: the name of a host's key and the code bound to it. -/
def binding (hostKey code : Value) : Except ConfigError (Text × Int) := do
  let n ← integer d code
  if 0 ≤ n ∧ n < 16 then return (← describe d hostKey, n)
  else refuse (return .keyCode (← describe d hostKey) (← describe d code))

/-- The section `keymap`: null for the standard bindings, or a mapping. -/
def keymap (v : Value) : Except ConfigError KeyMap :=
  match v with
  | .null => .ok KeyMap.standard
  | v =>
    match d.entries? v with
    | none => .error .keymapShape
    | some entries => do
      let bindings ← entries.mapM fun (hostKey, code) => binding d hostKey code
      return KeyMap.ofBindings bindings

/-- The configuration of a document. -/
def parse : Except ConfigError SystemConfig := do
  let entries ← match d.root with
    | .null => .ok []
    | v => match d.entries? v with
      | some entries => .ok entries
      | none => .error .rootShape
  let machineEntries ← sectionEntries d entries "machine"
  let displayEntries ← sectionEntries d entries "display"
  let machine ← machine d machineEntries
  let display ← display d displayEntries
  let keymap ← keymap d ((lookup? entries "keymap").getD .null)
  return { machine, display, keymap }

end Config
end Chip8
