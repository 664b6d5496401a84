/-
# Configurations

What a user can choose: the clocks, the keys a wait looks at, the seed of the
random bytes and the log level of the machine; size, colours and frame rate of
the display; and the key bindings.  Each choice has a default.
-/

import Chip8.Scheduler
import Chip8.KeyMap

namespace Chip8

/-- The least urgent events that are logged. -/
inductive LogLevel where
  | debug | info | warning | error | critical
  deriving DecidableEq, Repr

namespace LogLevel

/-- The name of a level. -/
def name : LogLevel → String
  | .debug => "DEBUG"
  | .info => "INFO"
  | .warning => "WARNING"
  | .error => "ERROR"
  | .critical => "CRITICAL"

/-- Every level. -/
def all : List LogLevel := [.debug, .info, .warning, .error, .critical]

/-- The level of a name. -/
def ofName? (s : String) : Option LogLevel := all.find? (·.name = s)

/-- A level is found by its name. -/
@[simp] theorem ofName?_name (l : LogLevel) : ofName? l.name = some l := by cases l <;> decide

end LogLevel

/-- How a machine is built and driven. -/
structure MachineConfig where
  cpuHz : Float := defaultCpuHz
  timerHz : Float := defaultTimerHz
  keyScan : KeyScan := .reference
  /-- The seed of the random bytes; without one the machine is free to choose. -/
  seed : Option Int := none
  logLevel : LogLevel := .warning

/-- How the screen is shown. -/
structure DisplayConfig where
  /-- Pixels of the host to a pixel of the screen. -/
  scale : Int := 10
  foreground : Text := "#FFFFFF"
  background : Text := "#000000"
  refreshHz : Float := 60

/-- A whole configuration. -/
structure SystemConfig where
  machine : MachineConfig := {}
  display : DisplayConfig := {}
  keymap : KeyMap := KeyMap.standard

namespace SystemConfig

/-- The machine that a configuration asks for. -/
def build (c : SystemConfig) : Machine := Machine.new c.machine.keyScan c.machine.seed

/-- What is logged when it is built. -/
def buildEvent (c : SystemConfig) : Event := .machineBuilt c.machine.keyScan c.machine.seed

/-- The scheduler that a configuration asks for. -/
def scheduler (c : SystemConfig) : Except SchedulerError (Scheduler Float) :=
  Scheduler.ofNumbers (.float c.machine.cpuHz) (.float c.machine.timerHz) (.float defaultMaxCatchUp)

end SystemConfig
end Chip8
