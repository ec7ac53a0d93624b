import Switchboard.Config
import Switchboard.Misuse

/-!
# Diagnostics

Where log records are written.  The diagnostics have a level, below which nothing is written, and
writers.  Applying a verbosity sets the level and makes sure that there is a console writer; applying
it again adds none.
-/

namespace Switchboard

/-- What writes log records. -/
inductive LogWriter where
  | console
  | other (name : String)
  deriving DecidableEq

/-- The name of a writer. -/
def LogWriter.name : LogWriter → String
  | .console => "RichHandler"
  | .other name => name

/-- What a level is taken from. -/
inductive LevelSource where
  | config (config : Config)
  | value (v : Value)

/-- The level of a verbosity, or of a config that has one. -/
def LevelSource.level : LevelSource → Except Misuse Level
  | .config c => .ok c.verbosity.level
  | .value (.verbosity v) => .ok v.level
  | .value _ => .error .verbosity

/-- The diagnostics of a switchboard. -/
structure Diagnostics where
  level : Nat := 0
  writers : List LogWriter := []

namespace Diagnostics

/-- Applies a verbosity. -/
def configure (d : Diagnostics) (source : LevelSource) : Except Misuse Diagnostics :=
  source.level.map fun level => {
    level := level.number
    writers := if d.writers.contains .console then d.writers else d.writers ++ [.console] }

/-- Whether the console writes a record of a level. -/
def writes (d : Diagnostics) (level : Value) : Except Misuse Bool :=
  match level.number? with
  | some (.int n) => .ok (decide ((d.level : Int) ≤ n) && d.writers.contains .console)
  | _ => .error .logLevel

end Diagnostics

end Switchboard
