/-!
# Verbosity

How much of what happens is logged: four degrees, each with an index, a name and the lowest level
of the records it lets through.
-/

namespace Switchboard

/-- How grave a log record is. -/
inductive Level where
  | debug
  | info
  | warning
  | error
  deriving DecidableEq

/-- The number of a level; graver levels have greater numbers. -/
def Level.number : Level → Nat
  | .debug => 10
  | .info => 20
  | .warning => 30
  | .error => 40

/-- The name of a level. -/
def Level.name : Level → String
  | .debug => "DEBUG"
  | .info => "INFO"
  | .warning => "WARNING"
  | .error => "ERROR"

/-- A degree of logging. -/
inductive Verbosity where
  | error
  | warning
  | info
  | verbose
  deriving DecidableEq

namespace Verbosity

/-- All degrees, by index. -/
def all : List Verbosity := [.error, .warning, .info, .verbose]

/-- The index of a degree. -/
def index : Verbosity → Nat
  | .error => 0
  | .warning => 1
  | .info => 2
  | .verbose => 3

/-- The name of a degree. -/
def name : Verbosity → String
  | .error => "ERROR"
  | .warning => "WARNING"
  | .info => "INFO"
  | .verbose => "VERBOSE"

/-- The lowest level of the records that are let through. -/
def level : Verbosity → Level
  | .error => .error
  | .warning => .warning
  | .info => .info
  | .verbose => .debug

/-- The degree of an index. -/
def ofIndex? (n : Int) : Option Verbosity :=
  all.find? fun v => (v.index : Int) == n

/-- The degree of a name. -/
def ofName? (s : String) : Option Verbosity :=
  all.find? (·.name == s)

/-- A degree as it is shown with its type. -/
def describe (v : Verbosity) : String :=
  "<Verbosity." ++ v.name ++ ": " ++ toString v.index ++ ">"

end Verbosity

end Switchboard
