import QuickFill.Text.Blank

/-!
# Log levels

Lines are logged at a level; a verbosity lets the levels through that are at
most as detailed as itself.
-/

namespace QuickFill

inductive LogLevel where
  | error
  | warn
  | info
  | debug
  deriving DecidableEq, Repr

/-- How much of the log is shown. -/
inductive Verbosity where
  | off
  | error
  | warn
  | info
  | debug
  | trace
  deriving DecidableEq, Repr

def LogLevel.name : LogLevel → String
  | .error => "ERROR"
  | .warn => "WARN"
  | .info => "INFO"
  | .debug => "DEBUG"

def LogLevel.detail : LogLevel → Nat
  | .error => 1
  | .warn => 2
  | .info => 3
  | .debug => 4

namespace Verbosity

def name : Verbosity → String
  | .off => "OFF"
  | .error => "ERROR"
  | .warn => "WARN"
  | .info => "INFO"
  | .debug => "DEBUG"
  | .trace => "TRACE"

/-- The detail up to which a verbosity lets lines through. -/
def detail : Verbosity → Nat
  | .off => 0
  | .error => 1
  | .warn => 2
  | .info => 3
  | .debug => 4
  | .trace => 5

def admits (verbosity : Verbosity) (level : LogLevel) : Bool :=
  level.detail ≤ verbosity.detail

def all : List Verbosity := [.off, .error, .warn, .info, .debug, .trace]

/-- The verbosity with a name, in capital or small ASCII letters. -/
def ofName? (name : List Char) : Option Verbosity :=
  all.find? fun verbosity => verbosity.name.toList == name.map Char.toUpper

def read? (text : String) : Option Verbosity :=
  ofName? (Text.trim text.toList)

end Verbosity

end QuickFill
