import ElmPrerender.Decimal.Reading

/-!
Levels of log events, and the levels from which on events are written.
-/

namespace ElmPrerender.Log

inductive Level where
  | trace
  | debug
  | info
  | warn
  | error
  deriving DecidableEq, Repr

namespace Level

def name : Level → String
  | .trace => "TRACE"
  | .debug => "DEBUG"
  | .info => "INFO"
  | .warn => "WARN"
  | .error => "ERROR"

def severity : Level → Nat
  | .trace => 1
  | .debug => 2
  | .info => 3
  | .warn => 4
  | .error => 5

end Level

/-- The least level that is written, or none at all. -/
inductive Threshold where
  | off
  | atLeast (level : Level)
  deriving DecidableEq, Repr

namespace Threshold

def name : Threshold → String
  | .off => "off"
  | .atLeast level => String.ofList (level.name.toList.map Char.toLower)

def admits : Threshold → Level → Bool
  | .off, _ => false
  | .atLeast least, level => least.severity ≤ level.severity

def ofNumber? : Nat → Option Threshold
  | 0 => some .off
  | 1 => some (.atLeast .error)
  | 2 => some (.atLeast .warn)
  | 3 => some (.atLeast .info)
  | 4 => some (.atLeast .debug)
  | 5 => some (.atLeast .trace)
  | _ => none

/-- All thresholds with a name. -/
def all : List Threshold :=
  [.off, .atLeast .error, .atLeast .warn, .atLeast .info, .atLeast .debug, .atLeast .trace]

/-- A name in letters of any size; the empty name stands for errors. -/
def ofName? (s : List Char) : Option Threshold :=
  if s.isEmpty then some (.atLeast .error)
  else all.find? fun t => t.name.toList == s.map Char.toLower

/-- What is said of a text that is no threshold. -/
def refusal : String :=
  "error parsing level filter: expected one of \"off\", \"error\", \"warn\", \"info\", " ++
    "\"debug\", \"trace\", or a number 0-5"

/-- A number from 0 to 5 or a name. -/
def parse? (s : String) : Option Threshold :=
  ((Decimal.unsigned64? s.toList).bind ofNumber?).or (ofName? s.toList)

end Threshold

end ElmPrerender.Log
