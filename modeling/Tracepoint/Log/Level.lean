/-!
Severities of log events and the filters that select events by severity.
-/

namespace Tracepoint.Log

inductive Level
  | error
  | warn
  | info
  | debug
  | trace
  deriving DecidableEq, Repr

namespace Level

def name : Level → String
  | .error => "ERROR"
  | .warn => "WARN"
  | .info => "INFO"
  | .debug => "DEBUG"
  | .trace => "TRACE"

def rank : Level → Nat
  | .error => 1
  | .warn => 2
  | .info => 3
  | .debug => 4
  | .trace => 5

end Level

/-- The least grave level that is shown; none shows nothing. -/
abbrev Filter := Option Level

namespace Filter

def shows (filter : Filter) (level : Level) : Bool :=
  match filter with
  | none => false
  | some least => level.rank ≤ least.rank

/-- The filter that a level's name or number selects, in any case of letters. -/
def ofName? (name : String) : Option Filter :=
  match name.toLower with
  | "off" | "0" => some none
  | "error" | "1" => some (some .error)
  | "warn" | "2" => some (some .warn)
  | "info" | "3" => some (some .info)
  | "debug" | "4" => some (some .debug)
  | "trace" | "5" => some (some .trace)
  | _ => none

end Filter

end Tracepoint.Log
