import RowGuard.Value

/-!
# Log records

A record has a logger, a severity, a message and named fields. Whether it is written is decided by
the threshold of the log, a number to which severities are compared.
-/

namespace RowGuard.Log

/-- How much a record matters. -/
inductive Severity where
  | debug
  | info
  | warning
  | error
  | critical
  deriving DecidableEq, Repr

namespace Severity

/-- The number that thresholds are compared with. -/
def rank : Severity → Nat
  | debug => 10
  | info => 20
  | warning => 30
  | error => 40
  | critical => 50

/-- The name of a severity. -/
def label : Severity → String
  | debug => "DEBUG"
  | info => "INFO"
  | warning => "WARNING"
  | error => "ERROR"
  | critical => "CRITICAL"

end Severity

/-- One entry of a log. -/
structure Record where
  logger : String
  severity : Severity
  message : String
  fields : List (String × Value) := []
  deriving Repr

namespace Record

/-- The names that every record has for its own purposes. -/
def reserved : List String :=
  ["name", "msg", "args", "levelname", "levelno", "pathname", "filename", "module", "exc_info",
   "exc_text", "stack_info", "lineno", "funcName", "created", "msecs", "relativeCreated",
   "thread", "threadName", "processName", "process", "message", "asctime"]

/-- Whether a log of the given threshold writes the record. -/
def passes (threshold : Nat) (r : Record) : Bool := threshold ≤ r.severity.rank

/-- What a log of the given threshold writes. A record that is written must leave the reserved
names alone. -/
def emit (threshold : Nat) (r : Record) : Except Fault (List Record) :=
  if !r.passes threshold then .ok []
  else if r.fields.any fun f => reserved.contains f.1 then .error .badName
  else .ok [r]

/-- Sets fields of a record. A name that is there already keeps its place. -/
def override (fields : List (String × Value)) : List (String × Value) → List (String × Value)
  | [] => fields
  | (name, value) :: rest =>
    override (if fields.any (·.1 = name)
      then fields.map fun f => if f.1 = name then (name, value) else f
      else fields ++ [(name, value)]) rest

end Record

end RowGuard.Log
