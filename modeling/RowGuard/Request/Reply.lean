import RowGuard.Lookup
import RowGuard.Policy
import RowGuard.Request.Journal

/-!
# Answering requests

A request asks for the filter of a table in a query. It is looked up, entered in the journal, and
held against the policy of the table. The journal and the records written so far outlive a fault.
-/

namespace RowGuard

/-- The logger to which a lookup reports, and what it reports. -/
def Diagnostic.record : Diagnostic → Log.Record
  | unwrapped length => ⟨"filterscope.normalize", .debug,
      s!"QueryNormalizer.normalize: Unwrapped parentheses, length={length}", []⟩
  | noTopLevelWhere => ⟨"filterscope.filterscope.core.query_parser", .debug,
      "parse_query: No top-level where found", []⟩
  | notAttributable table => ⟨"filterscope.filterscope.core.query_parser", .debug,
      s!"parse_query: Where clause not attributable to {table}", []⟩
  | clauseFound table length => ⟨"filterscope.filterscope.core.query_parser", .debug,
      s!"parse_query: Clause found for {table}, length={length}", []⟩

namespace Request

/-- The answer to a request. -/
structure Reply where
  outcome : Outcome
  /-- The policy of the table that the query violates, if it does. -/
  violation : Option (String × Violation) := none
  deriving DecidableEq, Repr

namespace Reply

/-- Whether the query is let through. -/
def success (r : Reply) : Bool :=
  match r.violation, r.outcome with
  | some _, _ => false
  | none, .invalid _ => false
  | none, _ => true

/-- The name of the kind of answer. -/
def label (r : Reply) : String := if r.violation.isSome then "violation" else r.outcome.label

/-- The filter, where the lookup found one. -/
def clause? (r : Reply) : Option String :=
  match r.outcome with
  | .clause text => some text
  | _ => none

/-- What the user is told when the query is not let through. -/
def message? (r : Reply) : Option String :=
  match r.violation, r.outcome with
  | some (table, v), _ => some (v.message table)
  | none, .invalid message => some message
  | none, _ => none

end Reply

/-- What answering requests changes: the journal, and the log it writes. -/
structure State where
  journal : Journal := {}
  /-- The records written, in order. -/
  log : List Log.Record := []
  deriving Repr

/-- A step that may fail. What it has changed before it fails stays. -/
abbrev Step := ExceptT Fault (StateM State)

/-- A result that may be a fault, as a step that changes nothing. -/
def Step.ofExcept {α : Type} (x : Except Fault α) : Step α := ExceptT.mk (pure x)

/-- Adds records to the log. -/
def write (records : List Log.Record) : Step Unit :=
  modify fun s => { s with log := s.log ++ records }

/-- Enters an event in the journal and writes its record. -/
def enter (threshold : Nat) (e : Event) : Step Unit := do
  let journal := (← get).journal
  modify fun s => { s with journal := journal.after e }
  write (← Step.ofExcept (journal.records threshold e))

/-- Writes what a lookup reports. -/
def report (threshold : Nat) (reports : List Diagnostic) : Step Unit :=
  write ((reports.map Diagnostic.record).filter (Log.Record.passes threshold))

/-- The event for the outcome of a lookup. -/
def Event.ofOutcome? (id : String) (query table : Option String) : Outcome → Option Event
  | .clause text => some (.clauseFound id table (some text))
  | .noMatch reason => some (.noMatch id table reason)
  | .invalid message => some (.invalid id table (some message) query)
  | .unknown => none

/-- How requests are worked on: the lookup, and the columns of a clause. -/
structure Engine where
  trace : Option String → Option String → Outcome × List Diagnostic := RowGuard.trace
  columns : String → Except Sql.ClauseError (List String) := Sql.filterColumns

/-- Prepares the journal for requests under the given settings. -/
def prepare (settings : Settings) : Step Unit := do
  let limit ← Step.ofExcept settings.logQueryLength
  modify fun s => { s with journal := { s.journal with limit := limit } }

/-- Answers a request. -/
def answer (engine : Engine) (settings : Settings) (threshold : Nat) (id : String)
    (query table : Option String) : Step Reply := do
  enter threshold (.received id query table)
  let (outcome, reports) := engine.trace query table
  report threshold reports
  if let some e := Event.ofOutcome? id query table outcome then enter threshold e
  match Policy.check engine.columns settings outcome table with
  | .ok () => return ⟨outcome, none⟩
  | .error (.fault f) => throw f
  | .error (.violation name v) =>
    enter threshold (.violated id table (some v.rule) query [])
    return ⟨outcome, some (name, v)⟩

end Request

end RowGuard
