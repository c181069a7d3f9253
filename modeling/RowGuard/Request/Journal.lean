import RowGuard.Log.Record
import RowGuard.Number.Shortest

/-!
# The journal of requests

What happens to a request is an event. The journal tallies events and words a record for each;
queries and clauses are shown up to a limit. The tally comes first: it stays when the record cannot
be worded.
-/

namespace RowGuard.Request

/-- How many requests there were, and how they ended. -/
structure Counters where
  queries : Nat := 0
  clauses : Nat := 0
  noMatches : Nat := 0
  invalids : Nat := 0
  violations : Nat := 0
  deriving DecidableEq, Repr

/-- What happens to a request. What is missing has no text. -/
inductive Event where
  | received (id : String) (query table : Option String)
  | clauseFound (id : String) (table clause : Option String)
  | noMatch (id : String) (table reason : Option String)
  | invalid (id : String) (table message query : Option String)
  /-- A policy is violated; details are added to the record and take the place of its fields. -/
  | violated (id : String) (table rule query : Option String) (details : List (String × Value))
  /-- The tally is asked for. -/
  | summary
  deriving Repr

/-- The tally after an event. -/
def Counters.after (c : Counters) : Event → Counters
  | .received .. => { c with queries := c.queries + 1 }
  | .clauseFound .. => { c with clauses := c.clauses + 1 }
  | .noMatch .. => { c with noMatches := c.noMatches + 1 }
  | .invalid .. => { c with invalids := c.invalids + 1 }
  | .violated .. => { c with violations := c.violations + 1 }
  | .summary => c

/-- A text that may be missing, as a field of a record. -/
def textField : Option String → Value
  | some s => .str s
  | none => .null

/-- A text that may be missing, up to `limit` characters; a negative limit leaves that many off at
the end. -/
def shown (limit : Int) : Option String → Except Fault Value
  | some s => .ok (.str (String.ofList (Text.cut limit s.toList)))
  | none => .error .wrongKind

/-- The label of a status: a word and what it is about, in capitals. -/
def status (word : String) : Option String → Except Fault Value
  | some about => .ok (.str (word ++ "_" ++ Text.uppered about))
  | none => .error .noSuchField

/-- The logger of the journal. -/
def loggerName : String := "filterscope.query"

/-- The fields that every record of a request has. -/
def subject (id : String) (table : Option String) (status : Value) : List (String × Value) :=
  [("query_id", .str id), ("table_name", textField table), ("status", status)]

/-- The record of an event, given the tally after it. A summary of nothing is left out. -/
def Event.record? (limit : Int) (c : Counters) : Event → Except Fault (Option Log.Record)
  | received id query table => do
    let query ← shown limit (some (query.getD ""))
    return some ⟨loggerName, .info, "Query received",
      subject id table (.str "RECEIVED") ++ [("query", query)]⟩
  | clauseFound id table clause => do
    let clause ← shown limit clause
    return some ⟨loggerName, .info, "Where clause extracted",
      subject id table (.str "CLAUSE_FOUND") ++ [("clause", clause)]⟩
  | noMatch id table reason => do
    let label ← status "NO_MATCH" reason
    return some ⟨loggerName, .debug, "No clause for table",
      subject id table label ++ [("reason", textField reason)]⟩
  | invalid id table message query => do
    let query ← shown limit query
    return some ⟨loggerName, .warning, "Invalid query",
      subject id table (.str "INVALID") ++ [("error", textField message), ("query", query)]⟩
  | violated id table rule query details => do
    let label ← status "REJECTED" rule
    let query ← shown limit query
    return some ⟨loggerName, .warning, "Row filter policy violated", Log.Record.override
      (subject id table label ++ [("rule", textField rule), ("query", query)]) details⟩
  | summary =>
    if c.queries = 0 then .ok none
    else .ok (some ⟨loggerName, .info, "Query metrics",
      [("metric_type", .str "aggregate_summary"), ("total_queries", .int c.queries),
       ("clause_count", .int c.clauses), ("no_match_count", .int c.noMatches),
       ("invalid_count", .int c.invalids), ("violation_count", .int c.violations),
       ("clause_rate", .float (Double.rate c.clauses c.queries)),
       ("invalid_rate", .float (Double.rate c.invalids c.queries))]⟩)

/-- The running tally of requests. -/
structure Journal where
  /-- How many characters of a query or clause are shown. -/
  limit : Int := 500
  counters : Counters := {}
  deriving DecidableEq, Repr

/-- The journal after an event. -/
def Journal.after (j : Journal) (e : Event) : Journal := { j with counters := j.counters.after e }

/-- What a log of the given threshold gets to see of an event. -/
def Journal.records (threshold : Nat) (j : Journal) (e : Event) : Except Fault (List Log.Record) :=
  do
    match ← e.record? j.limit (j.counters.after e) with
    | some r => r.emit threshold
    | none => return []

end RowGuard.Request
