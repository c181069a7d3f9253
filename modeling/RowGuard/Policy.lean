import RowGuard.Message
import RowGuard.Outcome
import RowGuard.Settings
import RowGuard.Sql.Filter

/-!
# Row-filter policies

The policy of a table may ask that every query on it be filtered, and that the filter refer to
certain columns. `check` holds the outcome of a lookup against the policy. How the columns of a
clause are found is an argument, so that the policy can be studied apart from SQL.
-/

namespace RowGuard

/-- How a query fails the policy of its table. -/
inductive Violation where
  /-- The query's filter cannot be attributed to the table. -/
  | invalidQuery (message : String)
  /-- The query has no filter and needs one. -/
  | missingFilter
  /-- The columns of the filter cannot be read. -/
  | unreadable (clause : String) (error : Sql.ClauseError)
  /-- Required columns, in the order of the policy, to which the filter does not refer. -/
  | missingColumns (columns : List String)
  deriving DecidableEq, Repr

namespace Violation

/-- The name of the rule that is violated. -/
def rule : Violation → String
  | invalidQuery _ => "invalid_query"
  | missingFilter => "missing_filter"
  | unreadable _ _ => "parse_error"
  | missingColumns _ => "missing_columns"

/-- What the user is told about a query on `table`. -/
def message (table : String) : Violation → String
  | invalidQuery text => text
  | missingFilter => Message.missingFilter table
  | unreadable clause error => Message.unreadableClause clause error.message
  | missingColumns columns => Message.missingColumns table columns

end Violation

/-- Why a lookup's outcome is not let through. -/
inductive Refusal where
  | violation (table : String) (v : Violation)
  /-- The policy, or the clause held against it, is not of the form that the check needs. -/
  | fault (f : Fault)
  deriving DecidableEq, Repr

namespace Policy

/-- The reasons for which a query on the table counts as unfiltered. -/
def unfiltered (reason : Option String) : Bool :=
  reason = some Outcome.noWhere || reason = some Outcome.noTopLevelWhere

/-- The required columns of a policy as given, one by one. A text gives its characters, a mapping
its keys. -/
def requiredItems : Value → Except Fault (List Value)
  | .list items | .set items => .ok items
  | .map entries => .ok (entries.map Prod.fst)
  | .str s => .ok (s.toList.map fun c => .str (String.singleton c))
  | .bytes content => .ok (content.map fun b => .int b.toNat)
  | _ => .error .wrongKind

/-- The columns among `items` that are not present. Only texts name columns. -/
def missing (present : List String) : List Value → Except Fault (List String)
  | [] => .ok []
  | .str s :: rest => do
    let others ← missing present rest
    return if present.contains (Text.lowered s) then others else s :: others
  | .bytes _ :: rest => do
    let _ ← missing present rest
    .error .wrongKind
  | _ :: _ => .error .noSuchField

/-- Holds a clause against the required columns of a policy. -/
def checkColumns (columns : String → Except Sql.ClauseError (List String)) (clause table : String)
    (required : Value) : Except Refusal Unit :=
  if !required.truthy then .ok ()
  else match columns clause with
    | .error (.unjudged f) => .error (.fault f)
    | .error e => .error (.violation table (.unreadable clause e))
    | .ok present =>
      match requiredItems required >>= missing present with
      | .error f => .error (.fault f)
      | .ok [] => .ok ()
      | .ok absent => .error (.violation table (.missingColumns absent))

/-- Holds the outcome of a lookup against a policy. -/
def checkAgainst (columns : String → Except Sql.ClauseError (List String)) (policy : Value)
    (outcome : Outcome) (table : String) : Except Refusal Unit :=
  match outcome with
  | .invalid message => .error (.violation table (.invalidQuery message))
  | .noMatch reason => do
    let required ← (policy.field "require_filter" (.bool false)).mapError .fault
    if required.truthy && unfiltered reason then .error (.violation table .missingFilter)
  | .clause text => do
    let required ← (policy.field "required_columns" (.list [])).mapError .fault
    checkColumns columns text table required
  | .unknown => .ok ()

/-- Holds the outcome of a lookup against the policy that the settings have for the table. Without
enforcement or a policy everything passes. -/
def check (columns : String → Except Sql.ClauseError (List String)) (settings : Settings)
    (outcome : Outcome) (table : Option String) : Except Refusal Unit := do
  if !(← settings.enforced.mapError .fault) then return
  match ← (settings.policy? table).mapError .fault with
  | none => return
  | some policy => checkAgainst columns policy outcome (table.getD "")

end Policy

end RowGuard
