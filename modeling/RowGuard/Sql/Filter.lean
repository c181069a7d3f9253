import RowGuard.Sql.Statement
import RowGuard.Text.Search

/-!
# The columns of a filter

A clause is read as the end of a query, and the columns under that query's filter are collected by
name. Subqueries inside the filter count; grouping, order and whatever else follows the filter do
not.
-/

namespace RowGuard.Sql

/-- The query that a clause completes. -/
def clauseHost : String := "SELECT 1 FROM _filterscope_clause"

/-- Why a clause has no columns to show. -/
inductive ClauseError where
  /-- The clause is refused, and the text says why. -/
  | refused (text : String)
  /-- A construct lacks a part without which it cannot even be judged. -/
  | unjudged (f : Fault)
  deriving DecidableEq, Repr

namespace ClauseError

/-- What the user is told. -/
def message : ClauseError → String
  | refused text => text
  | unjudged f => f.message

/-- The clause does not complete a well-formed query. Where it goes wrong is not said. -/
@[match_pattern]
def malformed : ClauseError := refused "malformed SQL"

/-- An argument is given an empty name. -/
def nameless : ClauseError := refused "Cannot convert empty name into var."

/-- The query has no filter anywhere. The first hundred characters of the clause are shown. -/
def noFilter (clause : String) : ClauseError :=
  let start := String.ofList (Text.cut 100 clause.toList)
  refused s!"No WHERE clause in: {start}"

/-- Why a clause is refused together with the query that it completes. -/
def ofRefusal : Refusal → ClauseError
  | .malformed => malformed
  | .nameless => nameless
  | .fault f => unjudged f

end ClauseError

/-- The names of the columns that the filter of a clause refers to, in small letters, each as often
as it occurs. -/
def filterColumns (clause : String) : Except ClauseError (List String) := do
  match ← (firstStatement s!"{clauseHost} {clause}".toList).mapError .ofRefusal with
  | none => throw .malformed
  | some t =>
    match t.filter? with
    | none => throw (.noFilter clause)
    | some f => return f.columns.map Text.lowered

end RowGuard.Sql
