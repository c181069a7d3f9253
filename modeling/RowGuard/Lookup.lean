import RowGuard.Message
import RowGuard.Outcome
import RowGuard.Query.Fragment
import RowGuard.Query.Target

/-!
# Looking up the filter of a table

The query is normalized, its fragment found, the fragment's targets compared with the table, and
the clause cut out of the fragment.
-/

namespace RowGuard

/-- What a lookup reports on its way. -/
inductive Diagnostic where
  /-- The query lost its outer parentheses; its length is the one that remains. -/
  | unwrapped (length : Nat)
  | noTopLevelWhere
  | notAttributable (table : String)
  | clauseFound (table : String) (length : Nat)
  deriving DecidableEq, Repr

namespace Query

/-- The clause of a fragment, from the keyword to the end. The keyword is sought in small letters
and its place is used on the text as it is. -/
def clause? (fragment : List Char) : Option (List Char) :=
  (Text.indexOf? keyword (Text.lower fragment)).map fragment.drop

/-- A filter stands in the fragment, and the table is not among the fragment's targets. -/
structure Unattributable where
  table : String
  source : Option String
  joined : Option String
  deriving DecidableEq, Repr

/-- What the user is told. -/
def Unattributable.message (e : Unattributable) : String :=
  Message.invalidQuery e.table e.source e.joined

/-- Whether a fragment reads a table. A fragment that does not and still holds a filter is
refused. -/
def check (fragment : List Char) (table : String) : Except Unattributable Bool :=
  if reads fragment table.toList then .ok true
  else if Text.occursIn keyword fragment then
    .error ⟨table, (targets fragment).source.map String.ofList,
      (targets fragment).joined.map String.ofList⟩
  else .ok false

end Query

open Query in
/-- The outcome for a fragment, or for the query when it has no fragment. -/
def lookupIn (query : List Char) (table : String) : Outcome × List Diagnostic :=
  match fragment? query with
  | none =>
    (.noMatch (if reads query table.toList then Outcome.noTopLevelWhere
      else Outcome.tableMismatch), [.noTopLevelWhere])
  | some fragment =>
    match check fragment table with
    | .error e => (.invalid e.message, [.notAttributable table])
    | .ok false => (.noMatch Outcome.tableMismatch, [])
    | .ok true =>
      match clause? fragment with
      | none => (.noMatch Outcome.noWhere, [])
      | some clause => (.clause (String.ofList clause), [.clauseFound table clause.length])

/-- The outcome of a lookup and what it reports. -/
def trace (query table : Option String) : Outcome × List Diagnostic :=
  match query.filter (· ≠ ""), table.filter (· ≠ "") with
  | some query, some table =>
    let (outcome, reports) := lookupIn (Query.normalize query.toList) table
    match Query.unwrap? (Text.lower query.toList) with
    | some inner => (outcome, .unwrapped inner.length :: reports)
    | none => (outcome, reports)
  | _, _ => (.noMatch Outcome.emptyInput, [])

/-- The filter of a table in a query. -/
def lookup (query table : Option String) : Outcome := (trace query table).1

end RowGuard
