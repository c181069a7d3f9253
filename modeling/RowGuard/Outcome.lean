import RowGuard.Text.Quoted

/-!
# What a lookup finds
-/

namespace RowGuard

/-- The outcome of looking for the filter of a table in a query. -/
inductive Outcome where
  /-- The filter, from its keyword to the end of the query. -/
  | clause (text : String)
  /-- No filter to report, which is no error; the reason is for diagnosis. -/
  | noMatch (reason : Option String)
  /-- The query has a filter that cannot be attributed to the table. -/
  | invalid (message : String)
  /-- No lookup has been made. -/
  | unknown
  deriving DecidableEq, Repr, Inhabited

namespace Outcome

/-- The query or the table name is missing or empty. -/
def emptyInput : String := "empty_input"

/-- The query reads the table and has no `where` outside groups. -/
def noTopLevelWhere : String := "no_top_level_where"

/-- The query does not read the table. -/
def tableMismatch : String := "table_mismatch"

/-- The query reads the table and has no `where` at all. -/
def noWhere : String := "no_where"

/-- The name of the kind of outcome. -/
def label : Outcome → String
  | clause _ => "clause"
  | noMatch _ => "no_match"
  | invalid _ => "invalid"
  | unknown => "unknown"

/-- What outcomes are compared and hashed by: the name of their kind and what they carry. -/
def identity : Outcome → String × List (Option String)
  | clause text => ("Clause", [some text])
  | noMatch reason => ("NoMatch", [reason])
  | invalid message => ("Invalid", [some message])
  | unknown => ("ClauseResult", [])

/-- The written form of an outcome, one for each; a lookup that was not made has none. -/
def written? : Outcome → Option String
  | clause text => some s!"Clause(text={Text.quote text})"
  | noMatch (some reason) => some s!"NoMatch(reason={Text.quote reason})"
  | noMatch none => some "NoMatch(reason=None)"
  | invalid message => some s!"Invalid(message={Text.quote message})"
  | unknown => none

/-- The distinct outcomes of a list, each where it stands last. -/
def distinct : List Outcome → List Outcome
  | [] => []
  | o :: rest => if rest.contains o then distinct rest else o :: distinct rest

end Outcome

end RowGuard
