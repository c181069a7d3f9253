import RowGuard.Sql.Pipe

/-!
# Changes to rows

Statements that remove, change, add and merge rows. A query may give a name to what such a statement
gives back, so its columns and filters count like those of any other part of the query.
-/

namespace RowGuard.Sql

namespace Change

open Reader Expression

/-! ## Parts of a change -/

/-- A condition that the rows have to meet, if one follows. -/
def filter? (g : Grammar) : Reader (Option Tree) :=
  after "WHERE" do return some (.node .filter [← need g.disjunction])

/-- What a change gives back of its rows. -/
def returning (g : Grammar) : Reader (List Tree) := do
  if !(← accept "RETURNING") then return []
  match ← commaList (aliased g) with
  | [] => refuse
  | items =>
    if ← accept "INTO" then
      let _ ← Source.part? g false
    return items

/-- How many rows are changed at most. -/
def rowCount (g : Grammar) : Reader (List Tree) := do
  match ← acceptAny ["LIMIT", "FETCH"] with
  | none => return []
  | some key =>
    let rows ← if key == "LIMIT" then limit g else fetch g
    return rows.count ++ rows.skipped.toList

/-- A table with those joined to it. -/
def joined (g : Grammar) : Reader (Option Tree) := do
  let t ← g.table false
  return some (t.add (← Source.joins g))

/-! ## Removal and change -/

/-- The removal of rows, its first word passed. -/
def delete (g : Grammar) : Reader Tree := do
  let hint ← Query.hint g
  let named ←
    if (← here) == "FROM" then pure [] else commaList do return some (← g.table false)
  let early ← returning g
  let source ← after "FROM" (joined g)
  let beside ← if ← accept "USING" then commaList (joined g) else pure []
  let filter ← filter? g
  let late ← if early.isEmpty then returning g else pure []
  let order ← order? g
  let rows ← rowCount g
  return .group (hint ++ named ++ source.toList ++ beside ++ filter.toList ++ early ++ late
    ++ order.getD [] ++ rows)

/-- One clause of a change of rows. -/
def updateClause (g : Grammar) : Reader (Option (List Tree)) := do
  match ← here with
  | "SET" => advance; return some (← commaList g.equality)
  | "FROM" => advance; return some (← joined g).toList
  | "WHERE" => return some (← filter? g).toList
  | "RETURNING" => return some (← returning g)
  | "ORDER BY" => return some ((← order? g).getD [])
  | "LIMIT" => return some (← rowCount g)
  | _ => return none

/-- A change of rows, its first word passed. The word for its assignments is no alias. -/
def update (g : Grammar) : Reader Tree := do
  let hint ← Query.hint g
  let isAlias (t : Token) : Bool := Source.isTableAlias t && t.key ≠ "SET"
  let t ← Source.tableWhere g false isAlias
  let joins ← Source.joinsWhere g isAlias
  let clauses ← many (updateClause g)
  return .group (hint ++ t :: joins ++ clauses.flatten)

/-! ## New rows -/

/-- What happens to a row that is there already, if it is said: a word that no other may replace. -/
def conflictAction : Reader (Option String) := do
  if ← atEnd then return none
  match ← acceptAnyWord ["ABORT", "FAIL", "IGNORE", "REPLACE", "ROLLBACK", "UPDATE"] with
  | some word => return some word
  | none =>
    if ← acceptWords ["DO", "NOTHING"] then return some "NOTHING"
    else if ← acceptWords ["DO", "UPDATE"] then return some "UPDATE"
    else refuse

/-- What makes a new row one that is there already; nothing when no such case is looked at. -/
def conflictKeys (g : Grammar) : Reader (Option (List Tree)) := do
  if ← acceptWords ["ON", "DUPLICATE", "KEY"] then return some []
  else if !(← acceptWords ["ON", "CONFLICT"]) then return none
  else if ← acceptWords ["ON", "CONSTRAINT"] then return some ((← anyName g).map Name.tree).toList
  else if (← here) == "(" then return some (← wrapped (commaList (ordered g)))
  else return some []

/-- What is done about new rows that are there already. -/
def conflict (g : Grammar) : Reader (List Tree) := do
  match ← conflictKeys g with
  | none => return []
  | some keys =>
    let before ← filter? g
    let values ←
      if (← conflictAction) == some "UPDATE" then do
        let _ ← accept "SET"
        commaList g.equality
      else pure []
    return keys ++ before.toList ++ values ++ (← filter? g).toList

/-- Rows from a query. -/
def queried (g : Grammar) : Reader (Option Tree) := do
  match ← g.query true false true with
  | some q => return some (← g.clauses (← g.unions q))
  | none => return none

/-- New rows for one of several tables, under a condition. -/
def insertCase (g : Grammar) : Reader (Option Tree) := do
  let condition ← if ← accept "WHEN" then do
      let t ← g.disjunction
      let _ ← accept "THEN"
      pure t
    else pure none
  let _ ← accept "ELSE"
  if !(← accept "INTO") then return none
  let t ← g.table true
  return some (.group (condition.toList ++ t :: (← Source.rows? g).toList))

/-- New rows for several tables, taken from one. -/
def insertCases (g : Grammar) : Reader Tree := do
  match ← many (insertCase g) with
  | [] => refuse
  | cases => return .group (cases ++ [← g.table false])

/-- The new rows of one table. -/
def newRows (g : Grammar) : Reader (List Tree) := do
  if ← accept "SET" then commaList g.equality
  else return (← firstOf [Source.rows? g, queried g]).toList

/-- New rows, the first word passed. -/
def insert (g : Grammar) : Reader Tree := do
  let hint ← Query.hint g
  let _ ← accept "OVERWRITE"
  let _ ← accept "IGNORE"
  let _ ← acceptWords ["LOCAL"]
  if (← acceptAny ["FIRST", "ALL"]).isSome then return (← insertCases g).add hint
  if ← accept "OR" then
    let _ ← acceptAnyWord ["ABORT", "FAIL", "IGNORE", "REPLACE", "ROLLBACK"]
  let _ ← accept "INTO"
  let _ ← accept "TABLE"
  let t ← if ← accept "FUNCTION" then g.function else do pure (some (← g.table true))
  if (← here) == "AS" then Source.tableAlias g
  let early ← returning g
  let _ ← acceptWords ["BY", "NAME"]
  let replaced ← if ← acceptPair "REPLACE" "WHERE" then g.disjunction else pure none
  let rows ← if ← acceptWords ["DEFAULT", "VALUES"] then pure [] else newRows g
  let conflict ← conflict g
  let late ← if early.isEmpty then returning g else pure []
  let source ← after "TABLE" do return some (← g.table false)
  return .group (hint ++ t.toList ++ early ++ replaced.toList ++ rows ++ conflict ++ late
    ++ source.toList)

/-! ## Merging -/

/-- A star, or a place left open for a value. -/
def starOrPlace (g : Grammar) : Reader (Option Tree) := do
  if ← accept "*" then return some (← star g) else return (← g.placeholder).map Name.tree

/-- What a merge does with a row. -/
def mergeAction (g : Grammar) : Reader (List Tree) := do
  match ← acceptAny ["INSERT", "UPDATE", "DELETE"] with
  | some "INSERT" =>
    match ← starOrPlace g with
    | some t => return [t]
    | none =>
      let columns ← if ← acceptWords ["ROW"] then pure none else Source.row g
      let values ← if ← acceptWords ["VALUES"] then Source.row g else pure none
      return columns.toList ++ values.toList
  | some "UPDATE" =>
    match ← starOrPlace g with
    | some t => return [t]
    | none => if ← accept "SET" then commaList g.equality else return []
  | some _ => return []
  | none =>
    let _ ← need conflictAction
    return []

/-- What a merge does in one case. -/
def mergeCase (g : Grammar) : Reader (Option Tree) := do
  if !(← accept "WHEN") then return none
  let _ ← accept "NOT"
  let _ ← acceptWords ["MATCHED"]
  unless ← acceptWords ["BY", "TARGET"] do
    let _ ← acceptWords ["BY", "SOURCE"]
  let condition ← after "AND" g.disjunction
  let _ ← accept "THEN"
  return some (.group (condition.toList ++ (← mergeAction g)))

/-- A merge of rows into a table, its first word passed. It has to say what to do in some case. -/
def merge (g : Grammar) : Reader Tree := do
  let _ ← accept "INTO"
  let target ← g.table false
  let _ ← accept "USING"
  let source ← g.table false
  let condition ← Source.joinCondition? g
  match ← many (mergeCase g) with
  | [] => refuse
  | cases =>
    return .group (target :: source :: condition.getD [] ++ cases ++ (← returning g))

end Change

end RowGuard.Sql
