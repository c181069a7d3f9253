import RowGuard.Sql.Query

/-!
# Steps after a query

Behind `|>` a step works on the rows of the query before it. A condition is one more condition of
that query; a step that makes new columns begins a query of its own, which reads from the one
before.
-/

namespace RowGuard.Sql

namespace Query

open Reader Expression

/-- A query that reads from another one by name. -/
def readingFrom (q : Tree) : Tree := .node (.query .select []) [.group [.group [q]]]

/-- A query with a further condition in its filter, the filter being made if there is none. -/
def restrict (q condition : Tree) : Tree :=
  match q.parts.partition (·.shape == .filter) with
  | ([], parts) => .node q.shape (parts ++ [.node .filter [condition]])
  | (filters, parts) =>
    .node q.shape (parts ++ [.node .filter (filters.flatMap Tree.parts ++ [condition])])

/-- The columns of a query in a step: of the query they stand in, nothing else counts. -/
def columnsOf (q : Tree) : List Tree := q.parts.filter (·.shape ≠ .filter)

/-- Values over all rows, or over the rows of each group. -/
def aggregate (g : Grammar) : Reader (List Tree) := do
  let fields := commaList do
    let t ← aliased g
    let _ ← acceptAny ["ASC", "DESC"]
    return t
  let values ← fields
  let grouped ←
    if ← accept "GROUP BY" then pure true
    else if ← acceptWords ["GROUP", "AND", "ORDER BY"] then pure true
    else pure false
  return values ++ (← if grouped then fields else pure [])

/-- One step on a query, its mark passed. -/
def pipeStep (g : Grammar) (select : Reader (Option Tree)) (q : Tree) : Reader Tree := do
  match ← hereWord with
  | "WHERE" =>
    if ← accept "WHERE" then return restrict q (← need g.disjunction) else return q
  | "ORDER BY" => return q.add ((← order? g).getD [])
  | "LIMIT" =>
    if ← accept "LIMIT" then
      let _ ← limit g
    if ← accept "OFFSET" then
      let _ ← offset g
    return q
  | "SELECT" => return readingFrom (q.add (((← select).map columnsOf).getD []))
  | "EXTEND" =>
    advance
    return readingFrom (q.add (← commaList (aliased g)))
  | "AGGREGATE" =>
    advance
    return readingFrom (q.add (← aggregate g))
  | "AS" =>
    Source.tableAlias g
    return readingFrom q
  | "PIVOT" | "UNPIVOT" =>
    match ← Source.pivots g with
    | [] => return q
    | pivots => return readingFrom (q.add pivots)
  | "TABLESAMPLE" => return q.add (← Source.tableSample g)
  | _ =>
    let start ← get
    let combined ← unions g q
    if (← get).rest.length < start.rest.length then return readingFrom combined
    match ← Source.join? g Source.isTableAlias (start.rest.length + 1) with
    | some t => return q.add [t]
    | none => refuse

/-- A query with the steps after it. -/
def piped (g : Grammar) (isStatement : String → Bool) (wrapped table more : Bool) :
    Reader (Option Tree) := do
  match ← query g isStatement wrapped table more with
  | none => return none
  | some q =>
    if !q.isQuery then return some q
    let step (q : Tree) : Reader (Option Tree) := do
      if ← accept "|>" then return some (← pipeStep g (query g isStatement false false true) q)
      else return none
    return some (← iterate step q)

end Query

end RowGuard.Sql
