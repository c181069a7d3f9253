import RowGuard.Sql.Clause

/-!
# Queries

A query has projections, tables and clauses. Queries combine by `UNION` and its kin, nest in
parentheses, and may name other queries that they use.
-/

namespace RowGuard.Sql

namespace Query

open Reader Expression

/-! ## Projections -/

/-- The pieces of a hint: words and calls. -/
def hintItems (g : Grammar) : Reader (List Tree) := do
  let groups ← many do
    let items ← commaList do
      match ← call? g false true with
      | some t => return some t
      | none => return (← plainWord g).map Name.tree
    return if items.isEmpty then none else some items
  return groups.flatten

/-- The calls in a hint, which is read by itself. A hint that is not made of words and calls is a
mere text. -/
def hint (g : Grammar) : Reader (List Tree) := do
  match ← acceptKind .hint with
  | none => return []
  | some t =>
    match tokens? t.text.toList with
    | none => refuse
    | some tokens =>
      match (hintItems g).run { rest := tokens } with
      | .ok (items, c) => return if c.rest.isEmpty then items else []
      | .error .malformed => return []
      | .error r => throw r

/-- Words between `SELECT` and the projections. -/
def selectModifiers : List String :=
  ["HIGH_PRIORITY", "STRAIGHT_JOIN", "SQL_SMALL_RESULT", "SQL_BIG_RESULT", "SQL_BUFFER_RESULT",
   "SQL_NO_CACHE", "SQL_CALC_FOUND_ROWS"]

/-- Which rows a query shows once, if a word says so. Before a period that word is a name. -/
def distinct (g : Grammar) : Reader (List Tree) := do
  let c ← get
  if c.rest.length < 2 || (← ahead) == "." then return []
  let all ← accept "ALL"
  if !(← accept "DISTINCT") then return []
  if all then refuse
  return (← after "ON" (Source.row g)).toList

/-- The table that takes the rows of a query. -/
def target (g : Grammar) : Reader (List Tree) := do
  if !(← accept "INTO") then return []
  let _ ← accept "TEMPORARY"
  let _ ← acceptWords ["UNLOGGED"]
  let _ ← accept "TABLE"
  return [.group [← g.table true]]

/-- A query from `SELECT` on, which is passed, with the table that may go before it. -/
def select (g : Grammar) (before : List Tree) : Reader Tree := do
  let hint ← hint g
  let distinct ← distinct g
  if ← accept "AS" then
    let _ ← acceptAnyWord ["STRUCT", "VALUE"]
  let _ ← many (acceptAnyWord selectModifiers)
  let projections ← commaList (aliased g)
  let target ← target g
  let source ←
    if before.isEmpty then
      if ← accept "FROM" then do pure [Tree.group [← g.table false]] else pure []
    else pure before
  clauses g (.node (.query .select []) (hint ++ distinct ++ projections ++ target ++ source))

/-! ## Queries in parentheses -/

/-- What stands in the parentheses of a query, or of a table where one may stand. -/
def inside (g : Grammar) (table : Bool) : Reader Tree := do
  if ← accept "FROM" then
    let source := Tree.group [← g.table false]
    match ← g.query false false true with
    | some q => return q.add [source]
    | none => clauses g (← g.unions (.node (.query .select []) [source]))
  else
    let t ← if table then g.table false else need (g.query true false false)
    clauses g (← g.unions t)

/-- A query in parentheses, the opening one passed, or a table where one may stand. -/
def parenthesised (g : Grammar) (table : Bool) : Reader Tree := do
  let inner ← inside g table
  expect ")"
  let pivots ← Source.pivots g
  Source.tableAlias g
  return .node (.query .parenthesised []) (inner :: pivots ++ (← Source.tableSample g))

/-! ## Named queries -/

/-- A query with a name for it, which may have names for its columns. -/
def namedQuery (g : Grammar) : Reader Tree := do
  if ← isAtLimit g then refuse
  let marked ← accept "AS"
  let named ← match ← (if marked then anyName g else name g) with
    | some _ => pure true
    | none => do pure (← stringName).isSome
  if !named then refuse
  let _ ← Source.aliasColumns g
  if ← acceptWords ["USING", "KEY"] then nameList g
  let _ ← accept "AS"
  unless ← acceptWords ["NOT", "MATERIALIZED"] do
    let _ ← acceptWords ["MATERIALIZED"]
  return .group [← need (wrapped g.statement)]

/-- The named queries that go before a statement, their keyword passed. -/
def namedQueries (g : Grammar) : Reader (List Tree) := do
  let _ ← accept "RECURSIVE"
  let first ← namedQuery g
  iterate (fun qs => do
    if ← accept "," then
      let _ ← accept "WITH"
      return some (qs ++ [← namedQuery g])
    else if ← accept "WITH" then return some (qs ++ [← namedQuery g])
    else return none) [first]

/-- Statements other than queries that may have named queries before them. -/
def changes : List String := ["CREATE", "DELETE", "INSERT", "MERGE", "UPDATE"]

/-- A statement with named queries before it, their keyword passed. -/
def withNamed (g : Grammar) : Reader Tree := do
  let named ← namedQueries g
  let isChange := changes.contains (← here)
  let t ← need g.statement
  if isChange || t.isQuery then return t.add [.group named] else refuse

/-! ## Queries -/

/-- The description of an object or statement, its keyword passed. -/
def description (g : Grammar) (isStatement : String → Bool) : Reader Tree := do
  let _ ← acceptAny Keyword.objects
  if (← acceptAnyWord ["ANALYZE", "EXTENDED", "FORMATTED", "HISTORY"]).isSome then
    if (← here) == "." then stepBack
  if ← accept "FORMAT" then
    let _ ← accept "="
    let _ ← accept "AS"
    let _ ← anyField g
  let t ← if isStatement (← here) then need g.statement else g.table true
  let part ← if ← accept "PARTITION" then wrapped (commaList g.disjunction) else pure []
  let _ ← acceptWords ["AS", "JSON"]
  return .group (t :: part)

/-- Whether a table's name stands behind the keyword for one. -/
def isTableNamed : Reader Bool := do
  return (← get).rest[1]?.any fun t => isName t || t.kind == .quotedName

/-- A query that is not combined with others; nothing when none begins here. -/
def single? (g : Grammar) (isStatement : String → Bool) (before : List Tree) :
    Reader (Option Tree) := do
  match ← here with
  | "SELECT" => advance; return some (← select g before)
  | "VALUES" => Source.rows? g
  | "DESCRIBE" =>
    if before.isEmpty then
      advance
      return some (← description g isStatement)
    else clauses g (.node (.query .select []) before)
  | "TABLE" =>
    if before.isEmpty && (← isTableNamed) then
      advance
      return some (← g.table false)
    else if before.isEmpty then return none
    else clauses g (.node (.query .select []) before)
  | _ =>
    if before.isEmpty then return none
    else clauses g (.node (.query .select []) before)

/-- A query. `wrapped` admits one in parentheses, `table` also a table in parentheses, and `more`
whether unions may follow. -/
def query (g : Grammar) (isStatement : String → Bool) (wrapped table more : Bool) :
    Reader (Option Tree) := do
  if ← accept "WITH" then return some (← withNamed g)
  let before ←
    if ← accept "FROM" then do
      let t ← g.table false
      pure [Tree.group [t.add (← Source.joins g)]]
    else pure []
  if (wrapped || table) && (← here) == "(" then
    advance
    return some (← parenthesised g table)
  match ← single? g isStatement before with
  | some q => if more then return some (← g.unions q) else return some q
  | none => return none

/-! ## Unions -/

/-- How the columns of two queries are matched. -/
def matching (g : Grammar) : Reader (List Tree) := do
  let named ←
    if ← acceptWords ["BY", "NAME"] then pure true else acceptWords ["STRICT", "CORRESPONDING"]
  let corresponding ← acceptWords ["CORRESPONDING"]
  if !named && !corresponding then return []
  if (← acceptAnyWord ["ON", "BY"]).isSome then wrapped (commaList g.column) else return []

/-- The word that combines two queries, with what goes before it. -/
def unionWord : Reader Bool := do
  let start ← get
  let _ ← acceptAny ["ASOF", "NATURAL"]
  let _ ← acceptAny ["LEFT", "RIGHT", "FULL"]
  let _ ← acceptAny ["ANTI", "CROSS", "INNER", "OUTER", "SEMI", "STRAIGHT_JOIN"]
  if (← acceptAny ["UNION", "EXCEPT", "INTERSECT"]).isSome then return true
  else
    set start
    return false

/-- The clauses of the last query that count for all that are combined with it. -/
def sharedClauses (q : Tree) : List String :=
  match q.shape with
  | .query _ present => present.filter (["ORDER BY", "LIMIT", "OFFSET"].contains ·)
  | _ => []

/-- A query with the queries that `UNION` and its kin combine it with. -/
def unions (g : Grammar) (q : Tree) : Reader Tree :=
  iterate (fun left => do
    if !(← unionWord) then return none
    unless ← accept "DISTINCT" do
      let _ ← accept "ALL"
    let columns ← matching g
    let right ← need (g.query true false false)
    return some (.node (.query .combined (sharedClauses right)) ([left, right] ++ columns))) q

end Query

end RowGuard.Sql
