import RowGuard.Sql.Source

/-!
# The clauses of a query

A query's clauses stand in any order, each at most once. The tables joined to its first and those
beside it go before them.
-/

namespace RowGuard.Sql

namespace Query

open Reader Expression

/-! ## Groups -/

/-- A list of groupings that `CUBE` or `ROLLUP` makes. Behind `WITH` it has no list. -/
def cube? (g : Grammar) (prefixed : Bool) : Reader (Option Tree) := do
  match ← acceptAny ["CUBE", "ROLLUP"] with
  | none => return none
  | some _ =>
    if prefixed then return some (.group [])
    else return some (.group (← wrapped (commaList g.bitwise)))

/-- Grouping sets, which may hold others, nested at most so deep. -/
def groupingSets? (g : Grammar) : Nat → Reader (Option Tree)
  | 0 => refuse
  | depth + 1 => do
    if !(← accept "GROUPING SETS") then return none
    let sets ← wrapped (commaList do
      match ← groupingSets? g depth with
      | some t => return some t
      | none =>
        match ← cube? g false with
        | some t => return some t
        | none => g.bitwise)
    return some (.group sets)

/-- Words that begin a clause, so that nothing is grouped by. -/
def clauseWords : List String :=
  ["WHERE", "GROUP BY", "HAVING", "QUALIFY", "WINDOW", "ORDER BY", "LIMIT", "FETCH", "OFFSET",
   "FOR", "LOCK", "TABLESAMPLE", "USING", "CLUSTER BY", "DISTRIBUTE BY", "SORT BY", "CONNECT BY",
   "START WITH"]

/-- What a query groups by, the keyword passed. It may be empty. -/
def grouping (g : Grammar) : Reader (List Tree) := do
  let _ ← acceptAny ["ALL", "DISTINCT"]
  if clauseWords.contains (← here) then return []
  let step (state : List Tree × Bool) : Reader (Option (List Tree × Bool)) := do
    if state.2 then return none
    let items ← commaList do
      if ["CUBE", "ROLLUP"].contains (← here) then return none else g.disjunction
    let start ← get
    let prefixed ← accept "WITH"
    let found ← match ← cube? g prefixed with
      | some t => pure (some t)
      | none =>
        match ← groupingSets? g (start.rest.length + 1) with
        | some t => pure (some t)
        | none => do
          let _ ← acceptWords ["TOTALS"]
          pure none
    let done := (← get).passed.length ≤ start.passed.length + 1
    if done then set start
    return some (state.1 ++ items ++ (if done then [] else found.toList), done)
  return (← iterate step ([], false)).1

/-! ## Locks -/

/-- How the rows of a query are locked. -/
def lock? (g : Grammar) : Reader (Option Tree) := do
  let forms := [["FOR", "UPDATE"], ["FOR", "SHARE"], ["LOCK", "IN", "SHARE", "MODE"],
    ["FOR", "KEY", "SHARE"], ["FOR", "NO", "KEY", "UPDATE"]]
  if !(← forms.anyM acceptWords) then return none
  let tables ←
    if ← acceptWords ["OF"] then commaList do return some (← g.table true) else pure []
  if ← acceptWords ["NOWAIT"] then return some (.group tables)
  else if ← acceptWords ["WAIT"] then return some (.group (tables ++ (← g.primary).toList))
  else
    let _ ← acceptWords ["SKIP", "LOCKED"]
    return some (.group tables)

/-! ## Hierarchies -/

/-- The condition that ties a row to the one above it, in which `PRIOR` is an operator. -/
def tie (g : Grammar) : Reader Tree := do
  let _ ← accept "CONNECT BY"
  let _ ← acceptWords ["NOCYCLE"]
  modify fun c => { c with hasPrior := true }
  let t ← need g.disjunction
  modify fun c => { c with hasPrior := false }
  return t

/-- How rows form a hierarchy, and where it starts. -/
def hierarchy (g : Grammar) : Reader Tree := do
  let start ← after "START WITH" g.disjunction
  let t ← tie g
  let start ← if start.isSome then pure start else after "START WITH" g.disjunction
  return .group (start.toList ++ [t])

/-! ## Clauses -/

/-- A clause: the names of the clauses that it amounts to, of which the first must not yet be
there, and its node. -/
structure Clause where
  names : List String
  node : Tree

/-- A clause that amounts to one. -/
def one (name : String) (node : Tree) : Option Clause := some ⟨[name], node⟩

/-- The number of rows to give as a clause. -/
def ofLimit (l : Limit) : Option Clause :=
  match l.skipped with
  | none => one "LIMIT" (.group l.count)
  | some skipped => some ⟨["LIMIT", "OFFSET"], .group (l.count ++ [skipped])⟩

/-- A clause with a list of what rows are sorted or spread by, its keyword passed. -/
def sortClause (g : Grammar) (name : String) : Reader (Option Clause) := do
  return one name (.group (← sorting g))

/-- One clause, or nothing when none begins here. -/
def clause? (g : Grammar) : Reader (Option Clause) := do
  let key ← here
  match key with
  | "WHERE" => advance; return one key (.node .filter [← need g.disjunction])
  | "GROUP BY" => advance; return one key (.group (← grouping g))
  | "HAVING" | "QUALIFY" => advance; return one key (.group [← need g.disjunction])
  | "WINDOW" =>
    advance
    return one key (.group (← commaList (namedWindow g)))
  | "ORDER BY" | "SORT BY" | "CLUSTER BY" | "DISTRIBUTE BY" => advance; sortClause g key
  | "LIMIT" => advance; return ofLimit (← limit g)
  | "FETCH" => advance; return ofLimit (← fetch g)
  | "OFFSET" => advance; return one key (.group (← offset g))
  | "FOR" | "LOCK" =>
    match ← many (lock? g) with
    | [] => return none
    | locks => return one "LOCK" (.group locks)
  | "TABLESAMPLE" => advance; return one "SAMPLE" (.group (← Source.sample g))
  | "USING" =>
    if ← acceptWords ["USING", "SAMPLE"] then return one "SAMPLE" (.group (← Source.sample g))
    else return none
  | "CONNECT BY" | "START WITH" => return one "CONNECT BY" (← hierarchy g)
  | _ => return none

/-- The clauses that follow, added to those that a query has. -/
def moreClauses (g : Grammar) (present : List String) : Reader (List String × List Tree) :=
  iterate (fun (present, parts) => do
    match ← clause? g with
    | none => return none
    | some c =>
      if c.names.head?.any present.contains then refuse
      return some (c.names ++ present, parts ++ [c.node])) (present, [])

/-- The joined tables and the clauses behind a query, added to it. A clause that the query already
has refuses the statement. -/
def clauses (g : Grammar) (q : Tree) : Reader Tree := do
  match q.shape with
  | .query form present =>
    let joined ← Source.joins g
    let beside ← many (Source.lateral? g)
    let (present, parts) ← moreClauses g present
    return .node (.query form present) (q.parts ++ joined ++ beside ++ parts)
  | _ => return q

end Query

end RowGuard.Sql
