import RowGuard.Sql.Schema
import RowGuard.Sql.Session

/-!
# Statements

A statement is a query or begins with a word of its own. Of statements other than queries, those on
rows are read in full, since they may stand inside a query; the others as far as it takes to tell a
well-formed one.
-/

namespace RowGuard.Sql

namespace Statement

open Reader Expression

/-! ## All statements -/

/-- Whether a keyword begins a statement that is no query. -/
def isStatement (key : String) : Bool :=
  ["ALTER", "ANALYZE", "BEGIN", "CACHE", "COMMENT", "COMMIT", "COPY", "CREATE", "DELETE", "DESC",
   "DESCRIBE", "DROP", "GRANT", "INSERT", "KILL", "LOAD", "MERGE", "PIVOT", "PRAGMA", "REVOKE",
   "ROLLBACK", "SET", "SHOW", "TRUNCATE", "UNCACHE", "UNPIVOT", "UPDATE", "USE"].contains key

/-- A table whose rows are turned into columns, the first word passed. -/
def pivoted (g : Grammar) : Reader Tree := do
  let t ← g.table false
  let columns ← if ← accept "ON" then commaList do
      match ← g.bitwise with
      | some column =>
        if ← accept "IN" then return some (← membership g column)
        else withAlias g false (some column)
      | none => return none
    else pure []
  let targets ← if ← accept "INTO" then do
      let own ← if ← acceptWords ["NAME"] then g.column else pure none
      let values ← if ← acceptWords ["VALUE"] then commaList g.column else pure []
      pure (own.toList ++ values)
    else pure []
  let values ←
    if ← accept "USING" then commaList do withAlias g false (← g.column) else pure []
  let groups ← if ← accept "GROUP BY" then Query.grouping g else pure []
  return .group (t :: columns ++ targets ++ values ++ groups)

/-- A statement that is no query, its first word passed. -/
def other (g : Grammar) (key : String) : Reader Tree := do
  let mere (read : Reader Unit) : Reader Tree := do
    read
    return .group []
  match key with
  | "ALTER" => mere (Schema.alter g)
  | "ANALYZE" => mere (Schema.analyze g)
  | "BEGIN" => mere Session.transaction
  | "CACHE" => Schema.cache g
  | "COMMENT" => mere (Schema.comment g)
  | "COMMIT" | "ROLLBACK" => mere (Session.transactionEnd g)
  | "COPY" => mere (Schema.copy g)
  | "CREATE" => Schema.create g
  | "DELETE" => Change.delete g
  | "DESC" | "DESCRIBE" => Query.description g isStatement
  | "DROP" => mere (Schema.drop g)
  | "GRANT" => mere (Session.privileges g "TO")
  | "INSERT" => Change.insert g
  | "KILL" =>
    let _ ← acceptAnyWord ["CONNECTION", "QUERY"]
    return .group [← need g.primary]
  | "LOAD" => mere (Schema.load g)
  | "MERGE" => Change.merge g
  | "PIVOT" | "UNPIVOT" => pivoted g
  | "PRAGMA" => return .group [← need (aliased g)]
  | "REVOKE" => mere do
    let _ ← acceptWords ["GRANT", "OPTION", "FOR"]
    Session.privileges g "FROM"
  | "SET" => mere (Session.settings g)
  | "SHOW" => mere (Session.display g)
  | "TRUNCATE" => mere (Schema.truncate g)
  | "UNCACHE" => mere (Schema.uncache g)
  | "UPDATE" => Change.update g
  | "USE" =>
    let _ ← acceptAnyWord ["CATALOG", "DATABASE", "ROLE", "SCHEMA", "WAREHOUSE"]
    g.table false
  | _ => mere skipAll

/-- An expression or query with its unions and clauses. -/
def expression (g : Grammar) : Reader (Option Tree) := do
  let found ← match ← aliased g with
    | some e => do pure (some (← g.unions e))
    | none => g.query false false true
  match found with
  | some q => return some (← Query.clauses g q)
  | none => return none

/-- One statement, or nothing where there is none. -/
def statement (g : Grammar) : Reader (Option Tree) := do
  let key ← here
  if key == "TRUNCATE" && (← ahead) == "(" then
    match ← g.function with
    | some t => return some t
    | none => return none
  else if isStatement key then
    advance
    return some (← other g key)
  else if Keyword.commands.contains key then
    advance
    let _ ← string g
    return some (.group [])
  else expression g

end Statement

/-- The grammar for statements whose constructs nest at most `depth` deep. A deeper one is
refused. -/
def grammar : Nat → Grammar
  | 0 =>
    { assignment := Reader.refuse, disjunction := Reader.refuse, equality := Reader.refuse,
      bitwise := Reader.refuse, term := Reader.refuse, factor := Reader.refuse,
      unary := Reader.refuse, operand := fun _ => Reader.refuse, column := Reader.refuse,
      primary := Reader.refuse, function := Reader.refuse,
      dataType := fun _ _ => Reader.refuse, placeholder := Reader.refuse,
      query := fun _ _ _ => Reader.refuse, clauses := fun _ => Reader.refuse,
      unions := fun _ => Reader.refuse, table := fun _ => Reader.refuse,
      statement := Reader.refuse }
  | depth + 1 =>
    let g := grammar depth
    { assignment := Expression.assignment g
      disjunction := Expression.disjunction g
      equality := Expression.equality g
      bitwise := Expression.bitwise g
      term := Expression.term g
      factor := Expression.factor g
      unary := Expression.unary g
      operand := Expression.operand g
      column := Expression.column g
      primary := Expression.primary g
      function := Expression.function g false true
      dataType := Expression.dataType g
      placeholder := Expression.placeholder g
      query := Query.piped g Statement.isStatement
      clauses := Query.clauses g
      unions := Query.unions g
      table := Source.table g
      statement := Statement.statement g }

/-- Reads one whole statement. An empty one is read as nothing. -/
def readStatement (tokens : List Token) : Except Refusal (Option Tree) := do
  -- a nested construct costs a token and at most eight steps inward
  let (found, c) ← (Statement.statement (grammar (8 * tokens.length + 16))).run { rest := tokens }
  if c.rest.isEmpty then return found else throw .malformed

/-- The first statement of a text, if the text and all its statements are well-formed. -/
def firstStatement (text : List Char) : Except Refusal (Option Tree) := do
  match tokens? text with
  | none => throw .malformed
  | some tokens => return (← (statements tokens).mapM readStatement).head?.join

end RowGuard.Sql
