import RowGuard.Sql.Change

/-!
# Changes to the schema

Statements that make, change and drop tables and other objects, or say something of them. Such a
statement is well-formed as soon as it names its object: what follows in an unknown form is not
looked into.
-/

namespace RowGuard.Sql

namespace Schema

open Reader Expression

/-! ## Parts of a statement -/

/-- That an object has to exist, or if `negated` that it must not. -/
def ifExists (negated : Bool) : Reader Unit := do
  if ← acceptWords ["IF"] then
    let wanted ← if negated then accept "NOT" else pure true
    if wanted then
      let _ ← accept "EXISTS"

/-- Passes over what stands in parentheses, which have to be closed. -/
def skipParentheses : Reader Unit := do
  expect "("
  let opened ← iterate (fun opened => do
    if opened == 0 || (← atEnd) then return none
    let key ← here
    advance
    return some (if key == "(" then opened + 1 else if key == ")" then opened - 1 else opened)) 1
  if 0 < opened then refuse

/-- Passes over what stands in parentheses, if they follow. -/
def skipGroup : Reader Unit := do
  if (← here) == "(" then skipParentheses

/-- Passes over the rest of a statement, unless the statement ends inside another. -/
def skipRest : Reader Unit := do
  unless [")", ","].contains (← here) do skipAll

/-- The name of an object. -/
def objectName (g : Grammar) : Reader Unit := do
  let _ ← Source.path g true

/-! ## Making and dropping -/

/-- An index, its keyword passed. One without a name has to say which table it is on. -/
def createIndex (g : Grammar) : Reader Unit := do
  let anonymous ← accept "ON"
  let named ← if anonymous then pure true else do pure (← anyName g).isSome
  if named then
    let _ ← accept "ON"
    let _ ← accept "TABLE"
    objectName g
    skipGroup
  else if ← atEnd then refuse

/-- The making of an object, its first word passed, with the query that it may be made from. -/
def create (g : Grammar) : Reader Tree := do
  unless ← acceptPair "OR" "REPLACE" do
    let _ ← acceptPair "OR" "ALTER"
  let _ ← accept "UNIQUE"
  let _ ← accept "TEMPORARY"
  let query ← match ← acceptAny Keyword.objects with
    | none => pure none
    | some kind => do
      let _ ← acceptWords ["CONCURRENTLY"]
      ifExists true
      match kind with
      | "COLUMN" | "CONSTRAINT" | "FOREIGN KEY" =>
        if ← atEnd then refuse
        pure none
      | "INDEX" =>
        createIndex g
        pure none
      | "FUNCTION" | "PROCEDURE" =>
        objectName g
        skipGroup
        pure none
      | _ =>
        objectName g
        let _ ← accept ","
        let isQuery := ["SELECT", "WITH", "("].contains (← ahead)
        unless isQuery do skipGroup
        let _ ← accept "AS"
        Change.queried g
  skipRest
  return .group query.toList

/-- The removal of an object, its first word passed. -/
def drop (g : Grammar) : Reader Unit := do
  let _ ← accept "TEMPORARY"
  let _ ← acceptWords ["MATERIALIZED"]
  match ← acceptAny Keyword.objects with
  | none => skipAll
  | some kind =>
    let _ ← acceptWords ["CONCURRENTLY"]
    ifExists false
    if kind == "COLUMN" then
      let _ ← need g.column
    else
      objectName g
    if (← here) == "(" then
      let _ ← wrapped (commaList (g.dataType false false))
    let _ ← acceptAnyWord ["CASCADE", "RESTRICT"]
    let _ ← acceptWords ["CONSTRAINTS"]
    let _ ← acceptWords ["PURGE"]

/-- The removal of all rows, its first word passed. -/
def truncate (g : Grammar) : Reader Unit := do
  let _ ← accept "DATABASE"
  let _ ← accept "TABLE"
  ifExists false
  let _ ← commaList do return some (← g.table true)
  skipAll

/-- A change of an object, its first word passed. -/
def alter (g : Grammar) : Reader Unit := do
  if (← acceptAny ["INDEX", "TABLE", "VIEW"]).isSome then
    ifExists false
    let _ ← acceptWords ["ONLY"]
    let _ ← g.table true
  skipAll

/-! ## What is said of an object -/

/-- A comment on an object, its first word passed. -/
def comment (g : Grammar) : Reader Unit := do
  ifExists false
  let _ ← accept "ON"
  let _ ← acceptWords ["MATERIALIZED"]
  match ← acceptAny Keyword.objects with
  | none => skipAll
  | some kind =>
    match kind with
    | "FUNCTION" | "PROCEDURE" => objectName g; skipGroup
    | "TABLE" =>
      let _ ← Source.tableWhere g false fun t => Source.isTableAlias t && t.key ≠ "IS"
    | "COLUMN" =>
      let _ ← need g.column
    | _ =>
      let _ ← need (anyName g)
    let _ ← accept "IS"
    let _ ← need (string g)

/-- Words that begin what is to be found out about an object. -/
def analysisWords : List String :=
  ["ALL", "COMPUTE", "DELETE", "DROP", "ESTIMATE", "LIST", "PREDICATE", "UPDATE", "VALIDATE"]

/-- An order to look into an object, its first word passed. -/
def analyze (g : Grammar) : Reader Unit := do
  if ← atEnd then return
  let _ ← many do
    if ← acceptWords ["BUFFER_USAGE_LIMIT"] then
      let _ ← number g
      return some ()
    else
      return (← acceptAnyWord
        ["FULL", "LOCAL", "NO_WRITE_TO_BINLOG", "SAMPLE", "SKIP_LOCKED", "VERBOSE"]).map fun _ => ()
  if (← acceptAny ["TABLE", "INDEX"]).isSome then
    let _ ← Source.path g false
  else if ← acceptWords ["TABLES"] then
    if (← acceptAny ["FROM", "IN"]).isSome then
      let _ ← g.table true
  else if ← acceptWords ["DATABASE"] then
    let _ ← g.table true
  else if ← acceptWords ["CLUSTER"] then
    let _ ← g.table false
  else unless analysisWords.contains (← hereWord) do
    let _ ← Source.path g false
  if ("PARTITION" :: analysisWords).contains (← hereWord) then skipAll

/-! ## Copies -/

/-- A copy kept at hand, its first word passed. -/
def cache (g : Grammar) : Reader Tree := do
  let _ ← acceptWords ["LAZY"]
  let _ ← accept "TABLE"
  let t ← g.table true
  if ← acceptWords ["OPTIONS"] then
    wrapped do
      let _ ← string g
      let _ ← accept "="
      let _ ← string g
  let _ ← accept "AS"
  return .group (t :: (← g.query true false true).toList)

/-- The end of a copy kept at hand, its first word passed. -/
def uncache (g : Grammar) : Reader Unit := do
  expect "TABLE"
  ifExists false
  let _ ← g.table true

/-- Rows read from a file, the first word passed. -/
def load (g : Grammar) : Reader Unit := do
  if ← acceptWords ["DATA"] then
    let _ ← acceptWords ["LOCAL"]
    let _ ← acceptWords ["INPATH"]
    let _ ← string g
    let _ ← accept "OVERWRITE"
    let _ ← acceptPair "INTO" "TABLE"
    let _ ← g.table true
    if ← accept "PARTITION" then
      let _ ← wrapped (commaList g.disjunction)
    for word in ["INPUTFORMAT", "SERDE"] do
      if ← acceptWords [word] then
        let _ ← string g
  else skipAll

/-- Rows copied from a file or into one, the first word passed. -/
def copy (g : Grammar) : Reader Unit := do
  let _ ← accept "INTO"
  if (← here) == "(" then
    let _ ← need (g.query true false true)
  else
    let _ ← g.table true
  skipAll

end Schema

end RowGuard.Sql
