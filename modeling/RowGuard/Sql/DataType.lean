import RowGuard.Sql.Operand

/-!
# Data types

A data type has a name, and may have sizes, types or fields inside it. Where a call could stand in
its place, a type with sizes has to have a string behind it.
-/

namespace RowGuard.Sql

namespace Expression

open Reader

/-- A type with what is inside it. -/
def ofType (key : String) (parts : List Tree) : Tree := .node (.dataType key) parts

/-- The word that names a type. A name in backquotes may be one, where names are admitted. -/
def typeKey? (names : Bool) : Reader (Option String) := do
  match ← peek with
  | none => return none
  | some t =>
    let key? := match t.kind with
      | .keyword key => some key
      | .quotedName => if names then Keyword.key? t.capitals else none
      | _ => none
    match key? with
    | some key =>
      if Keyword.types.contains key then advance; return some key else return none
    | none => return none

/-! ## Inside a type -/

/-- A size of a type. A name there is no column. -/
def typeSize (g : Grammar) : Reader (Option Tree) := do
  match ← g.operand true with
  | none => return none
  | some t =>
    let unit ← anyWord g
    return some (.group (t.withoutName :: (unit.map Name.tree).toList))

/-- A named field of a record, or a mere type. -/
def field (g : Grammar) : Reader (Option Tree) := do
  let start ← get
  let isType (t : Option Token) : Bool := t.any fun t => Keyword.types.contains t.key
  let own ←
    if isType start.rest[0]? && isType start.rest[1]? then do
      pure ((← anyName g).map Name.tree)
    else
      match ← typed g with
      | some t => pure (some t)
      | none => do pure ((← anyName g).map Name.tree)
  let _ ← accept ":"
  let isTyped := match own.map Tree.shape with
    | some (.dataType _) => true
    | _ => false
  if !isTyped && !isType (← peek) then
    set start
    g.dataType false false
  else
    return some (← columnDefinition g (own.getD (.group [])))

/-- What stands between the parentheses or angle brackets of a type. -/
def typeParts (g : Grammar) (key : String) (call schema : Bool) : Reader (List Tree) := do
  if Keyword.recordTypes.contains key then commaList (field g)
  else commaList (g.dataType call schema)

/-- The sizes or types between the parentheses of a type, the opening one passed. -/
def inType (g : Grammar) (key : String) (call schema : Bool) : Reader (List Tree) := do
  if Keyword.nestedTypes.contains key then typeParts g key call schema
  else if key == "ENUM" || key == "SET" then commaList g.equality
  else commaList (typeSize g)

/-- Values behind a type with inner types, which belong to it. A record does without empty ones. -/
def typeValues (g : Grammar) (key : String) : Reader (Option (List Tree)) := do
  let start ← get
  match ← acceptAny ["[", "("] with
  | none => return none
  | some _ =>
    let values ← commaList g.disjunction
    if values.isEmpty && Keyword.recordTypes.contains key then
      set start
      return none
    let _ ← acceptAny ["]", ")"]
    return some values

/-! ## Behind a type -/

/-- How a time treats time zones: the type that it then is. -/
def zonedType? (key : String) : Reader (Option String) := do
  if !(Keyword.timeTypes.contains key) then return none
  if ← acceptWords ["WITH", "TIME", "ZONE"] then
    return some (if key == "TIME" || key == "TIMETZ" then "TIMETZ" else "TIMESTAMPTZ")
  else if ← acceptWords ["WITH", "LOCAL", "TIME", "ZONE"] then return some "TIMESTAMPLTZ"
  else return none

/-- The units between which an interval type reaches. -/
def intervalUnits (g : Grammar) : Reader (List Tree) := do
  match ← plainWord g with
  | none => return []
  | some first =>
    if ← acceptWords ["TO"] then
      let last ← need (plainWord g)
      return [first.tree, last.tree]
    else return [first.tree]

/-- A type in a list of any size, as often as asked. -/
def inLists (t : Tree) : Reader Tree :=
  iterate (fun t => do
    if ← accept "LIST" then return some (ofType "LIST" [t]) else return none) t

/-- A type in arrays. Values between the brackets are sizes in the columns of a table alone;
elsewhere the brackets then do not belong to the type. -/
def inArrays (g : Grammar) (schema : Bool) (t : Tree) : Reader Tree := do
  let start ← get
  let marked ← accept "ARRAY"
  let step (state : Tree × Bool × Bool) : Reader (Option (Tree × Bool × Bool)) := do
    let (t, marked, done) := state
    if done || (← atEnd) then return none
    let array := (← behind) == "ARRAY"
    let opened ← accept "["
    if !opened && !marked then return none
    if array then
      if ← accept "]" then return none
    let values ← commaList g.disjunction
    if !values.isEmpty && !schema then
      set start
      return some (t, false, true)
    let _ ← accept "]"
    return some (ofType "ARRAY" (t :: values), false, false)
  return (← iterate step (t, marked, false)).1

/-! ## Types -/

/-- A map from one type to another, its name and bracket passed. -/
def mapType (g : Grammar) (call schema : Bool) : Reader (Option Tree) := do
  let key ← g.dataType call schema
  if !(← accept "=>") then return none
  let value ← g.dataType call schema
  if !(← accept "]") then return none
  return some (ofType "MAP" (key.toList ++ value.toList))

/-- A type whose name has been passed. -/
def typeOf (g : Grammar) (key : String) (call schema : Bool) : Reader (Option Tree) := do
  if key == "MAP" then
    if ← accept "[" then return ← mapType g call schema
  let sized ← accept "("
  let sizes ← if sized then inType g key call schema else pure []
  if sized then
    unless ← accept ")" do return none
  if sized && key == "NULLABLE" && sizes.length == 1 then return sizes.head?
  let opened ← if Keyword.nestedTypes.contains key then accept "<" else pure false
  let parts ← if opened then typeParts g key call schema else pure sizes
  if opened then expect ">"
  let values ← if opened then typeValues g key else pure none
  let zoned ← zonedType? key
  let zoneless ←
    if Keyword.timeTypes.contains key && zoned.isNone then acceptWords ["WITHOUT", "TIME", "ZONE"]
    else pure false
  let parts ← if key == "INTERVAL" then do
      let _ ← intervalUnits g
      pure parts
    else pure parts
  if call && sized && zoned.isNone && !zoneless then
    unless ← isAhead (string g) do return none
  if zoned.isNone && key ≠ "INTERVAL" then
    if ← acceptWords ["UNSIGNED"] then
      unless Keyword.signedTypes.contains key do refuse
  if key == "NULLABLE" && parts.isEmpty then return none
  match values with
  | some values => return some (Expression.call "CAST" (values ++ parts))
  | none => return some (← inArrays g schema (← inLists (ofType (zoned.getD key) parts)))

/-- A data type, or values of one. -/
def dataType (g : Grammar) (call schema : Bool) : Reader (Option Tree) := do
  let start ← get
  let found ← match ← typeKey? (!call) with
    | none => pure none
    | some key => typeOf g key call schema
  if found.isNone then set start
  return found

end Expression

end RowGuard.Sql
