import RowGuard.Sql.Expression

/-!
# Where rows come from

Tables by name, by a function or as rows written out, queries in their place, what may be said of a
table, and the tables joined to it.
-/

namespace RowGuard.Sql

namespace Source

open Reader Expression

/-! ## Aliases of tables -/

/-- Whether a token can stand for a table without `AS`. -/
def isTableAlias (t : Token) : Bool := isName t && !(Keyword.notTableAlias.contains t.key)

/-- A column that the alias of a table lists. -/
def aliasColumn (g : Grammar) : Reader (Option Tree) := do
  match ← anyName g with
  | none => return none
  | some own =>
    let _ ← accept "AS"
    return some (← columnDefinition g own.tree)

/-- Names for the columns of a table in parentheses. Without any the parenthesis is left. -/
def aliasColumns (g : Grammar) : Reader Bool := do
  let start ← get
  if !(← accept "(") then return false
  match ← commaList (aliasColumn g) with
  | [] =>
    set start
    return false
  | _ =>
    expect ")"
    return true

/-- The name that stands for a table, with names for its columns. Behind `AS` it may be any word;
elsewhere one that `ok` admits. The answer says whether there is either. -/
def aliasWhere (g : Grammar) (ok : Token → Bool) : Reader Bool := do
  if ← isAtLimit g then return false
  let named ← match ← (if ← accept "AS" then anyName g else nameWhere g ok) with
    | some _ => pure true
    | none => do pure (← stringName).isSome
  return (← aliasColumns g) || named

/-- The name that stands for a table, if there is one. -/
def tableAlias (g : Grammar) : Reader Unit := do
  let _ ← aliasWhere g isTableAlias

/-! ## Rows written out -/

/-- A row, in parentheses or of a single value. -/
def row (g : Grammar) : Reader (Option Tree) := do
  if ← accept "(" then
    let items ← commaList do
      if ← accept "DEFAULT" then return some (.group []) else aliased g
    expect ")"
    return some (.group items)
  else aliased g

/-- Rows written out, their keyword passed, and whether an alias follows them. -/
def rows (g : Grammar) : Reader (Tree × Bool) := do
  match ← commaList (row g) with
  | [] => refuse
  | items => return (.node (.query .rows []) items, ← aliasWhere g isTableAlias)

/-- Rows written out, which may stand in parentheses, if they begin here. -/
def rows? (g : Grammar) : Reader (Option Tree) := do
  if ← acceptPair "(" "VALUES" then
    let (t, named) ← rows g
    expect ")"
    unless named do tableAlias g
    return some t
  else if ← acceptWords ["VALUES"] then return some (← rows g).1
  else if ← acceptWords ["FORMAT", "VALUES"] then return some (← rows g).1
  else return none

/-! ## Pivots -/

/-- A value that a pivot makes a column of, with a name for that column. -/
def pivotValue (g : Grammar) : Reader (Option Tree) := do
  let t ← queryOrExpression g false
  let _ ← accept "AS"
  match ← g.bitwise with
  | some own => return some (.group [← need (pure t), own.withoutName])
  | none => return t

/-- A column of which a pivot takes the values, with those values. -/
def pivotField (g : Grammar) : Reader (Option Tree) := do
  let column ← need g.column
  expect "IN"
  if ← accept "(" then
    let values ←
      if ← accept "ANY" then do pure ((← order? g).getD [])
      else commaList (pivotValue g)
    expect ")"
    return some (.group (column :: values))
  else
    let own ← anyName g
    return some (.group (column :: (own.map Name.tree).toList))

/-- Rows turned into columns, or columns into rows. -/
def pivot? (g : Grammar) : Reader (Option Tree) := do
  let start ← get
  let kind ← acceptAny ["PIVOT", "UNPIVOT"]
  if kind == some "UNPIVOT" then
    unless ← acceptWords ["INCLUDE", "NULLS"] do
      let _ ← acceptWords ["EXCLUDE", "NULLS"]
  unless ← (if kind.isSome then accept "(" else pure false) do
    set start
    return none
  let items ←
    if kind == some "UNPIVOT" then commaList g.column
    else commaList do withAlias g false (some (← need g.function))
  if items.isEmpty then refuse
  expect "FOR"
  let fields ← many (attempt (pivotField g))
  let fallback ←
    if ← acceptWords ["DEFAULT", "ON", "NULL"] then wrapped g.bitwise else pure none
  let groups ← if ← accept "GROUP BY" then commaList g.disjunction else pure []
  expect ")"
  unless ["PIVOT", "UNPIVOT"].contains (← here) do tableAlias g
  return some (.group (items ++ fields ++ fallback.toList ++ groups))

/-- All pivots of a table. -/
def pivots (g : Grammar) : Reader (List Tree) := many (pivot? g)

/-! ## Samples -/

/-- The part of the rows that a sample keeps. -/
def sampleSize (g : Grammar) : Reader (List Tree) := do
  let size ←
    if ← isKind .number then g.factor
    else firstOf [g.primary, do return (← g.placeholder).map Name.tree]
  if ← acceptWords ["BUCKET"] then
    let _ ← number g
    let _ ← acceptWords ["OUT", "OF"]
    let _ ← number g
    let _ ← accept "ON"
    let field ← anyField g
    return size.toList ++ field.toList
  let _ ← acceptAny ["PERCENT", "MOD", "ROWS"]
  return size.toList

/-- A sample of the rows, its keywords passed. -/
def sample (g : Grammar) : Reader (List Tree) := do
  let _ ← variableWhere g fun t => t.kind == .word || t.key == "ROW"
  let size ← if ← accept "(" then do
      let size ← sampleSize g
      expect ")"
      pure size
    else sampleSize g
  if ← accept "(" then
    let _ ← plainWord g
    if ← accept "," then
      let _ ← number g
    expect ")"
  else if (← acceptAnyWord ["SEED", "REPEATABLE"]).isSome then
    let _ ← wrapped (number g)
  return size

/-- A sample of the rows of a table. -/
def tableSample (g : Grammar) : Reader (List Tree) := do
  if ← accept "TABLESAMPLE" then sample g else return []

/-! ## Tables by name -/

/-- A part of a table's name. -/
structure Part where
  /-- What is in the part. -/
  content : Tree
  /-- The text of the part, if it is a name. -/
  name : Option String := none

/-- A part of a table's name: a name, a string that stands for one, or a table function. -/
def part? (g : Grammar) (schema : Bool) : Reader (Option Part) := do
  match ← if schema then pure none else function g false false with
  | some t => return some { content := t }
  | none =>
    match ← name g with
    | some (.name text _) => return some { content := .group [], name := some text }
    | some (.hole t _) => return some { content := t }
    | none =>
      match ← stringName with
      | some n => return some { content := .group [], name := some n.text }
      | none => return (← g.placeholder).map fun n => { content := n.tree }

/-- The state of a table at another time. -/
def history (g : Grammar) : Reader (List Tree) := do
  let start ← get
  if (← acceptAnyWord ["AT", "BEFORE", "END"]).isSome then
    if ← accept "(" then
      let _ ← acceptAnyWord ["OFFSET", "STATEMENT", "STREAM", "TIMESTAMP", "VERSION"]
      if ← accept "=>" then
        match ← g.bitwise with
        | some t =>
          expect ")"
          return [t]
        | none => pure ()
  set start
  return []

/-- The changes of a table that are asked for instead of its rows. -/
def changes (g : Grammar) : Reader (List Tree) := do
  if ← acceptWords ["CHANGES", "(", "INFORMATION", "=>"] then
    let _ ← anyWord g
    expect ")"
    return (← history g) ++ (← history g)
  else return []

/-- The version of a table that is read: one state of it, or all in a span of time. -/
def version (g : Grammar) : Reader (List Tree) := do
  match ← acceptAny ["FOR TIMESTAMP", "FOR VERSION"] with
  | none => return []
  | some _ =>
    if (← acceptAny ["FROM", "BETWEEN"]).isSome then
      let first ← g.bitwise
      let _ ← acceptAnyWord ["TO", "AND"]
      return first.toList ++ (← g.bitwise).toList
    else if ← acceptWords ["CONTAINED", "IN"] then wrapped (commaList g.bitwise)
    else if ← accept "ALL" then return []
    else
      let _ ← acceptWords ["AS", "OF"]
      return (← g.operand true).toList

/-- The last three parts of a table's name, and what is in the others. -/
structure Path where
  catalog : Option Part := none
  schema : Option Part := none
  table : Option Part
  contents : List Tree

/-- A path with one part more. Only the table itself may have no name between two periods, and only
while there are not yet three parts. -/
def Path.extend (p : Path) (part : Option Part) : Reader Path := do
  let contents := p.contents ++ part.toList.map Part.content
  if p.catalog.isSome then
    return { p with table := some (← need (pure part)), contents := contents }
  else
    return { catalog := p.schema, schema := p.table, table := part, contents := contents }

/-- A table as the column that goes by its name, if it has one. -/
def Path.asColumn (p : Path) : Tree :=
  match p.table.bind Part.name with
  | some name => .node (.column [name] false) p.contents
  | none => .group p.contents

/-- The name of a table, which may be qualified. -/
def path (g : Grammar) (schema : Bool) : Reader Path := do
  let first ← part? g schema
  let p ← iterate (fun p => do
    if ← accept "." then return some (← Path.extend p (← part? g schema)) else return none)
    { table := first, contents := first.toList.map Part.content }
  let _ ← need (pure p.table)
  return p

/-- Advice on the indexes to use, or on how to read the table. -/
def tableHints (g : Grammar) : Reader (List Tree) := do
  if ← acceptPair "WITH" "(" then
    let hints ← commaList do
      firstOf [g.function, do return (← anyWord g).map Name.tree]
    expect ")"
    if hints.isEmpty then refuse
    return hints
  else
    let _ ← many do
      match ← acceptAny ["FORCE", "IGNORE", "USE"] with
      | none => return none
      | some _ =>
        let _ ← acceptAny ["INDEX", "KEY"]
        if ← accept "FOR" then
          let _ ← nameWhere g isAny
        nameList g
        return some ()
    return []

/-! ## Tables -/

/-- The columns of a table in parentheses, if they follow. A query in parentheses is none. -/
def schemaColumns (g : Grammar) : Reader (List Tree) := do
  let start ← get
  if !(← accept "(") then return []
  if ["SELECT", "WITH", "("].contains (← here) then
    set start
    return []
  let columns ← commaList (column? g)
  expect ")"
  return columns

/-- A table function or view beside the table before it, its keyword passed. -/
def lateral (g : Grammar) (applied : Bool) : Reader Tree := do
  let query ← g.query false true true
  let view ← if applied then pure false else accept "VIEW"
  if !applied then
    let _ ← accept "OUTER"
  let part : Reader (Option Tree) := firstOf [g.function, do return (← name g).map Name.tree]
  let t ← match query with
    | some q => pure q
    | none => do
      let first ← firstOf [unnest? g, part]
      let more ← many do
        if ← accept "." then return some (← part) else return none
      pure (.group ((← need (pure first)) :: more.filterMap id))
  if view then
    let _ ← name g
    if ← accept "AS" then
      let _ ← commaList (anyName g)
  else if query.isNone || (← behind) == ")" then
    let _ ← acceptPair "WITH" "ORDINALITY"
    tableAlias g
  return .group [t]

/-- What stands beside the table before it, if it begins here. -/
def lateral? (g : Grammar) : Reader (Option Tree) := do
  if ← acceptPair "CROSS" "APPLY" then return some (← lateral g true)
  else if ← acceptPair "OUTER" "APPLY" then return some (← lateral g true)
  else if ← accept "LATERAL" then return some (← lateral g false)
  else return none

/-- What may stand behind a table, whose alias is a word that `ok` admits. One of its elements makes
the table a column. -/
def withTableEnd (g : Grammar) (ok : Token → Bool) (asColumn t : Tree) : Reader Tree := do
  let version ← version g
  let _ ← aliasWhere g ok
  let _ ← acceptWords ["NOT", "INDEXED"]
  if ← acceptWords ["AT"] then
    return .group [asColumn, (← need (anyName g)).tree]
  let hints ← tableHints g
  let pivots ← pivots g
  let sample ← tableSample g
  if ← acceptPair "WITH" "ORDINALITY" then tableAlias g
  return t.add (version ++ hints ++ pivots ++ sample)

/-- A table read as a stream, if the word for one begins here. -/
def stream? (g : Grammar) : Reader (Option Tree) := attempt do
  if ← acceptWords ["STREAM"] then return some (.group [← g.table false]) else return none

/-- The tables that a row is made of, side by side, if they begin here. -/
def zipped? (g : Grammar) : Reader (Option Tree) := do
  if ← acceptWords ["ROWS", "FROM"] then
    let tables ← wrapped (commaList do return some (← g.table false))
    return some (.node (.query .table []) tables)
  else return none

/-- A table by its name, with what is said of it. -/
def namedTable (g : Grammar) (schema : Bool) (ok : Token → Bool) : Reader Tree := do
  let (asColumn, t) ← match ← zipped? g with
    | some t => pure (.group [], t)
    | none => do
      let p ← path g schema
      let contents := p.contents ++ (← changes g) ++ (← history g) ++ (← pivots g)
      let t := Tree.node (.query .table []) contents
      pure (p.asColumn, (← withElements g (some t)).getD t)
  let _ ← acceptWords ["*"]
  let t ← if ← accept "PARTITION" then do
      let names ← wrapped (commaList g.disjunction)
      if names.isEmpty then refuse
      pure (t.add names)
    else pure t
  if schema then return t.add (← schemaColumns g) else withTableEnd g ok asColumn t

/-- A table: a name, a query, rows written out, or the elements of a list. That of a `schema` may
have columns behind it and no alias; the alias of another by its name is a word that `ok` admits. -/
def tableWhere (g : Grammar) (schema : Bool) (ok : Token → Bool) : Reader Tree := do
  let elements : Reader (Option Tree) := do
    let found ← unnest? g
    if found.isSome then tableAlias g
    return found
  let query : Reader (Option Tree) := do
    match ← g.query false true true with
    | some q => return some (q.add (← pivots g))
    | none => return none
  match ← firstOf [stream? g, lateral? g, elements, rows? g, query] with
  | some t => return t
  | none => namedTable g schema ok

/-- A table, with any alias that can be one. -/
def table (g : Grammar) (schema : Bool) : Reader Tree := tableWhere g schema isTableAlias

/-! ## Joins -/

/-- The columns by which tables are joined, which are no columns here. -/
def joinNames (g : Grammar) : Reader (List Tree) := maybeWrapped do
  let items ← commaList g.column
  return items.map fun t => match t.shape with
    | .column _ _ => .group t.parts
    | _ => t

/-- The condition of a join, which may lack its expression; nothing when there is no condition. -/
def joinCondition? (g : Grammar) : Reader (Option (List Tree)) := do
  if ← accept "ON" then return some (← g.disjunction).toList
  else if ← accept "USING" then return some (← joinNames g)
  else return none

/-- The words before `JOIN`: whether it takes a condition of its own. Nothing when no join begins
here. -/
def joinKind? : Reader (Option Bool) := do
  let start ← get
  let method ← acceptAny ["ASOF", "NATURAL"]
  let _ ← acceptAny ["LEFT", "RIGHT", "FULL"]
  let kind ← acceptAny ["ANTI", "CROSS", "INNER", "OUTER", "SEMI", "STRAIGHT_JOIN"]
  let _ ← acceptWords ["DIRECTED"]
  if ← accept "JOIN" then return some (method.isNone && kind ≠ some "CROSS")
  else if kind == some "STRAIGHT_JOIN" then return some method.isNone
  else
    set start
    return none

/-- One further table, joined by a comma or by `JOIN` with its condition. A comma with no table
after it is passed over. A join whose condition follows only after further joins has these inside
it; they are read up to a given depth. A word that `ok` admits may be an alias. -/
def join? (g : Grammar) (ok : Token → Bool) : Nat → Reader (Option Tree)
  | 0 => refuse
  | depth + 1 => do
    if ← accept "," then
      return (← attempt do return some (← tableWhere g false ok)).map fun t => .group [t]
    let kind ← joinKind?
    let applies := ["CROSS", "OUTER"].contains (← here) && (← ahead) == "APPLY"
    if kind.isNone && !applies then return none
    let t ← tableWhere g false ok
    let inner ← match ← joinCondition? g with
      | some condition => pure condition
      | none =>
        if kind == some true && !applies && t.shape ≠ .call "UNNEST" true then do
          let start ← get
          let joins ← many (join? g ok depth)
          match joins, ← if joins.isEmpty then pure none else joinCondition? g with
          | _ :: _, some condition => pure (joins ++ condition)
          | _, _ =>
            set start
            pure []
        else pure []
    return some (.group (t :: inner ++ (← pivots g)))

/-- The tables joined to the first, whose aliases are words that `ok` admits. -/
def joinsWhere (g : Grammar) (ok : Token → Bool) : Reader (List Tree) := do
  many (join? g ok ((← get).rest.length + 1))

/-- The tables joined to the first, with any aliases that can be ones. -/
def joins (g : Grammar) : Reader (List Tree) := joinsWhere g isTableAlias

end Source

end RowGuard.Sql
