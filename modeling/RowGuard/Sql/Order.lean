import RowGuard.Sql.Grammar

/-!
# Order and number of rows

What rows are sorted by, and how many of them are given. Queries have these as clauses; the
arguments of a function and the rows of a window may have them too.
-/

namespace RowGuard.Sql

namespace Expression

open Reader

/-! ## Order -/

/-- A name with a value for it, or either. -/
def nameWithValue (g : Grammar) : Reader (Option Tree) := do
  let n ← anyName g
  match ← after "AS" g.disjunction with
  | some t => return some t
  | none => return n.map Name.tree

/-- How gaps between rows are filled, its words passed. -/
def filling (g : Grammar) : Reader (List Tree) := do
  let start ← after "FROM" g.bitwise
  let stop ← if ← acceptWords ["TO"] then g.bitwise else pure none
  let width ← if ← acceptWords ["STEP"] then g.bitwise else pure none
  let columns ←
    if ← acceptWords ["INTERPOLATE"] then
      if (← here) == "(" then wrapped (commaList (nameWithValue g)) else pure []
    else pure []
  return start.toList ++ stop.toList ++ width.toList ++ columns

/-- What rows are sorted by first, or next. -/
def ordered (g : Grammar) : Reader (Option Tree) := do
  match ← g.disjunction with
  | none => return none
  | some t =>
    let _ ← accept "ASC"
    let _ ← accept "DESC"
    let _ ← acceptWords ["NULLS", "FIRST"]
    let _ ← acceptWords ["NULLS", "LAST"]
    if ← acceptWords ["WITH", "FILL"] then return some (.group (t :: (← filling g)))
    return some (.group [t])

/-- What rows are sorted or spread by, which may not be empty. -/
def sorting (g : Grammar) : Reader (List Tree) := do
  match ← commaList (ordered g) with
  | [] => refuse
  | items => return items

/-- An `ORDER BY` with what it sorts by. -/
def order? (g : Grammar) : Reader (Option (List Tree)) := do
  if ← accept "ORDER BY" then return some (← sorting g) else return none

/-! ## Number of rows -/

/-- What may stand behind a number of rows: that it is a percentage, that it counts rows, and
whether rows equal to the last are given too. -/
def limitOptions : Reader Unit := do
  let _ ← acceptAny ["PERCENT", "MOD"]
  let _ ← acceptAny ["ROW", "ROWS"]
  let _ ← acceptWords ["ONLY"]
  let _ ← acceptWords ["WITH", "TIES"]

/-- What the number of rows counts for. -/
def limitGroups (g : Grammar) : Reader (List Tree) := do
  if ← acceptWords ["BY"] then commaList g.bitwise else return []

/-- A number of rows to give, and of rows to leave out before them. -/
structure Limit where
  count : List Tree
  skipped : Option Tree := none

/-- How many rows to give, the keyword passed. A percentage is no remainder. -/
def limit (g : Grammar) : Reader Limit := do
  let start ← get
  let first ← match ← attempt g.term with
    | some t =>
      if t.shape == .remainder then do
        set start
        need g.factor
      else pure t
    | none => need g.factor
  limitOptions
  let second ← if ← accept "," then do pure (some (← need g.term)) else pure none
  let groups ← limitGroups g
  match second with
  | some count => return ⟨count :: groups, some first⟩
  | none => return ⟨first :: groups, none⟩

/-- How many rows to give in the long form, the keyword passed. The number may be missing. -/
def fetch (g : Grammar) : Reader Limit := do
  let _ ← acceptAny ["FIRST", "NEXT"]
  let isCount (t : Token) : Bool := isName t && !(["ROW", "ROWS", "PERCENT"].contains t.key)
  let count ← firstOf
    [g.primary, g.function, do return (← nameWhere g isCount).map Name.tree]
  limitOptions
  return ⟨count.toList, none⟩

/-- How many rows to leave out, the keyword passed. -/
def offset (g : Grammar) : Reader (List Tree) := do
  let count ← need g.term
  let _ ← acceptAny ["ROW", "ROWS"]
  return count :: (← limitGroups g)

/-- Whether a limit or an offset begins here, so that the word is no alias. -/
def isAtLimit (g : Grammar) : Reader Bool := do
  match ← here with
  | "LIMIT" => isAhead do advance; return some (← limit g)
  | "OFFSET" => isAhead do advance; return some (← offset g)
  | _ => return false

/-! ## Aliases -/

/-- An expression with its alias, if one follows. Where only `AS` may introduce one, `explicit` is
set. -/
def withAlias (g : Grammar) (explicit : Bool) (t : Option Tree) : Reader (Option Tree) := do
  if ← isAtLimit g then return t
  let marked ← accept "AS"
  if explicit && !marked then return t
  let aliasName := if marked then anyName g else name g
  if ← accept "(" then
    let names ← commaList aliasName
    expect ")"
    match t, names with
    | some t, _ :: _ => return some (.group [t])
    | _, _ => refuse
  let named ← match ← aliasName with
    | some n => pure (some n)
    | none => stringName
  match named, t with
  | none, _ => return t
  | some n, some t => return some (.node (.alias n.text) [t, n.tree])
  | some _, none => refuse

/-- An expression where an alias may follow. -/
def aliased (g : Grammar) : Reader (Option Tree) := do withAlias g false (← g.assignment)

end Expression

end RowGuard.Sql
