import RowGuard.Sql.Window

/-!
# Arguments of functions

Arguments may be expressions, queries, inline functions and values with a name. An aggregate's
argument may say which rows it looks at and in what order.
-/

namespace RowGuard.Sql

namespace Expression

open Reader

/-- A call of a known function. -/
def call (function : String) (parts : List Tree) : Tree := .node (.call function true) parts

/-- A call of a known function that may lack arguments. -/
def callOf (function : String) (parts : List (Option Tree)) : Tree :=
  call function (parts.filterMap id)

/-! ## Arguments -/

/-- The names and the arrow that begin an inline function or a named argument. -/
def arrow? (g : Grammar) : Reader (Option (List (Option Name) × String)) := do
  let start ← get
  let names ←
    if ← accept "(" then do
      let names ← commaList (anyName g)
      if ← accept ")" then pure (some (names.map some)) else pure none
    else pure (some [← anyName g])
  match names, ← acceptAny ["->", "=>"] with
  | some names, some arrow => return some (names, arrow)
  | _, _ =>
    set start
    return none

/-- An inline function, its arrow passed. Its names are no columns in its body. -/
def inlineFunction (g : Grammar) (names : List (Option Name)) : Reader Tree := do
  let body ← need g.disjunction
  if names.isEmpty then refuse
  if names.any Option.isNone then throw (.fault .noSuchField)
  return .group [body.forget (names.filterMap fun n => n.map Name.text)]

/-- A named argument, its arrow passed. -/
def namedArgument (g : Grammar) (names : List (Option Name)) : Reader Tree := do
  match names with
  | [] => throw (.fault .tooShort)
  | none :: _ => throw (.fault .noSuchField)
  | some n :: _ =>
    if n.text.isEmpty then throw .nameless
    return .group [← need g.disjunction]

/-- A query, or an expression with the alias that `AS` gives it, where one may be given. -/
def queryOrExpression (g : Grammar) (withAs : Bool) : Reader (Option Tree) := do
  match ← g.query false false true with
  | some q => return some q
  | none =>
    let t ← g.assignment
    match ← (if withAs then withAlias g true t else pure t) with
    | some t => return some (← g.unions t)
    | none => return none

/-- What may stand behind an argument: how missing values count, and which rows are looked at. -/
def restricted (g : Grammar) (t : Option Tree) : Reader (Option Tree) := do
  let t ←
    if ← [["IGNORE", "NULLS"], ["RESPECT", "NULLS"]].anyM acceptWords then do
      pure (some (Tree.group [← need (pure t)]))
    else pure t
  if ← accept "HAVING" then
    let _ ← acceptAnyWord ["MAX", "MIN"]
    let column ← need g.column
    return some (.group [← need (pure t), column])
  else return t

/-- The number of rows that an argument looks at. Rows that are fetched stand for the argument. -/
def limited (g : Grammar) (t : Option Tree) : Reader (Option Tree) := do
  match ← acceptAny ["LIMIT", "FETCH"] with
  | some "LIMIT" =>
    let rows ← limit g
    return some (.group (t.toList ++ rows.skipped.toList ++ rows.count))
  | some _ => return some (.group (← fetch g).count)
  | none => return t

/-- One argument of a function. -/
def argument (g : Grammar) (withAs : Bool) : Reader (Option Tree) := do
  match ← arrow? g with
  | some (names, "->") => return some (← inlineFunction g names)
  | some (names, _) => return some (← namedArgument g names)
  | none =>
    let t ←
      if ← accept "DISTINCT" then do pure (some (.group (← commaList g.disjunction)))
      else do
        let _ ← accept "ALL"
        queryOrExpression g withAs
    let t ← restricted g t
    let t ← match ← order? g with
      | some items => pure (some (Tree.group (t.toList ++ items)))
      | none => pure t
    limited g t

/-- Arguments between commas. -/
def arguments (g : Grammar) : Reader (List Tree) := commaList (argument g false)

/-! ## Paths into documents -/

/-- Whether the marks in a path are closed. -/
def closesMarks : Nat → List Char → Bool
  | _, [] => true
  | 0, _ :: _ => true
  | fuel + 1, c :: rest =>
    if c = '\x27' || c = '\x22' then
      match Token.untilMark c (if c = '\x22' then ['\\', c] else ['\\']) rest with
      | some (_, rest) => closesMarks fuel rest
      | none => false
    else closesMarks fuel rest

/-- A path into a document, which is refused if its text does not end where its marks say. -/
def asPath (t : Tree) : Reader Tree := do
  match t.shape with
  | .text path => if closesMarks path.length path.toList then return t else refuse
  | _ => return t

end Expression

end RowGuard.Sql
