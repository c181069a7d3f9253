import RowGuard.Sql.Reader
import RowGuard.Sql.Tree

/-!
# What the grammar is made of

A construct may hold others of any kind. Where it does, it goes through a `Grammar`, which bounds
how deep constructs nest. With it come the parts that many constructs share: names, strings and
operands of one level.

Two rules run through the whole grammar. An operator with a missing operand refuses the statement. A
word that could begin a construct and does not lead to one is read as a name after all.
-/

namespace RowGuard.Sql

/-- What stands where a name is read. -/
inductive Name where
  | name (text : String) (quoted : Bool)
  /-- A place left open for a name, with what is in it and the text it goes by. -/
  | hole (content : Tree) (text : String)

/-- The text of a name. -/
def Name.text : Name → String
  | name text _ => text
  | hole _ text => text

/-- What a name is where it stands for itself. -/
def Name.tree : Name → Tree
  | name _ _ => .group []
  | hole content _ => content

/-- The readers for nested constructs. Each gives nothing when no such construct begins here. -/
structure Grammar where
  assignment : Reader (Option Tree)
  disjunction : Reader (Option Tree)
  equality : Reader (Option Tree)
  bitwise : Reader (Option Tree)
  term : Reader (Option Tree)
  factor : Reader (Option Tree)
  unary : Reader (Option Tree)
  /-- An operand without sign. It may be an interval only if `intervals` says so. -/
  operand (intervals : Bool) : Reader (Option Tree)
  /-- A literal, column or call, with what is picked out of it. -/
  column : Reader (Option Tree)
  /-- A literal, or something in parentheses. -/
  primary : Reader (Option Tree)
  /-- A function call. -/
  function : Reader (Option Tree)
  /-- A data type. Where it might be a `call` instead, a string has to follow its sizes; the columns
  of a table, a `schema`, may be lists of any size. -/
  dataType (call schema : Bool) : Reader (Option Tree)
  placeholder : Reader (Option Name)
  /-- A query. `wrapped` admits one in parentheses, `table` also a table in parentheses, and `more`
  whether unions may follow. -/
  query (wrapped table more : Bool) : Reader (Option Tree)
  /-- The clauses after a query's tables, added to it. -/
  clauses (query : Tree) : Reader Tree
  /-- The unions that follow a query. -/
  unions (query : Tree) : Reader Tree
  /-- A table. That of a `schema` may have columns behind it and no alias. -/
  table (schema : Bool) : Reader Tree
  statement : Reader (Option Tree)

namespace Expression

open Reader

/-- A node around what is there. -/
def around (t : Option Tree) : Tree := .group t.toList

/-- Operands joined by operators of one level, from left to right. `combine` makes a node of the
operator and both operands. -/
def chainWith (operators : List String) (combine : String → Tree → Tree → Tree)
    (operand : Reader (Option Tree)) : Reader (Option Tree) := do
  let first ← operand
  iterate (fun left => do
    match ← acceptAny operators with
    | none => return none
    | some op =>
      match left, ← operand with
      | some l, some r => return some (some (combine op l r))
      | _, _ => refuse) first

/-- Operands joined by operators of one level that need not be told apart. -/
def chain (operators : List String) (operand : Reader (Option Tree)) : Reader (Option Tree) :=
  chainWith operators (fun _ l r => .group [l, r]) operand

/-! ## Names -/

/-- A name in backquotes or a place left open for one. -/
def quotedName (g : Grammar) : Reader (Option Name) := do
  match ← acceptKind .quotedName with
  | some t => return some (.name t.text true)
  | none => g.placeholder

/-- A name in backquotes, a place left open, or a token that `ok` admits. -/
def nameWhere (g : Grammar) (ok : Token → Bool) : Reader (Option Name) := do
  match ← quotedName g with
  | some n => return some n
  | none =>
    match ← peek with
    | some t =>
      if ok t then advance; return some (.name t.text (t.kind == .string)) else return none
    | none => return none

/-- A name. -/
def name (g : Grammar) : Reader (Option Name) := nameWhere g isName

/-- A name or any other token that is no punctuation. -/
def anyName (g : Grammar) : Reader (Option Name) := nameWhere g fun t => isAny t || isName t

/-- A single word in the place of a variable: one that `ok` admits or a place left open. -/
def variableWhere (g : Grammar) (ok : Token → Bool) : Reader (Option Name) := do
  match ← peek with
  | some t => if ok t then advance; return some (.name t.text false) else g.placeholder
  | none => return none

/-- A word that is no keyword. -/
def plainWord (g : Grammar) : Reader (Option Name) := variableWhere g (·.kind == .word)

/-- Any token that is no punctuation. -/
def anyWord (g : Grammar) : Reader (Option Name) := variableWhere g isAny

/-- Names in parentheses. -/
def nameList (g : Grammar) : Reader Unit := wrapped do
  let _ ← commaList (anyName g)

/-- A literal, a call or a name that is no column. -/
def anyField (g : Grammar) : Reader (Option Tree) :=
  firstOf [g.primary, g.function, do return (← name g).map Name.tree]

/-! ## Strings -/

/-- A string where a name is read. -/
def stringName : Reader (Option Name) := do
  return (← acceptKind .string).map fun t => .name t.text true

/-- A single string or a place left open for one. -/
def string (g : Grammar) : Reader (Option Tree) := do
  match ← peek with
  | none => return none
  | some t =>
    match t.kind with
    | .string => advance; return some (.node (.text t.text) [])
    | .national => advance; return some (.group [])
    | _ => return (← g.placeholder).map Name.tree

/-- A single number or a place left open for one. -/
def number (g : Grammar) : Reader (Option Tree) := do
  match ← peek with
  | none => return none
  | some t =>
    match t.kind with
    | .number => advance; return some (.node (.number t.text) [])
    | .bits => advance; return some (.group [])
    | _ => return (← g.placeholder).map Name.tree

/-- A place left open for a value: a question mark, or a name behind a colon or an at sign. What
stands behind an at sign may be any literal as well. -/
def placeholder (g : Grammar) : Reader (Option Name) := do
  match ← here with
  | "?" => advance; return some (.hole (.group []) "")
  | "@" =>
    advance
    match ← quotedName g with
    | some n => return some (.hole n.tree n.text)
    | none =>
      match ← g.primary with
      | some t => return some (.hole t t.name)
      | none =>
        let n ← need (anyWord g)
        return some (.hole n.tree n.text)
  | ":" =>
    match (← get).rest[1]? with
    | some t =>
      if t.kind == .number || isName t then
        advance; advance
        return some (.hole (.group []) t.text)
      else return none
    | none => return none
  | _ => return none

end Expression

end RowGuard.Sql
