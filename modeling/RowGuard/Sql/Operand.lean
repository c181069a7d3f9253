import RowGuard.Sql.Call

/-!
# What stands between operators

Literals, columns with what is picked out of them, calls, parentheses, intervals, and values with
the type that is named before them.
-/

namespace RowGuard.Sql

namespace Expression

open Reader

/-! ## Literals -/

/-- A string. Strings side by side are joined by a call. -/
def strings (first : String) : Reader Tree := do
  let more ← many (acceptKind .string)
  return if more.isEmpty then .node (.text first) [] else call "CONCAT" []

/-- Columns that a star does without, or shows in another way. -/
def starColumns (g : Grammar) (words : List String) : Reader (List Tree) := do
  match ← acceptAnyWord words with
  | none => return []
  | some _ =>
    let item := do withAlias g true (← g.assignment)
    if (← here) == "(" then wrapped (commaList item) else return (← item).toList

/-- A star, which is passed, with the columns it changes. -/
def star (g : Grammar) : Reader Tree := do
  if (← hereWord) == "COLUMNS" && (← ahead) == "(" then
    return .group (← function g false true).toList
  if ← accept "ILIKE" then
    let _ ← string g
  let left ← starColumns g ["EXCEPT", "EXCLUDE"]
  let replaced ← starColumns g ["REPLACE"]
  let renamed ← starColumns g ["RENAME"]
  return .node .star (left ++ replaced ++ renamed)

/-- A variable of the session, its mark passed. -/
def sessionVariable (g : Grammar) : Reader Tree := do
  let part (own : Reader (Option Name)) : Reader (Option Tree) := do
    match ← own with
    | some n => return some n.tree
    | none => g.primary
  let first ← need (part (anyName g))
  if ← accept "." then return .group [← need (part (plainWord g))] else return .group [first]

/-! ## Parentheses -/

/-- A query or expressions in parentheses, the opening one passed. A query stands for all that is in
the parentheses. -/
def inParentheses (g : Grammar) : Reader Tree := do
  let items ← match ← g.query false false true with
    | some q => pure [q]
    | none => commaList (aliased g)
  match items with
  | [] =>
    expect ")"
    return .group []
  | first :: more =>
    let first ← g.clauses first
    let single := more.isEmpty && (← behind) ≠ ","
    let inner ← match first.shape with
      | .query .select _ | .query .combined _ =>
        pure (Tree.node (.query .parenthesised []) [first])
      | .query .parenthesised _ | .query .rows _ => do
        pure (Tree.node (.query .parenthesised []) [← g.clauses (← g.unions first)])
      | _ => pure (.group items)
    expect ")"
    match first.shape with
    | .call function true =>
      if single && Function.aggregates.contains function then withWindow g inner else return inner
    | _ => return inner

/-- A literal, a star, or something in parentheses. -/
def primary (g : Grammar) : Reader (Option Tree) := do
  match ← peek with
  | none => return none
  | some t =>
    match t.kind, t.key with
    | .string, _ => advance; return some (← strings t.text)
    | .number, _ => advance; return some (.node (.number t.text) [])
    | .national, _ | .bits, _ => advance; return some (.group [])
    | .introducer, _ => advance; return some (around (← g.primary))
    | _, "NULL" => advance; return some (.node .null [])
    | _, "TRUE" | _, "FALSE" => advance; return some (.group [])
    | _, "@@" => advance; return some (← sessionVariable g)
    | _, "*" => advance; return some (← star g)
    | _, "(" => advance; return some (← inParentheses g)
    | _, "." =>
      match (← get).rest[1]? with
      | some n =>
        if n.kind == .number then
          advance; advance
          return some (.node (.number s!"0.{n.text}") [])
        else return none
      | none => return none
    | _, _ => return none

/-- A literal, a call or a name; a name by itself is a column. -/
def reference (g : Grammar) : Reader (Option Tree) := do
  firstOf [primary g, function g false true, do
    match ← name g with
    | some (.name n quoted) => return some (.node (.column [n] (!quoted)) [])
    | some (.hole t _) => return some t
    | none => return none]

/-! ## Elements -/

/-- A value or a range of places between brackets. -/
def element? (g : Grammar) : Reader (Option Tree) := do
  let key ← withAlias g true (← g.assignment)
  if !(← accept ":") then return key
  let value ←
    if ← acceptPair "-" ":" then do
      stepBack
      pure (some (Tree.node (.number "-1") []))
    else g.assignment
  let step ← after ":" g.unary
  return some (.node (.slice key.isSome value.isSome) (key.toList ++ value.toList ++ step.toList))

/-- Names with a mark between braces that stand for dates and times. -/
def markedTimes : List String := ["D", "T", "TS"]

/-- Elements between brackets, the opening one passed. Behind a value they pick something out of
it; without one, or behind a name that says so, they make a list. -/
def inBrackets (g : Grammar) (t : Option Tree) : Reader (Tree × Bool) := do
  let items ← commaList (element? g)
  expect "]"
  match t with
  | none => return (call "ARRAY" items, true)
  | some t =>
    if ["ARRAY", "LIST"].map String.toList |>.contains (Text.upper t.name.toList) then
      return (call "ARRAY" items, false)
    if items.isEmpty then refuse
    return (.group (t :: items), true)

/-- A structure between braces, the opening one passed. -/
def inBraces (g : Grammar) : Reader (Tree × Bool) := do
  if (← isKind .word) && markedTimes.contains (← hereWord) then
    advance
    let _ ← string g
    expect "\x7d"
    return (call "DATE" [], false)
  let items ← commaList (element? g)
  expect "\x7d"
  return (call "STRUCT" (← items.mapM entry), true)

/-- A value with the elements picked out of it. A structure in braces stands for itself, whatever is
before it. -/
def withElements (g : Grammar) (t : Option Tree) : Reader (Option Tree) := do
  let step (state : Option Tree × Bool) : Reader (Option (Option Tree × Bool)) := do
    if !state.2 then return none
    match ← acceptAny ["[", "\x7b"] with
    | none => return none
    | some mark =>
      let (t, more) ← if mark == "[" then inBrackets g state.1 else inBraces g
      return some (some t, more)
  return (← iterate step (t, true)).1

/-! ## What is picked out -/

/-- What follows a period: a call, a literal, or a name of any kind. -/
def member (g : Grammar) : Reader (Option (Tree ⊕ Name)) := do
  match ← function g true true with
  | some t => return some (.inl t)
  | none =>
    match ← primary g with
    | some t => return some (.inl t)
    | none => return (← anyName g).map Sum.inr

/-- Something picked out of a column or value by what follows the period. A call with qualifiers has
no columns among them. -/
def withMember (t : Tree) (m : Tree ⊕ Name) : Tree :=
  let (name, content, isCall) := match m with
    | .inl m => (m.name, [m], m.isCall)
    | .inr (.name n _) => (n, [], false)
    | .inr (.hole content _) => ("", [content], false)
  match t.shape with
  | .column path _ =>
    if isCall then .node (.member name) (t.asQualifier :: content)
    else if path.length < 4 then
      .node (.column (path ++ [name]) false) (t.parts ++ content)
    else .node (.member name) (t :: content)
  | _ => .node (.member name) ((if isCall then t.asQualifier else t) :: content)

mutual

/-- One operator behind a column or value: a period, a path into a document, or a conversion. -/
def columnOperator (g : Grammar) : Nat → Tree → Reader (Option Tree)
  | 0, _ => return none
  | depth + 1, t => do
    match ← acceptAny [".", "::", "->", "->>", "#>", "#>>", "?"] with
    | none => return none
    | some "." =>
      let next := withMember t (← need (member g))
      withElements g (some next)
    | some "::" =>
      let type ← need (g.dataType false false)
      withElements g (some (call "CAST" [t, type]))
    | some op =>
      let key ← need (firstOf [reference g, g.bitwise])
      let key ← match key.shape with
        | .column _ _ =>
          if (← here) == "." then withOperatorsWithin g depth key else pure key
        | _ => pure key
      let key ← if op == "->" || op == "->>" then asPath key else pure key
      let t := if key.isCall then t.asQualifier else t
      withElements g (some (call "JSON_EXTRACT" [t, key]))

/-- A column or value with the operators behind it, nested at most so deep. -/
def withOperatorsWithin (g : Grammar) : Nat → Tree → Reader Tree
  | 0, t => return t
  | depth + 1, t => do
    iterate (columnOperator g depth) ((← withElements g (some t)).getD t)

end

/-- A column or value with the operators behind it. -/
def withOperators (g : Grammar) (t : Tree) : Reader Tree := do
  withOperatorsWithin g (2 * (← get).rest.length + 2) t

/-- A column or value, or a list or structure. -/
def column (g : Grammar) : Reader (Option Tree) := do
  match ← reference g with
  | some t => return some (← withOperators g t)
  | none => withElements g none

/-! ## Values with types -/

/-- A value of a type whose name stands before it, or a type that stands for itself. -/
def typed (g : Grammar) : Reader (Option Tree) := do
  let start ← get
  match ← g.dataType true false with
  | none => return none
  | some type =>
    match type.shape with
    | .dataType _ =>
      let behindType ← get
      match ← primary g with
      | some literal =>
        match literal.shape with
        | .text _ | .number _ => return some (call "CAST" [← withOperators g literal, type])
        | _ => pure ()
      | none => pure ()
      if !type.parts.isEmpty && start.passed.length + 1 < behindType.passed.length then
        set behindType
        return some (← withOperators g type)
      set start
      return none
    | _ => return some (← withOperators g type)

/-! ## Intervals -/

/-- How many amounts with units an interval's text has. -/
def amountCount : List Char → Nat
  | [] => 0
  | c :: rest =>
    let unit := (rest.dropWhile Text.isBlank).head?
    (if c.isDigit && unit.any Char.isAlpha then 1 else 0) + amountCount rest

/-- A unit of time. -/
def timeUnit (g : Grammar) : Reader (Option Tree) := do
  match ← function g false true with
  | some t => return some t.asUnit
  | none =>
    if (← here) == "AS" || (← isKind .number) then return none
    else return (← anyWord g).map Name.tree

/-- One interval, its keyword passed: an amount and a unit. A text may have the unit in it, so that
the word behind it is none. -/
def oneInterval (g : Grammar) : Reader (Option Tree) := do
  let amount ← if ← isKind .string then primary g else g.term
  match amount with
  | none => return none
  | some amount =>
    let next := (← peek).map fun t => String.ofList (Text.upper t.text.toList)
    match amount.shape with
    | .column [_] true =>
      if next.any fun word => !(Keyword.timeUnits.contains word) then return none
    | _ => pure ()
    let unit ← timeUnit g
    let inText := match amount.shape with
      | .text value => amountCount value.toList
      | _ => 0
    if inText ≠ 0 && unit.isSome then stepBack
    let unit := if inText = 0 then unit else if inText = 1 then some (.group []) else none
    if ← acceptWords ["TO"] then
      let first ← need (pure unit)
      let last ← match ← function g false true with
        | some t => pure t
        | none => do pure (← need (anyWord g)).tree
      return some (.node .interval [amount, .group [first, last]])
    else return some (.node .interval (amount :: unit.toList))

/-- An interval, or a sum of several of which only the first has the keyword. -/
def interval? (g : Grammar) : Reader (Option Tree) := do
  let start ← get
  if !(← accept "INTERVAL") then return none
  match ← oneInterval g with
  | none =>
    set start
    return none
  | some first =>
    let sum ← iterate (fun t => do
      let c ← get
      let _ ← accept "+"
      if (← isKind .string) || (← isKind .number) then
        return some (.group [t, ← need (oneInterval g)])
      else
        set c
        return none) first
    return some sum

/-! ## Operands -/

/-- An operand without sign. It may be an interval only if `intervals` says so. -/
def operand (g : Grammar) (intervals : Bool) : Reader (Option Tree) := do
  if (← here) == "BINARY" then
    match ← g.dataType true false with
    | some type => return some (call "CAST" [← need (column g), type])
    | none => pure ()
  match ← if intervals then interval? g else pure none with
  | some t => return some (← withOperators g t)
  | none =>
    firstOf [typed g, do
      match ← column g with
      | some t => return some (← withOperators g t)
      | none => return none]

end Expression

end RowGuard.Sql
