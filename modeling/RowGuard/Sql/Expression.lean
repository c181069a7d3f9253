import RowGuard.Sql.DataType

/-!
# Expressions

Expressions by falling precedence of their operators: assignment, `or`, `and`, equality, comparison,
ranges such as `in` and `between`, bit operators, sums, products and signs.
-/

namespace RowGuard.Sql

namespace Expression

open Reader

/-! ## Arithmetic -/

/-- An operand behind signs. A sign without an operand is none. -/
def unary (g : Grammar) : Reader (Option Tree) := do
  match ← acceptAny ["+", "-", "~", "NOT"] with
  | some "+" => g.unary
  | some "NOT" => return some (.group [← need g.equality])
  | some _ => return some (.group [← need g.unary])
  | none => operand g true

/-- A time moved to other zones, one after another. -/
def inZones (g : Grammar) (time : Option Tree) : Reader (Option Tree) :=
  iterate (fun time => do
    if ← acceptWords ["AT", "TIME", "ZONE"] then
      return some (some (.group [← need (pure time), ← need (unary g)]))
    else return none) time

/-- Products. Only the first factor may be moved to another time zone. The word for a division is
left alone when no divisor follows. -/
def factor (g : Grammar) : Reader (Option Tree) := do
  let first ← inZones g (← unary g)
  let step (state : Option Tree × Bool) : Reader (Option (Option Tree × Bool)) := do
    if state.2 then return none
    match ← acceptAny ["*", "/", "DIV", "<->"] with
    | none => return none
    | some op =>
      let start ← get
      match ← unary g with
      | some r => return some (some (.group [← need (pure state.1), r]), false)
      | none =>
        if op ≠ "DIV" then refuse
        set start
        stepBack
        return some (state.1, true)
  return (← iterate step (first, false)).1

/-- Sums, remainders, and collations, whose name is no column. -/
def term (g : Grammar) : Reader (Option Tree) :=
  chainWith ["-", "+", "MOD", "COLLATE"]
    (fun op l r => match op with
      | "MOD" => .node .remainder [l, r]
      | "COLLATE" => call "COLLATE" [l, r.withoutName]
      | _ => .group [l, r]) (factor g)

/-- Passes over a bit operator. -/
def bitOperator : Reader Bool := do
  if (← acceptAny ["&", "|", "^"]).isSome then return true
  else if ← acceptPair "<" "<" then return true
  else acceptPair ">" ">"

/-- Bit operators, and a value to take instead of a missing one. -/
def bitwise (g : Grammar) : Reader (Option Tree) := do
  let first ← term g
  iterate (fun left => do
    if ← accept "??" then
      return some (some (call "COALESCE" ((← need (pure left)) :: (← term g).toList)))
    else if ← bitOperator then
      return some (some (.group [← need (pure left), ← need (term g)]))
    else return none) first

/-! ## Ranges -/

/-- A table made of the elements of a list, if it begins here. -/
def unnest? (g : Grammar) : Reader (Option Tree) := do
  if ← acceptPair "UNNEST" "(" then
    let items ← commaList g.equality
    expect ")"
    if items.isEmpty then refuse
    unless ← acceptPair "WITH" "ORDINALITY" do
      if ← acceptPair "WITH" "OFFSET" then
        let _ ← accept "AS"
        let _ ← name g
    return some (call "UNNEST" items)
  else return none

/-- What may stand after `IN`: a list's elements, values or a query in parentheses, or a column. -/
def membership (g : Grammar) (left : Tree) : Reader Tree := do
  match ← unnest? g with
  | some t => return .group [left, t]
  | none =>
    match ← acceptAny ["(", "["] with
    | some opening =>
      let items ← commaList (queryOrExpression g false)
      let items ← match items with
        | [q] =>
          if q.isQuery then do pure [Tree.node (.query .parenthesised []) [← g.clauses q]]
          else pure [q]
        | items => pure items
      expect (if opening == "(" then ")" else "]")
      return .group (left :: items)
    | none => return .group (left :: (← column g).toList)

/-- A missing or unknown value, or a place left open for a value. -/
def null? (g : Grammar) : Reader (Option Tree) := do
  match ← acceptAny ["NULL", "UNKNOWN"] with
  | some _ => return some (.node .null [])
  | none => return (← g.placeholder).map Name.tree

/-- What may stand after `IS`; nothing when none of it does. -/
def identity (g : Grammar) (left : Tree) : Reader (Option Tree) := do
  let _ ← accept "NOT"
  if ← acceptWords ["DISTINCT", "FROM"] then
    return some (.group [left, ← need (bitwise g)])
  if ← accept "JSON" then
    let _ ← acceptAnyWord ["ARRAY", "OBJECT", "SCALAR", "VALUE"]
    unless ← acceptWords ["WITH"] do
      let _ ← acceptWords ["WITHOUT"]
    let _ ← accept "UNIQUE"
    let _ ← acceptWords ["KEYS"]
    return some (← withOperators g (.group [left]))
  match ← null? g with
  | some right => return some (← withOperators g (.group [left, right]))
  | none =>
    match ← bitwise g with
    | some right => return some (← withOperators g (.group [left, right]))
    | none => return none

/-- An operator given by name, its keyword passed. There may be several. -/
def namedOperators (g : Grammar) (left : Tree) : Reader Tree := do
  let step (state : Tree × Bool) : Reader (Option (Tree × Bool)) := do
    if state.2 then return none
    if !(← accept "(") then return none
    let _ ← iterate (fun _ => do
      if (← atEnd) || (← here) == ")" then return none
      advance
      return some ()) ()
    let _ ← accept ")"
    let t := Tree.group [state.1, ← need (bitwise g)]
    return some (t, !(← accept "OPERATOR"))
  return (← iterate step (left, false)).1

/-- A list made from another, its keyword passed; nothing when it turns out to be none. -/
def comprehension (g : Grammar) (left : Option Tree) : Reader (Option Tree) := do
  let item ← column g
  let place ← after "," (column g)
  if !(← accept "IN") then return none
  let list ← need (column g)
  let condition ← if ← acceptWords ["IF"] then g.disjunction else pure none
  return some (.group
    ([← need (pure left), ← need (pure item)] ++ place.toList ++ [list] ++ condition.toList))

/-- What turns a pattern's marks into plain characters. -/
def escape (g : Grammar) : Reader Unit := do
  if ← accept "ESCAPE" then
    match ← string g with
    | some _ => pure ()
    | none =>
      let _ ← need (null? g)

/-- A condition on the operand before it, whose first word has been passed; nothing when the word
leads to none. -/
def condition (g : Grammar) (word : String) (left : Tree) : Reader (Option Tree) := do
  match word with
  | "BETWEEN" =>
    unless ← acceptWords ["SYMMETRIC"] do
      let _ ← acceptWords ["ASYMMETRIC"]
    let low ← need (bitwise g)
    let _ ← accept "AND"
    return some (.group [left, low, ← need (bitwise g)])
  | "IN" => return some (← membership g left)
  | "IS" => identity g left
  | "OPERATOR" => return some (← namedOperators g left)
  | "MEMBER OF" => return some (call "MEMBER OF" [left, ← need (wrapped (aliased g))])
  | "SOUNDS LIKE" => return some (.group [left, ← need (term g)])
  | _ =>
    let right ← need (bitwise g)
    escape g
    return some (.group [left, right])

/-- The words that begin a condition on the operand before them. -/
def conditionWords : List String :=
  ["&<", "&>", "-|-", "BETWEEN", "FOR", "GLOB", "ILIKE", "IN", "IS", "LIKE", "MEMBER OF",
   "OPERATOR", "OVERLAPS", "RLIKE", "SIMILAR TO", "SOUNDS LIKE", "~*"]

/-- What may follow a condition: that a value is not missing, or another identity. -/
def rangeEnd (g : Grammar) (t : Option Tree) : Reader (Option Tree) := do
  let t ← if ← accept "NOTNULL" then do pure (some (.group [← need (pure t)])) else pure t
  if ← accept "IS" then
    return some (← need (identity g (← need (pure t))))
  else return t

/-- An operand with a condition on it. A `NOT` between them has to lead to a condition. -/
def range (g : Grammar) : Reader (Option Tree) := do
  let left ← bitwise g
  let negated ← accept "NOT"
  let start ← get
  match ← acceptAny conditionWords with
  | some word =>
    let found ←
      if word == "FOR" then comprehension g left else condition g word (← need (pure left))
    match found with
    | some t => rangeEnd g (some t)
    | none =>
      set start
      return left
  | none =>
    if ← accept "ISNULL" then rangeEnd g (some (.group [← need (pure left)]))
    else if negated then
      expect "NULL"
      rangeEnd g (some (.group [← need (pure left)]))
    else rangeEnd g left

/-! ## Conditions -/

/-- Comparisons by size. -/
def comparison (g : Grammar) : Reader (Option Tree) := chain [">", ">=", "<", "<="] (range g)

/-- Comparisons for equality. -/
def equality (g : Grammar) : Reader (Option Tree) :=
  chainWith ["=", "<>", "<=>"]
    (fun op l r => .node (if op == "=" then .equation else .other) [l, r]) (comparison g)

/-- Conditions that all have to hold. -/
def conjunction (g : Grammar) : Reader (Option Tree) := chain ["AND", "&&", "XOR"] (equality g)

/-- Conditions of which one has to hold. -/
def disjunction (g : Grammar) : Reader (Option Tree) := chain ["OR", "||"] (conjunction g)

/-- An expression, which may assign to a name; the name is then no column. Any single token may be
such a name. -/
def assignment (g : Grammar) : Reader (Option Tree) := do
  let left ← match ← disjunction g with
    | some t => pure (some t)
    | none =>
      if (← ahead) == ":=" then do
        advance
        pure (some (Tree.group []))
      else pure none
  iterate (fun left => do
    if ← accept ":=" then
      let target := (← need (pure left)).withoutName
      return some (some (.node .assignment [target, ← need g.assignment]))
    else return none) left

end Expression

end RowGuard.Sql
