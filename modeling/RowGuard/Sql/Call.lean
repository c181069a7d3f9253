import RowGuard.Sql.Form
import RowGuard.Sql.Function

/-!
# Function calls

Calls of functions, with the rows and windows that they range over, and the choices that stand
without parentheses. A call of a known function has to have arguments that the function takes; any
other function takes what it is given.
-/

namespace RowGuard.Sql

namespace Expression

open Reader

/-! ## Known functions -/

/-- Functions whose second argument is a path into the first. -/
def pathFunctions : List String :=
  ["JSON_EXTRACT", "JSON_EXTRACT_PATH_TEXT", "JSON_EXTRACT_SCALAR", "JSON_KEYS"]

/-- A key with its value: the key is no column. A comparison between two parts counts as such a
pair. -/
def entry (t : Tree) : Reader Tree := do
  match t.shape, t.parts with
  | .alias _, value :: _ => return .group [value]
  | .equation, _ :: value => return .group value
  | .assignment, key :: value =>
    match key.shape with
    | .column _ _ => return .group (key.parts ++ value)
    | _ => return t
  | .slice false _, _ => throw (.fault .noSuchField)
  | .slice true false, _ => refuse
  | .slice true true, _ :: value :: _ => return .group [value]
  | _, _ => return t

/-- A call of a known function with the arguments that it uses. -/
def knownCall (function : String) (s : Function.Signature) (arguments : List Tree) :
    Reader Tree := do
  let checked : Reader (List Tree) := do
    if s.takes arguments.length then return s.select arguments else refuse
  match function, arguments with
  | "DATE_ADD", start :: amount :: _ | "DATE_SUB", start :: amount :: _ =>
    let _ ← checked
    if amount.shape == .interval then return call function (start :: amount.parts) else refuse
  | "DATE_ADD", _ | "DATE_SUB", _ => throw (.fault .noSuchField)
  | "TIMESTAMPADD", unit :: _ :: _ :: _ | "TIMESTAMPDIFF", unit :: _ :: _ :: _ =>
    return call function (unit.asUnit :: (← checked).drop 1)
  | "DATE_TRUNC", unit :: _ => return call function (unit.withoutName :: (← checked).drop 1)
  | _, _ =>
    let used ← checked
    match used with
    | document :: path :: rest =>
      if pathFunctions.contains function then
        return call function (document :: (← asPath path) :: rest)
    | _ => pure ()
    return call function used

/-- Functions that stand for an operator, with how many arguments they need and how many they
use. -/
def operatorFunctions : List (String × Nat × Nat) :=
  [("GLOB", 2, 2), ("ISNULL", 0, 1), ("LIKE", 2, 3), ("MOD", 2, 2), ("TO_DAYS", 0, 1)]

/-- A call of a function that is known and has no form of its own. -/
def knownCall? (function : String) (arguments : List Tree) : Reader (Option Tree) := do
  match operatorFunctions.find? (·.1 == function), Function.signature? function with
  | some (_, least, used), _ =>
    if arguments.length < least then refuse
    return some (.group (arguments.take used))
  | none, some s => return some (← knownCall function s arguments)
  | none, none => return none

/-! ## Choices -/

/-- A choice between cases, the first word passed. Before a period that word is a name. -/
def cases (g : Grammar) : Reader (Option Tree) := do
  if (← here) == "." then
    stepBack
    return none
  let subject ← g.disjunction
  let branches ← iterate (fun branches => do
    if ← accept "WHEN" then
      let condition ← need g.disjunction
      let _ ← accept "THEN"
      return some (branches ++ [condition, ← need g.disjunction])
    else return none) []
  let otherwise ← after "ELSE" g.disjunction
  let otherwise ←
    if ← accept "END" then pure otherwise
    else match otherwise.map Tree.shape, otherwise.map Tree.parts with
      -- an interval whose amount is the end of the choice is a column
      | some .interval, some [.node (.column [amount] true) _] =>
        if Text.upper amount.toList == "END".toList then
          pure (some (.node (.column ["interval"] true) []))
        else refuse
      | _, _ => refuse
  if branches.isEmpty then refuse
  return some (callOf "CASE" (subject :: branches.map some ++ [otherwise]))

/-- A choice between two values, the first word passed. A statement that begins with one is not
looked into. -/
def ifThen (g : Grammar) : Reader (Option Tree) := do
  if ← accept "(" then
    let parts ← commaList do withAlias g true (← g.assignment)
    if parts.length < 2 || 3 < parts.length then refuse
    expect ")"
    return some (call "IF" parts)
  else if (← here) == "[" then
    stepBack
    return none
  else if (← get).passed.length == 1 then
    skipAll
    return some (.group [])
  else match ← g.disjunction with
    | none =>
      stepBack
      return none
    | some condition =>
      let _ ← accept "THEN"
      let yes ← need g.disjunction
      let no ← after "ELSE" g.disjunction
      let _ ← accept "END"
      return some (callOf "IF" [some condition, some yes, no])

/-- The next value of a sequence, the first word passed. -/
def nextValue (g : Grammar) : Reader (Option Tree) := do
  if ← acceptWords ["VALUE", "FOR"] then
    let sequence ← need g.column
    let order ← if ← accept "OVER" then wrapped (order? g) else pure none
    return some (call "NEXT" (sequence :: order.getD []))
  else
    stepBack
    return none

/-- The reader for a construct that begins with a word and needs no parentheses. -/
def construct? (g : Grammar) (hasPrior : Bool) (word : String) : Option (Reader (Option Tree)) :=
  match word with
  | "ANY" => some do return some (.group [← need g.bitwise])
  | "CASE" => some (cases g)
  | "CONNECT_BY_ROOT" => some do return some (call word [← need g.column])
  | "IF" => some (ifThen g)
  | "NEXT" => some (nextValue g)
  | "PRIOR" => if hasPrior then some do return some (.group [← need g.bitwise]) else none
  | _ => none

/-! ## Calls -/

/-- Words that compare with all results of a query. -/
def quantifiers : List String := ["ALL", "ANY", "EXISTS", "SOME"]

/-- What a quantifier ranges over, its opening parenthesis passed: a query, or after `LIKE` an
expression. `before` is the key of the token before the quantifier. -/
def quantified? (g : Grammar) (before : String) : Reader (Option Tree) := do
  if ["SELECT", "WITH", "FROM"].contains (← here) then
    let q ← need (g.query false false true)
    expect ")"
    return some q
  else if before == "LIKE" || before == "ILIKE" then
    stepBack
    g.bitwise
  else return none

/-- A call with its arguments, the opening parenthesis passed. An anonymous function is never a
known one. -/
def callWith (g : Grammar) (t : Token) (anonymous : Bool) : Reader Tree := do
  let function := String.ofList (Text.upper t.text.toList)
  let form := if anonymous then none else form? g function
  match form with
  | some form =>
    let t ← form
    let _ ← accept ")"
    return t
  | none =>
    let known := !anonymous && ((Function.signature? function).isSome
      || operatorFunctions.any (·.1 == function))
    let items ← commaList (argument g (!known || function == "STRUCT"))
    let items ← if known && function == "STRUCT" then items.mapM entry else pure items
    let found ← if known then knownCall? function items else pure none
    expect ")"
    return found.getD (.node (.call t.text false) items)

/-- A call of the function that the next two tokens begin. -/
def namedCall (g : Grammar) (t : Token) (anonymous : Bool) : Reader Tree := do
  let before ← behind
  advance; advance
  if quantifiers.contains t.key then
    match ← quantified? g before with
    | some q => return if t.key == "EXISTS" then call "EXISTS" [q] else .group [q]
    | none => pure ()
  withWindow g (← callWith g t anonymous)

/-- A function call. Where `bare` is set, some functions stand without parentheses, but not after a
period. An `anonymous` function is never a known one, and any word may name it. -/
def call? (g : Grammar) (anonymous bare : Bool) : Reader (Option Tree) := do
  let c ← get
  match c.rest with
  | [] => return none
  | t :: _ =>
    let bare := bare && (← behind) ≠ "."
    let construct :=
      if bare && t.kind ≠ .quotedName && t.kind ≠ .string then construct? g c.hasPrior t.capitals
      else none
    match construct with
    | some read =>
      advance
      match ← read with
      | some t => return some (← withWindow g t)
      | none => return none
    | none =>
      if (← ahead) ≠ "(" then
        if bare && Keyword.bareFunctions.contains t.key then
          advance
          return some (call t.key [])
        else return none
      else if if anonymous then isAny t else isCallable t then
        return some (← namedCall g t anonymous)
      else return none

/-- A function call, which braces and a word may enclose. -/
def function (g : Grammar) (anonymous bare : Bool) : Reader (Option Tree) := do
  let second := (← get).rest[1]?.map fun t => Text.upper t.text.toList
  let enclosed := (← here) == "\x7b" && second == some "FN".toList
  if enclosed then advance; advance
  let t ← call? g anonymous bare
  if enclosed then
    let _ ← accept "\x7d"
  return t

end Expression

end RowGuard.Sql
