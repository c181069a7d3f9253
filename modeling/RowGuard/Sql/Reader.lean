import RowGuard.Fault
import RowGuard.Sql.Token

/-!
# Reading tokens

A reader takes tokens from the front of a statement or refuses the statement altogether. It can look
back at the tokens passed: some words mean something else after a period, and some constructs give
back a token that they took too early.
-/

namespace RowGuard.Sql

/-- A place in a statement: the tokens passed, the last one first, and those that follow. -/
structure Cursor where
  passed : List Token := []
  rest : List Token
  /-- Whether `PRIOR` is an operator here. -/
  hasPrior : Bool := false
  deriving Repr

/-- Why a statement is refused. -/
inductive Refusal where
  /-- The statement is not well-formed. -/
  | malformed
  /-- An argument is given an empty name. -/
  | nameless
  /-- A construct lacks a part without which it cannot even be judged. -/
  | fault (f : Fault)
  deriving DecidableEq, Repr

/-- Something read from a statement, unless the statement is refused. -/
abbrev Reader := StateT Cursor (Except Refusal)

namespace Reader

/-- Refuses the statement. -/
def refuse {α : Type} : Reader α := throw .malformed

/-! ## Looking -/

/-- The next token. -/
def peek : Reader (Option Token) := do return (← get).rest.head?

/-- The key of the next token, empty when it has none or there is no token. -/
def here : Reader String := do return ((← peek).map Token.key).getD ""

/-- The key of the token after the next. -/
def ahead : Reader String := do return ((← get).rest[1]?.map Token.key).getD ""

/-- The next token's text in capitals. -/
def hereWord : Reader String := do return ((← peek).map Token.capitals).getD ""

/-- The key of the token just passed. -/
def behind : Reader String := do return ((← get).passed.head?.map Token.key).getD ""

/-- Whether the next token is of a kind. -/
def isKind (kind : Kind) : Reader Bool := do return (← peek).map Token.kind == some kind

/-- Whether no token is left. -/
def atEnd : Reader Bool := do return (← get).rest.isEmpty

/-! ## Moving -/

/-- Passes over one token. -/
def advance : Reader Unit := modify fun c =>
  match c.rest with
  | t :: rest => { c with passed := t :: c.passed, rest := rest }
  | [] => c

/-- Goes back by one token. -/
def stepBack : Reader Unit := modify fun c =>
  match c.passed with
  | t :: passed => { c with passed := passed, rest := t :: c.rest }
  | [] => c

/-- Passes over all that is left of the statement. -/
def skipAll : Reader Unit := modify fun c =>
  { c with passed := c.rest.reverse ++ c.passed, rest := [] }

/-- Passes over the next token if it has the key. -/
def accept (key : String) : Reader Bool := do
  if (← here) == key then advance; return true else return false

/-- Passes over the next token if its key is in the list, and gives the key. -/
def acceptAny (keys : List String) : Reader (Option String) := do
  let key ← here
  if key ≠ "" && keys.contains key then advance; return some key else return none

/-- Passes over the next two tokens if they have these keys. -/
def acceptPair (first second : String) : Reader Bool := do
  if (← here) == first && (← ahead) == second then
    advance; advance
    return true
  else return false

/-- Passes over the next token if it is of a kind. -/
def acceptKind (kind : Kind) : Reader (Option Token) := do
  match ← peek with
  | some t => if t.kind == kind then advance; return some t else return none
  | none => return none

/-- Passes over the next tokens if these are their words, whatever kind of token they are. -/
def acceptWords (words : List String) : Reader Bool := do
  let c ← get
  if (c.rest.take words.length).map Token.capitals == words then
    words.forM fun _ => advance
    return true
  else return false

/-- Passes over the next token if its word is in the list, and gives the word. -/
def acceptAnyWord (words : List String) : Reader (Option String) := do
  let word ← hereWord
  if word ≠ "" && words.contains word then advance; return some word else return none

/-- Refuses the statement unless the next token has the key. -/
def expect (key : String) : Reader Unit := do
  unless ← accept key do refuse

/-! ## Combining -/

/-- Refuses the statement when something needed is missing. -/
def need {α : Type} (x : Reader (Option α)) : Reader α := do
  match ← x with
  | some a => return a
  | none => refuse

/-- Reads ahead and comes back when nothing was found or the statement turns out malformed. -/
def attempt {α : Type} (x : Reader (Option α)) : Reader (Option α) := fun c =>
  match x c with
  | .ok (some a, after) => .ok (some a, after)
  | .ok (none, _) | .error .malformed => .ok (none, c)
  | .error r => .error r

/-- Reads ahead and comes back in any case, with word of whether something was found. -/
def isAhead {α : Type} (x : Reader (Option α)) : Reader Bool := do
  let c ← get
  let found ← attempt x
  set c
  return found.isSome

/-- What is found by the first of several readers that finds something. -/
def firstOf {α : Type} : List (Reader (Option α)) → Reader (Option α)
  | [] => return none
  | x :: more => do
    match ← x with
    | some a => return some a
    | none => firstOf more

/-- Repeats a step, at most `fuel` times, while it goes on. -/
def repeatAtMost {α : Type} (step : α → Reader (Option α)) : Nat → α → Reader α
  | 0, a => return a
  | fuel + 1, a => do
    match ← step a with
    | some b => repeatAtMost step fuel b
    | none => return a

/-- Repeats a step that passes a token each time. -/
def iterate {α : Type} (step : α → Reader (Option α)) (a : α) : Reader α := do
  repeatAtMost step ((← get).rest.length + 1) a

/-- Items one after another. -/
def many {α : Type} (item : Reader (Option α)) : Reader (List α) :=
  iterate (fun items => do return (← item).map fun a => items ++ [a]) []

/-- Items between commas; an item may be missing. -/
def commaList {α : Type} (item : Reader (Option α)) : Reader (List α) := do
  let first ← item
  iterate (fun items => do
    if ← accept "," then return some (items ++ (← item).toList) else return none) first.toList

/-- Something in parentheses. -/
def wrapped {α : Type} (x : Reader α) : Reader α := do
  expect "("
  let a ← x
  expect ")"
  return a

/-- Something that may stand in parentheses. -/
def maybeWrapped {α : Type} (x : Reader α) : Reader α := do
  if (← here) == "(" then wrapped x else x

/-- Runs a reader after a keyword; without the keyword there is nothing. -/
def after {α : Type} (key : String) (x : Reader (Option α)) : Reader (Option α) := do
  if ← accept key then x else return none

/-! ## Classes of tokens -/

/-- Whether a token can be a name without quotes. -/
def isName (t : Token) : Bool :=
  match t.kind with
  | .word => true
  | .keyword key => key.toList.head?.any Char.isAlpha && !Keyword.notNames.contains key
  | _ => false

/-- Whether a token can be anything but punctuation or the beginning of a query. -/
def isAny (t : Token) : Bool := !Keyword.reserved.contains t.key

/-- Whether a token with a parenthesis behind it can be a function. -/
def isCallable (t : Token) : Bool :=
  match t.kind with
  | .quotedName => true
  | .keyword key =>
    if isName t then !Keyword.notCallable.contains key else Keyword.onlyCallable.contains key
  | _ => isName t

end Reader

end RowGuard.Sql
