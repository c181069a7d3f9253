import RowGuard.Sql.Order

/-!
# Windows

The rows that a function call ranges over: those it keeps, their groups, their order, and how far
the window reaches around each row.
-/

namespace RowGuard.Sql

namespace Expression

open Reader

/-- Whether a token can be the name of another window at the front of one. -/
def isWindowName (t : Token) : Bool := isName t && !(["RANGE", "ROWS"].contains t.key)

/-- One end of a window. -/
def frameEnd (g : Grammar) : Reader (List Tree) := do
  let _ ← accept "BETWEEN"
  let bound ←
    if ← acceptWords ["UNBOUNDED"] then pure none
    else if ← acceptWords ["CURRENT", "ROW"] then pure none
    else g.bitwise
  let _ ← acceptAnyWord ["FOLLOWING", "PRECEDING"]
  return bound.toList

/-- The rows that a window leaves out, the keyword passed. -/
def exclusion : Reader Unit := do
  let forms := [["NO", "OTHERS"], ["CURRENT", "ROW"], ["GROUP"], ["TIES"]]
  unless ← atEnd do
    unless ← forms.anyM acceptWords do refuse

/-- How far a window reaches. -/
def frame (g : Grammar) : Reader (List Tree) := do
  match ← acceptAny ["ROWS", "RANGE"] with
  | none => return []
  | some _ =>
    let _ ← accept "BETWEEN"
    let first ← frameEnd g
    let last ← if ← accept "AND" then frameEnd g else pure []
    if ← acceptWords ["EXCLUDE"] then exclusion
    return first ++ last

/-- A window, its opening parenthesis passed. -/
def windowBody (g : Grammar) : Reader (List Tree) := do
  let other ← nameWhere g isWindowName
  let _ ← accept "FIRST"
  let _ ← acceptWords ["LAST"]
  let groups ← if ← accept "PARTITION BY" then commaList g.disjunction else pure []
  let order ← order? g
  let frame ← frame g
  expect ")"
  return (other.map Name.tree).toList ++ groups ++ order.getD [] ++ frame

/-- A function call with the rows that it keeps and an order for them. -/
def withRows (g : Grammar) (call : Tree) : Reader Tree := do
  let call ←
    if ← acceptWords ["WITHIN", "GROUP"] then do
      let order ← wrapped (order? g)
      pure (.group (call :: order.getD []))
    else pure call
  let call ←
    if ← acceptPair "FILTER" "(" then do
      let _ ← accept "WHERE"
      let condition ← need g.disjunction
      expect ")"
      pure (.group [call, .node .filter [condition]])
    else pure call
  if ← acceptWords ["RESPECT", "NULLS"] then return .group [call] else return call

/-- A function call with the rows and the windows that it ranges over. -/
def withWindow (g : Grammar) (call : Tree) : Reader Tree := do
  let step (state : Tree × Bool) : Reader (Option (Tree × Bool)) := do
    if state.2 then return none
    let t ← withRows g state.1
    if !(← accept "OVER") then return some (t, true)
    if ← accept "(" then
      let window := Tree.node .window (t :: (← windowBody g))
      return some (window, (← here) ≠ "OVER")
    else
      let other ← name g
      return some (.node .window (t :: (other.map Name.tree).toList), true)
  return (← iterate step (call, false)).1

/-- A window with a name of its own. It may also go by the name of another. -/
def namedWindow (g : Grammar) : Reader (Option Tree) := do
  let own ← need (anyName g)
  let t ← withRows g own.tree
  let _ ← accept "AS"
  if ← accept "(" then
    let window := Tree.node .window (t :: (← windowBody g))
    if (← here) == "OVER" then return some (← withWindow g window) else return some window
  else
    let other ← name g
    return some (.node .window (t :: (other.map Name.tree).toList))

end Expression

end RowGuard.Sql
