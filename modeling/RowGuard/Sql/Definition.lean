import RowGuard.Sql.Grammar

/-!
# Definitions of columns

A column of a table is defined by its name, its type and what else holds of it.
-/

namespace RowGuard.Sql

namespace Expression

open Reader

/-- Something that holds of a column, with the expressions in it; nothing when none follows. -/
def columnConstraint (g : Grammar) : Reader (Option Tree) := do
  if ← accept "CONSTRAINT" then
    let _ ← anyName g
  match ← hereWord with
  | "AUTOINCREMENT" | "AUTO_INCREMENT" | "NULL" | "PRIMARY KEY" | "UNIQUE" =>
    advance
    return some (.group [])
  | "CHECK" =>
    advance
    return some (.group [← need (wrapped g.assignment)])
  | "COLLATE" =>
    advance
    return some (.group [← need g.column])
  | "COMMENT" | "PATH" =>
    advance
    return some (.group [← need (string g)])
  | "DEFAULT" =>
    advance
    return some (.group [← need g.bitwise])
  | "NOT" =>
    if ← acceptPair "NOT" "NULL" then return some (.group []) else return none
  | _ => return none

/-- The definition of a column behind its name. -/
def columnDefinition (g : Grammar) (own : Tree) : Reader Tree := do
  let type ← g.dataType false true
  if ← acceptWords ["FOR", "ORDINALITY"] then return .group [own]
  let value ←
    if ← accept "AS" then do pure (some (← need g.disjunction)) else pure none
  let constraints ← many (columnConstraint g)
  return .group (own :: type.toList ++ value.toList ++ constraints)

/-- The definition of a column, whose name may be any word. -/
def column? (g : Grammar) : Reader (Option Tree) := do
  match ← anyName g with
  | some own => return some (← columnDefinition g own.tree)
  | none => return none

end Expression

end RowGuard.Sql
