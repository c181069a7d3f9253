import RowGuard.Environment.Variables

/-!
# Placeholders

A settings file may refer to a variable as `$` and the name in braces. A text is split into what
stands between placeholders and their names, from left to right; the values are put in once and not
looked at again.
-/

namespace RowGuard.Placeholder

/-- A piece of a text. -/
inductive Piece where
  | literal (c : Char)
  | name (n : List Char)
  deriving DecidableEq, Repr

/-- The name of the placeholder behind an opening brace, and what follows it. A name has at least
one character and ends at the first closing brace. -/
def name? (text : List Char) : Option (List Char × List Char) :=
  let name := text.takeWhile (· ≠ '}')
  match text.dropWhile (· ≠ '}') with
  | [] => none
  | _ :: rest => if name.isEmpty then none else some (name, rest)

/-- The text behind what opens a placeholder. -/
def opening? : List Char → Option (List Char)
  | '$' :: '{' :: rest => some rest
  | _ => none

/-- The pieces of a text, of which at most `fuel` are looked for. -/
def piecesFrom : Nat → List Char → List Piece
  | 0, _ => []
  | _, [] => []
  | fuel + 1, c :: rest =>
    match (opening? (c :: rest)).bind name? with
    | some (name, rest) => .name name :: piecesFrom fuel rest
    | none => .literal c :: piecesFrom fuel rest

/-- The pieces of a text. -/
def pieces (text : List Char) : List Piece := piecesFrom text.length text

/-- The text of pieces, with the values of variables in place of their names. The first variable
that is not set is the error. -/
def fill (vars : Variables) : List Piece → Except String (List Char)
  | [] => .ok []
  | .literal c :: rest => do return c :: (← fill vars rest)
  | .name n :: rest =>
    match vars.get? (String.ofList n) with
    | none => .error (String.ofList n)
    | some value => do return value.toList ++ (← fill vars rest)

/-- A text with the values of variables in place of its placeholders. -/
def substitute (vars : Variables) (text : List Char) : Except String (List Char) :=
  fill vars (pieces text)

end RowGuard.Placeholder
