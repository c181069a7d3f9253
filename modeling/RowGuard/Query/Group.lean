/-!
# Parenthesised groups

A group runs from an opening parenthesis through the closing one that matches it, or to the end of
the text when none does. Only the nesting depth counts; quotes mean nothing here.
-/

namespace RowGuard.Query

/-- How many characters lead through the closing parenthesis that ends the group we stand in, with
`depth` further groups open inside it. -/
def closing? : Nat → List Char → Option Nat
  | _, [] => none
  | depth, '(' :: rest => (closing? (depth + 1) rest).map (· + 1)
  | 0, ')' :: _ => some 1
  | depth + 1, ')' :: rest => (closing? depth rest).map (· + 1)
  | depth, _ :: rest => (closing? depth rest).map (· + 1)

/-- What follows a group whose opening parenthesis has just been passed. -/
def afterGroup (rest : List Char) : List Char :=
  match closing? 0 rest with
  | some n => rest.drop n
  | none => []

theorem length_afterGroup_le (rest : List Char) : (afterGroup rest).length ≤ rest.length := by
  unfold afterGroup
  split <;> simp

/-- Why no group can be followed from a position. -/
inductive GroupError where
  /-- The text has no such position. -/
  | outOfRange
  /-- Another character than an opening parenthesis stands there. -/
  | notOpening (position : Int) (found : Char)
  deriving DecidableEq, Repr

/-- The position just past the group that opens at `start`, or the length of the text when the
group never closes. A negative `start` counts from the end; the walk then runs through the end of
the text and once more from its beginning. -/
def groupEnd (text : List Char) (start : Int) : Except GroupError Int :=
  let n : Int := text.length
  if start < -n || n ≤ start then .error .outOfRange
  else
    let walk := if 0 ≤ start then text.drop start.toNat else text.drop (n + start).toNat ++ text
    match walk with
    | [] => .error .outOfRange
    | c :: rest =>
      if c = '(' then
        match closing? 0 rest with
        | some k => .ok (start + 1 + k)
        | none => .ok n
      else .error (.notOpening start c)

end RowGuard.Query
