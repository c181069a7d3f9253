/-!
# Tables of character ranges

A property of characters is kept as an ascending list of closed ranges of code points. A search
stops at the first range that begins above the code point asked for.
-/

namespace RowGuard.Text

/-- Whether `n` lies in one of the ranges of an ascending table. -/
def inRanges (n : Nat) : List (Nat × Nat) → Bool
  | [] => false
  | (first, last) :: rest => if n < first then false else n ≤ last || inRanges n rest

/-- A run of code points, every `step`th from `first` to `last`, sent to the run that starts at
`image` and advances by the same step. -/
structure Shift where
  first : Nat
  last : Nat
  step : Nat
  image : Nat

/-- Where an ascending table of shifts sends `n`; a code point in no run stays. -/
def Shift.apply (n : Nat) : List Shift → Nat
  | [] => n
  | s :: rest =>
    if n < s.first then n
    else if n ≤ s.last && (n - s.first) % s.step == 0 then s.image + (n - s.first)
    else Shift.apply n rest

end RowGuard.Text
