/-!
# Finding one text in another
-/

namespace RowGuard.Text

/-- The first place where `pattern` stands in the text. -/
def indexOf? (pattern : List Char) : List Char → Option Nat
  | [] => if pattern.isEmpty then some 0 else none
  | c :: rest =>
    if pattern.isPrefixOf (c :: rest) then some 0 else (indexOf? pattern rest).map (· + 1)

/-- Whether `pattern` stands anywhere in the text. -/
def occursIn (pattern text : List Char) : Bool := (indexOf? pattern text).isSome

/-- The first `n` characters of a text; a negative `n` leaves out that many at the end. -/
def cut (n : Int) (text : List Char) : List Char :=
  if n < 0 then text.take (text.length - n.natAbs) else text.take n.toNat

/-- The parts of a text between the occurrences of a separator. There is always one part more than
there are separators. -/
def splitAll (sep : Char) : List Char → List (List Char)
  | [] => [[]]
  | c :: rest =>
    match splitAll sep rest with
    | part :: more => if c = sep then [] :: part :: more else (c :: part) :: more
    | [] => [[c]]

end RowGuard.Text
