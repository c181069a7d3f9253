import RowGuard.Text.Ranges

/-!
# Blanks and words

A blank is a Unicode space or separator, a line break, or one of the ASCII control characters that
separate fields. A word is a longest run without blanks.
-/

namespace RowGuard.Text

/-- The code points of blanks. -/
def blankRanges : List (Nat × Nat) :=
  [(0x09, 0x0D), (0x1C, 0x20), (0x85, 0x85), (0xA0, 0xA0), (0x1680, 0x1680), (0x2000, 0x200A),
   (0x2028, 0x2029), (0x202F, 0x202F), (0x205F, 0x205F), (0x3000, 0x3000)]

/-- Whether a character separates words. -/
def isBlank (c : Char) : Bool := inRanges c.toNat blankRanges

/-- The words of a text, in order. A character that is followed by a word's first character joins
that word. -/
def words : List Char → List (List Char)
  | [] => []
  | c :: rest =>
    if isBlank c then words rest
    else match rest, words rest with
      | d :: _, word :: more => if isBlank d then [c] :: word :: more else (c :: word) :: more
      | _, more => [c] :: more

/-- A text without the blanks at its two ends. -/
def trim (text : List Char) : List Char :=
  ((text.dropWhile isBlank).reverse.dropWhile isBlank).reverse

end RowGuard.Text
