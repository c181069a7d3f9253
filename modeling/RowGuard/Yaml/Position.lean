/-!
# Places in a document

What is left of a document from a place on, with the line and column of that place. Everything that
reads a document moves such a place forward.
-/

namespace RowGuard.Yaml

/-- Whether a character ends a line. -/
def isBreak (c : Char) : Bool :=
  c = '\r' || c = '\n' || c = '\u0085' || c = '\u2028' || c = '\u2029'

/-- Whether a character is a space or a tab. -/
def isSpace (c : Char) : Bool := c = ' ' || c = '\t'

/-- Whether nothing follows here on the line without a space in between. -/
def endsWord (c : Option Char) : Bool := c.all fun c => isBreak c || isSpace c

/-- Whether a character may stand in the name of an anchor. -/
def isWord (c : Char) : Bool := c.isAlphanum || c = '-' || c = '_'

/-- The value of a hexadecimal digit. -/
def hexValue? (c : Char) : Option Nat :=
  if c.isDigit then some (c.toNat - 48)
  else if 'a' ≤ c && c ≤ 'f' then some (c.toNat - 87)
  else if 'A' ≤ c && c ≤ 'F' then some (c.toNat - 55)
  else none

/-- A place in a document. -/
structure Position where
  rest : List Char
  index : Nat := 0
  line : Nat := 0
  column : Nat := 0
  deriving Repr, Inhabited

namespace Position

/-- The character that is `n` ahead. -/
def peek (p : Position) (n : Nat := 0) : Option Char := p.rest[n]?

/-- The place one character on. A byte order mark takes no column. -/
def next (p : Position) : Position :=
  match p.rest with
  | [] => p
  | c :: rest =>
    if isBreak c && !(c = '\r' && rest.head? = some '\n') then
      ⟨rest, p.index + 1, p.line + 1, 0⟩
    else ⟨rest, p.index + 1, p.line, if c = '\ufeff' then p.column else p.column + 1⟩

/-- The place `n` characters on. -/
def skip (p : Position) : Nat → Position
  | 0 => p
  | n + 1 => p.next.skip n

/-- The characters from here on that pass a test, and the place behind them. -/
def span (p : Position) (test : Char → Bool) : List Char × Position :=
  let passed := p.rest.takeWhile test
  (passed, p.skip passed.length)

/-- The place behind the characters from here on that pass a test. -/
def past (p : Position) (test : Char → Bool) : Position := (p.span test).2

/-- The line break that stands here, in its normal form, and the place behind it. -/
def break? (p : Position) : Option (Char × Position) :=
  match p.rest with
  | '\r' :: '\n' :: _ => some ('\n', p.skip 2)
  | c :: _ =>
    if c = '\u2028' || c = '\u2029' then some (c, p.next)
    else if isBreak c then some ('\n', p.next)
    else none
  | [] => none

/-- The place behind a comment, if one stands here. The end of its line stays. -/
def pastComment (p : Position) : Position :=
  if p.peek = some '#' then p.past fun c => !isBreak c else p

/-- Whether a line of three dashes or dots stands here, which separates documents. -/
def atMark (p : Position) (c : Char) : Bool :=
  p.rest.take 3 = [c, c, c] && endsWord (p.peek 3)

/-- Whether documents are separated here. -/
def atSeparator (p : Position) : Bool := p.atMark '-' || p.atMark '.'

end Position

end RowGuard.Yaml
