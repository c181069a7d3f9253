import RowGuard.Text.PrintableTable
import RowGuard.Text.Ranges

/-!
# Quoted text

The written form of a text that shows each character unambiguously. The apostrophe is the quote
unless the text holds apostrophes and no quotation mark. A backslash goes before the quote and
before a backslash, tab and line breaks have letters of their own, and any other character with no
visible form is written as its code point in two, four or eight hexadecimal digits.
-/

namespace RowGuard.Text

/-- Whether a quoted text shows the character as itself. -/
def isPrintable (c : Char) : Bool := !inRanges c.toNat unprintableRanges

/-- The last `width` hexadecimal digits of a number, in small letters. -/
def hexDigits : Nat → Nat → List Char
  | 0, _ => []
  | width + 1, n => hexDigits width (n / 16) ++ [Nat.digitChar (n % 16)]

/-- How a character stands between two marks `quote`. -/
def escapeChar (quote c : Char) : List Char :=
  if c = quote || c = '\\' then ['\\', c]
  else if c = '\t' then ['\\', 't']
  else if c = '\n' then ['\\', 'n']
  else if c = '\r' then ['\\', 'r']
  else if isPrintable c then [c]
  else if c.toNat < 0x100 then '\\' :: 'x' :: hexDigits 2 c.toNat
  else if c.toNat < 0x10000 then '\\' :: 'u' :: hexDigits 4 c.toNat
  else '\\' :: 'U' :: hexDigits 8 c.toNat

/-- The mark that stands at both ends of a quoted text. -/
def quoteMark (text : List Char) : Char :=
  if text.contains '\x27' && !text.contains '\x22' then '\x22' else '\x27'

/-- A text between quotes. -/
def quoted (text : List Char) : List Char :=
  quoteMark text :: text.flatMap (escapeChar (quoteMark text)) ++ [quoteMark text]

/-- A quoted text as a string. -/
def quote (text : String) : String := String.ofList (quoted text.toList)

end RowGuard.Text
