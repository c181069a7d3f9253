import RowGuard.Fault
import RowGuard.Number.Double
import RowGuard.Text.Blank
import RowGuard.Text.Digit

/-!
# Reading numbers

Texts that denote numbers: digits of any script, behind an optional sign and between blanks. Single
underscores may stand between digits. The control characters that separate fields are no blanks
here.
-/

namespace RowGuard

/-- Whether a character may stand around a number: a blank that does not separate fields. -/
def isMargin (c : Char) : Bool := Text.isBlank c && !('\x1c' ≤ c && c ≤ '\x1f')

/-- A text without the blanks around it. -/
def inner (text : List Char) : List Char :=
  ((text.dropWhile isMargin).reverse.dropWhile isMargin).reverse

/-- A text without its sign, and whether that is a minus. -/
def signed : List Char → Bool × List Char
  | '-' :: rest => (true, rest)
  | '+' :: rest => (false, rest)
  | text => (false, text)

/-- The value of a digit; beyond nine the letters of the alphabet go on. -/
def letterDigit? (c : Char) : Option Nat :=
  match Text.digitValue? c with
  | some d => some d
  | none =>
    if 'a' ≤ c && c ≤ 'z' then some (c.toNat - 87)
    else if 'A' ≤ c && c ≤ 'Z' then some (c.toNat - 55)
    else none

/-- The digits of a number to a base, between which single underscores may stand. -/
def digitsOf (base : Nat) : List Char → Option (List Nat)
  | [] => none
  | [c] => ((letterDigit? c).filter (· < base)).map ([·])
  | c :: '_' :: rest => do
    return (← (letterDigit? c).filter (· < base)) :: (← digitsOf base rest)
  | c :: rest => do
    return (← (letterDigit? c).filter (· < base)) :: (← digitsOf base rest)

/-- The number with the given digits to a base. -/
def ofDigits (base : Nat) (digits : List Nat) : Nat := digits.foldl (fun n d => base * n + d) 0

/-- The marks with which a number to a base may begin. -/
def basePrefix : Nat → List (List Char)
  | 2 => [['0', 'b'], ['0', 'B']]
  | 8 => [['0', 'o'], ['0', 'O']]
  | 16 => [['0', 'x'], ['0', 'X']]
  | _ => []

/-- A text without the mark of its base. An underscore may stand behind the mark. -/
def pastPrefix (base : Nat) (text : List Char) : List Char :=
  if (basePrefix base).contains (text.take 2) then
    match text.drop 2 with
    | '_' :: rest => rest
    | rest => rest
  else text

/-- The most decimal digits that a text may have to be read as a number. -/
def maxDigits : Nat := 4300

/-- The whole number to a base that a text denotes. -/
def intOfText (base : Nat) (text : List Char) : Except Fault Int :=
  let (negative, body) := signed (inner text)
  match digitsOf base (pastPrefix base body) with
  | some digits =>
    if base = 10 && maxDigits < digits.length then .error .badContent
    else
      let n := ofDigits base digits
      .ok (if negative then -(n : Int) else n)
  | none => .error .badContent

/-- The digits of a part of a decimal; there may be none. -/
def partDigits : List Char → Option (List Nat)
  | [] => some []
  | text => digitsOf 10 text

/-- The number with a fraction that a text denotes: decimal digits with a point and an exponent, or
a name of infinity or of what is no number. -/
def doubleOfText (text : List Char) : Except Fault Double :=
  let (negative, body) := signed (inner text)
  let name := String.ofList (body.map Char.toLower)
  if name = "inf" || name = "infinity" then .ok (.infinite negative)
  else if name = "nan" then .ok .nan
  else
    let mantissa := body.takeWhile fun c => c ≠ 'e' && c ≠ 'E'
    let whole := mantissa.takeWhile (· ≠ '.')
    let fraction := (mantissa.dropWhile (· ≠ '.')).drop 1
    let exponent? : Option Int :=
      match body.drop mantissa.length with
      | [] => some 0
      | _ :: e =>
        let (down, digits) := signed e
        (digitsOf 10 digits).map fun ds => if down then -(ofDigits 10 ds : Int) else ofDigits 10 ds
    match partDigits whole, partDigits fraction, exponent? with
    | some whole, some fraction, some e =>
      if whole.isEmpty && fraction.isEmpty then .error .badContent
      else .ok (.ofDecimal negative (ofDigits 10 (whole ++ fraction)) (e - fraction.length))
    | _, _, _ => .error .badContent

end RowGuard
