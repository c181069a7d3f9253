import RowGuard.Moment
import RowGuard.Yaml.Position

/-!
# Kinds of nodes

A tag names the kind of a node. A plain text without a tag takes its kind from its form: it may be
nothing, a truth value, a number or a moment, and is a text otherwise.
-/

namespace RowGuard.Yaml

/-- The kind of a node. -/
inductive Kind where
  | null
  | bool
  | int
  | float
  | binary
  | timestamp
  | orderedMap
  | pairs
  | set
  | str
  | seq
  | map
  /-- As a key: the mapping takes over the entries of another one. -/
  | merge
  /-- As a key: the mapping can stand for a scalar, the value of this entry. -/
  | value
  | other (tag : String)
  deriving DecidableEq, Repr

namespace Kind

/-- The tags of the kinds, behind what all of them begin with. -/
def tags : List (String × Kind) :=
  [("null", null), ("bool", bool), ("int", int), ("float", float), ("binary", binary),
   ("timestamp", timestamp), ("omap", orderedMap), ("pairs", pairs), ("set", set), ("str", str),
   ("seq", seq), ("map", map), ("merge", merge), ("value", value)]

/-- What the tags of all known kinds begin with. -/
def tagStem : String := "tag:yaml.org,2002:"

/-- The kind that a tag names. -/
def ofTag (tag : String) : Kind :=
  if tagStem.toList.isPrefixOf tag.toList then
    (tags.lookup (String.ofList (tag.toList.drop tagStem.length))).getD (other tag)
  else other tag

/-! ## The form of plain texts -/

/-- A text behind an optional sign. -/
def unsigned : List Char → List Char
  | '+' :: rest => rest
  | '-' :: rest => rest
  | text => text

/-- Whether a character is a digit or an underscore. -/
def isDigitLike (c : Char) : Bool := c.isDigit || c = '_'

/-- Digits and underscores that begin with a digit. -/
def isNumeral : List Char → Bool
  | c :: rest => c.isDigit && rest.all isDigitLike
  | [] => false

/-- The parts of a text between colons. -/
def parts (text : List Char) : List (List Char) :=
  text.foldr (fun c parts => match parts with
    | part :: more => if c = ':' then [] :: part :: more else (c :: part) :: more
    | [] => [[c]]) [[]]

/-- A number of minutes or seconds: one digit, or two of which the first is below six. -/
def isSixtieth : List Char → Bool
  | [c] => c.isDigit
  | [c, d] => '0' ≤ c && c ≤ '5' && d.isDigit
  | _ => false

/-- Whether a plain text is a whole number: binary, octal, decimal, hexadecimal, or in hours,
minutes and seconds. -/
def isInt (text : List Char) : Bool :=
  match unsigned text with
  | [] => false
  | '0' :: rest =>
    match rest with
    | [] => true
    | 'b' :: digits => !digits.isEmpty && digits.all fun c => c = '0' || c = '1' || c = '_'
    | 'x' :: digits => !digits.isEmpty && digits.all fun c => (hexValue? c).isSome || c = '_'
    | digits => digits.all fun c => ('0' ≤ c && c ≤ '7') || c = '_'
  | body =>
    match parts body with
    | whole :: sixtieths => isNumeral whole && sixtieths.all isSixtieth
    | [] => false

/-- Whether the digits behind a point may end so: with an exponent that has a sign, or nothing. -/
def endsFloat (text : List Char) : Bool :=
  match text.dropWhile isDigitLike with
  | [] => true
  | e :: sign :: exponent =>
    (e = 'e' || e = 'E') && (sign = '+' || sign = '-') && !exponent.isEmpty
      && exponent.all Char.isDigit
  | _ => false

/-- Whether a plain text is a number with a fraction. Where digits stand before the point there may
be a sign; without them there may be none. -/
def isFloat (text : List Char) : Bool :=
  let body := unsigned text
  if [".inf", ".Inf", ".INF"].contains (String.ofList body) then true
  else if [".nan", ".NaN", ".NAN"].contains (String.ofList text) then true
  else
    let whole := body.takeWhile (· ≠ '.')
    match body.dropWhile (· ≠ '.') with
    | [] => false
    | _ :: tail =>
      match parts whole with
      | [[]] => text.head? = some '.' && tail.head?.any Char.isDigit && endsFloat tail
      | [digits] => isNumeral digits && endsFloat tail
      | first :: sixtieths =>
        isNumeral first && sixtieths.all isSixtieth && tail.all isDigitLike
      | [] => false

end Kind

/-! ## Moments -/

/-- A day or moment as it is written. -/
structure Timestamp where
  moment : Moment
  /-- Whether month and day are written with two digits each. -/
  padded : Bool
  deriving Repr

namespace Timestamp

/-- The number that digits denote. -/
def numeral (digits : List Char) : Nat := digits.foldl (fun n c => 10 * n + (c.toNat - 48)) 0

/-- The millionths of a second in the digits of a fraction; further digits are dropped. -/
def micros (fraction : List Char) : Nat := numeral ((fraction ++ List.replicate 6 '0').take 6)

/-- Reads `least` to `most` digits. -/
def digits? (least most : Nat) (text : List Char) : Option (List Char × List Char) :=
  let n := min most (text.takeWhile Char.isDigit).length
  if n < least then none else some (text.take n, text.drop n)

/-- Reads one given character. -/
def expect? (c : Char) : List Char → Option (List Char)
  | d :: rest => if c = d then some rest else none
  | [] => none

/-- Reads a time zone up to the end of the text, in minutes ahead of universal time. -/
def zone? (text : List Char) : Option (Option Int) :=
  match text.dropWhile isSpace with
  | [] => if text.isEmpty then some none else none
  | ['Z'] => some (some 0)
  | sign :: rest => do
    if sign ≠ '+' && sign ≠ '-' then none
    let ahead (minutes : Nat) : Int := if sign = '-' then -(minutes : Int) else minutes
    let (hours, rest) ← digits? 1 2 rest
    match rest with
    | [] => some (some (ahead (60 * numeral hours)))
    | _ => do
      let (minutes, rest) ← digits? 2 2 (← expect? ':' rest)
      if rest.isEmpty then some (some (ahead (60 * numeral hours + numeral minutes))) else none

/-- Reads a time up to the end of the text. -/
def clock? (text : List Char) : Option Clock := do
  let (hour, rest) ← digits? 1 2 text
  let (minute, rest) ← digits? 2 2 (← expect? ':' rest)
  let (second, rest) ← digits? 2 2 (← expect? ':' rest)
  let (fraction, rest) := match rest with
    | '.' :: rest => (rest.takeWhile Char.isDigit, rest.dropWhile Char.isDigit)
    | _ => ([], rest)
  return ⟨numeral hour, numeral minute, numeral second, micros fraction, ← zone? rest⟩

/-- Reads a day or a moment. Between the two stands a `T` or blank space. -/
def ofText? (text : List Char) : Option Timestamp := do
  let (year, rest) ← digits? 4 4 text
  let (month, rest) ← digits? 1 2 (← expect? '-' rest)
  let (day, rest) ← digits? 1 2 (← expect? '-' rest)
  let date : Option Clock → Timestamp := fun clock =>
    ⟨⟨numeral year, numeral month, numeral day, clock⟩, month.length = 2 && day.length = 2⟩
  match rest with
  | [] => return date none
  | c :: rest =>
    if c = 'T' || c = 't' then return date (some (← clock? rest))
    else if isSpace c then return date (some (← clock? (rest.dropWhile isSpace)))
    else none

end Timestamp

/-! ## The kind of a plain text -/

/-- A text without the line break at its end. One line break may end a text of any form, but is no
form by itself. -/
def withoutBreak (text : List Char) : List Char :=
  if 1 < text.length && text.getLast? = some '\n' then text.dropLast else text

/-- The kind of a plain text without a tag. -/
def Kind.ofPlain (text : String) : Kind :=
  let chars := withoutBreak text.toList
  let name := String.ofList chars
  if ["yes", "Yes", "YES", "no", "No", "NO", "true", "True", "TRUE", "false", "False", "FALSE",
      "on", "On", "ON", "off", "Off", "OFF"].contains name then .bool
  else if isFloat chars then .float
  else if isInt chars then .int
  else if name = "<<" then .merge
  else if ["", "~", "null", "Null", "NULL"].contains name then .null
  else if (Timestamp.ofText? chars).any fun t => t.moment.clock.isSome || t.padded then .timestamp
  else if name = "=" then .value
  else .str

end RowGuard.Yaml
