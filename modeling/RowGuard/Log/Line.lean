import RowGuard.Log.Record
import RowGuard.Number.Shortest
import RowGuard.Text.Quoted

/-!
# How records are written

On the console a record is a line of plain text, which may be coloured. In a file it is a line of
JSON in ASCII characters.
-/

namespace RowGuard.Log

/-! ## Console -/

/-- What switches the console back from a colour. -/
def reset : String := "\x1b[0m"

/-- What switches the console to the colour of a severity. -/
def Severity.colour : Severity → String
  | debug => "\x1b[36m"
  | info => "\x1b[32m"
  | warning => "\x1b[33m"
  | error => "\x1b[31m"
  | critical => "\x1b[31m\x1b[47m"

/-- A text filled with spaces to a width. -/
def padTo (width : Nat) (text : String) : String :=
  text ++ String.ofList (List.replicate (width - text.length) ' ')

/-- The line of a record on the console. A coloured line ends with a switch back. -/
def Record.consoleLine (coloured : Bool) (time : String) (r : Record) : String :=
  let head := time ++ " [" ++ padTo 8 r.severity.label ++ "]"
  let tail := " " ++ r.logger ++ " - " ++ r.message
  if coloured then
    let line := r.severity.colour ++ head ++ reset ++ tail
    if reset.toList.reverse.isPrefixOf line.toList.reverse then line else line ++ reset
  else head ++ tail

/-! ## JSON -/

/-- The escape of a number of at most 16 bits. -/
def unitEscape (n : Nat) : String :=
  "\\u" ++ String.ofList (Text.hexDigits 4 n)

/-- A character inside a JSON text. Beyond ASCII it is shown by the number of its UTF-16 units. -/
def escapedChar (c : Char) : String :=
  if c = '\x22' then "\\\""
  else if c = '\\' then "\\\\"
  else if c = '\n' then "\\n"
  else if c = '\r' then "\\r"
  else if c = '\t' then "\\t"
  else if c = '\x08' then "\\b"
  else if c = '\x0c' then "\\f"
  else if c.toNat < 0x20 then unitEscape c.toNat
  else if c.toNat < 0x80 then String.singleton c
  else if c.toNat < 0x10000 then unitEscape c.toNat
  else
    let n := c.toNat - 0x10000
    unitEscape (0xD800 + n / 0x400) ++ unitEscape (0xDC00 + n % 0x400)

/-- A text in JSON. -/
def jsonText (s : String) : String :=
  "\"" ++ String.join (s.toList.map escapedChar) ++ "\""

/-- A simple value in JSON. Days are texts; what JSON cannot say is left out. -/
def jsonScalar : Value → String
  | .bool b => if b then "true" else "false"
  | .int n => toString n
  | .float x => x.toText .report
  | .str s => jsonText s
  | .date m => jsonText m.iso
  | _ => "null"

mutual

/-- A value in JSON. -/
def jsonValue : Value → String
  | .list items => "[" ++ ", ".intercalate (jsonItems items) ++ "]"
  | .map entries => "\x7b" ++ ", ".intercalate (jsonEntries entries) ++ "\x7d"
  | v => jsonScalar v

/-- The items of a list in JSON. -/
def jsonItems : List Value → List String
  | [] => []
  | v :: rest => jsonValue v :: jsonItems rest

/-- The entries of a mapping in JSON. -/
def jsonEntries : List (Value × Value) → List String
  | [] => []
  | (.str k, v) :: rest => (jsonText k ++ ": " ++ jsonValue v) :: jsonEntries rest
  | (k, v) :: rest => ("\"" ++ jsonScalar k ++ "\": " ++ jsonValue v) :: jsonEntries rest

end

/-- The line of a record in a file. -/
def Record.jsonLine (time : String) (r : Record) : String :=
  let fields := [("asctime", Value.str time), ("name", .str r.logger),
    ("levelname", .str r.severity.label), ("message", .str r.message)] ++ r.fields
  jsonValue (.map (fields.map fun (k, v) => (.str k, v))) ++ "\n"

end RowGuard.Log
