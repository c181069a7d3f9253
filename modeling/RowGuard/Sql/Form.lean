import RowGuard.Sql.Argument
import RowGuard.Sql.Definition

/-!
# Functions with forms of their own

Functions with words between their arguments, or with arguments that are no expressions. Each
reader begins behind the opening parenthesis and leaves the closing one.
-/

namespace RowGuard.Sql

namespace Expression

open Reader

/-! ## Conversions -/

/-- A format, and the time zones to which it is moved. -/
def format (g : Grammar) : Reader (List Tree) := do
  let text ← string g
  let zones ← many do
    if ← acceptWords ["AT", "TIME", "ZONE"] then return some (← need g.unary) else return none
  if text.isNone && !zones.isEmpty then refuse
  return zones

/-- A conversion to a type, its value and `AS` passed. A format for a time replaces what else is
said of the conversion. -/
def castTo (g : Grammar) (function : String) (value : Tree) : Reader Tree := do
  let type ← g.dataType false false
  let fallback ← if ← accept "DEFAULT" then do
      let t ← g.bitwise
      let _ ← acceptWords ["ON", "CONVERSION", "ERROR"]
      pure t
    else pure none
  let zones ← match ← acceptAny ["FORMAT", ","] with
    | some _ => do pure (some (← format g))
    | none => pure none
  let key := match type.map Tree.shape with
    | some (.dataType key) => key
    | _ => ""
  match type, zones with
  | none, none => refuse
  | _, some zones =>
    if key == "DATE" then return call function [value]
    if key == "DATETIME" || Keyword.timeTypes.contains key then
      return call function (value :: zones.getLast?.toList)
    return callOf function ([some value, type, fallback] ++ zones.map some)
  | some type, none =>
    if key == "CHAR" then
      if ← accept "CHARACTER SET" then
        unless (← variableWhere g fun t => t.kind == .word || t.kind == .string).isSome do refuse
    unless ← acceptWords ["RENAME", "FIELDS"] do
      let _ ← acceptWords ["ADD", "FIELDS"]
    return callOf function [some value, some type, fallback]

/-- A conversion, the opening parenthesis passed. -/
def cast (g : Grammar) (function : String) : Reader Tree := do
  let value ← need g.assignment
  if ← accept "AS" then castTo g function value
  else
    expect ","
    let _ ← need (string g)
    return call function [value]

/-- A conversion to a type or character set, the opening parenthesis passed. -/
def convert (g : Grammar) (function : String) : Reader Tree := do
  let value ← need g.bitwise
  if ← accept "USING" then
    let _ ← variableWhere g fun t => t.kind == .word || t.key == "BINARY"
    return call function [value]
  else
    expect ","
    return call function [value, ← need (g.dataType false false)]

/-! ## Texts -/

/-- A place in a text, the opening parenthesis passed. -/
def position (g : Grammar) : Reader Tree := do
  let items ← commaList g.bitwise
  if ← accept "IN" then
    let text ← need g.bitwise
    match items with
    | sought :: _ => return call "POSITION" [text, sought]
    | [] => refuse
  else
    if items.length < 2 then refuse
    return call "POSITION" (items.take 3)

/-- A part of a text, the opening parenthesis passed. Words may give its start and its length. -/
def substring (g : Grammar) : Reader Tree := do
  let items ← commaList g.bitwise
  let (start, length) ← iterate (fun (bounds : Option Tree × Option Tree) => do
    match ← acceptAny ["FROM", "FOR"] with
    | none => return none
    | some "FROM" => return some (← g.bitwise, bounds.2)
    | some _ =>
      return some (some (bounds.1.getD (.node (.number "1") [])), ← g.bitwise)) (none, none)
  let items := items ++ start.toList ++ length.toList
  if items.isEmpty || 3 < items.length then refuse
  return call "SUBSTRING" items

/-- A text without some of its ends, the opening parenthesis passed. -/
def trim (g : Grammar) : Reader Tree := do
  let _ ← acceptAnyWord ["BOTH", "LEADING", "TRAILING"]
  let first ← g.bitwise
  let (text, ends) ← match ← acceptAny ["FROM", ","] with
    | some "FROM" => do pure (← g.bitwise, first)
    | some _ => do pure (first, ← g.bitwise)
    | none => pure (first, none)
  let collation ← after "COLLATE" g.bitwise
  return callOf "TRIM" [some (← need (pure text)), ends, collation]

/-- A text with a part replaced, the opening parenthesis passed. -/
def overlay (g : Grammar) : Reader Tree := do
  let part (word : String) : Reader (Option Tree) := do
    if ← accept "," then g.bitwise
    else if ← acceptWords [word] then g.bitwise
    else return none
  let text ← need g.bitwise
  let replacement ← need (part "PLACING")
  let start ← need (part "FROM")
  return callOf "OVERLAY" [some text, some replacement, some start, ← part "FOR"]

/-- A part of a date, the opening parenthesis passed. -/
def extract (g : Grammar) : Reader Tree := do
  let part ← match ← g.function with
    | some t => pure t
    | none => do pure (← need (anyWord g)).tree
  unless (← acceptAny ["FROM", ","]).isSome do refuse
  return call "EXTRACT" [part, ← need g.bitwise]

/-- A number rounded up or down, the opening parenthesis passed. -/
def rounded (g : Grammar) (function : String) : Reader Tree := do
  let items ← arguments g
  if ← acceptWords ["TO"] then
    let _ ← plainWord g
  return call function (items.take 2)

/-- A text by its code or character set, the opening parenthesis passed. -/
def decode (g : Grammar) : Reader Tree := do
  let items ← commaList g.disjunction
  if items.length < 2 then refuse
  return call "DECODE" items

/-- Characters by their codes, the opening parenthesis passed. -/
def characters (g : Grammar) (function : String) : Reader Tree := do
  let codes ← commaList g.assignment
  if codes.isEmpty then refuse
  if ← accept "USING" then
    let _ ← variableWhere g fun t => t.kind == .word || t.key == "BINARY"
  return call function codes

/-- A text in a normal form, the opening parenthesis passed. -/
def normalize (g : Grammar) : Reader Tree := do
  let text ← need g.bitwise
  if ← accept "," then
    let _ ← plainWord g
  return call "NORMALIZE" [text]

/-- A search in full text, the opening parenthesis passed. -/
def fullText (g : Grammar) : Reader Tree := do
  let places ←
    if ← acceptWords ["TABLE"] then do pure [← g.table false] else commaList g.column
  let _ ← acceptWords [")", "AGAINST", "("]
  let sought ← need (string g)
  if ← acceptWords ["IN", "NATURAL", "LANGUAGE", "MODE"] then
    let _ ← acceptWords ["WITH", "QUERY", "EXPANSION"]
  else unless ← acceptWords ["IN", "BOOLEAN", "MODE"] do
    let _ ← acceptWords ["WITH", "QUERY", "EXPANSION"]
  if places.isEmpty then refuse
  return call "MATCH" (sought :: places)

/-! ## Rows -/

/-- Texts of a group joined, the opening parenthesis passed. A separator's name is no column. -/
def groupConcat (g : Grammar) : Reader Tree := do
  let items ← arguments g
  let mark ← after "SEPARATOR" (anyField g)
  if items.isEmpty then refuse
  return call "GROUP_CONCAT" (items ++ mark.toList)

/-- Texts of a group joined in the standard form, the opening parenthesis passed. -/
def stringAgg (g : Grammar) : Reader Tree := do
  let items ←
    if ← accept "DISTINCT" then do
      let first := Tree.group (← g.disjunction).toList
      if ← accept "," then pure (first :: (← commaList g.disjunction)) else pure [first]
    else commaList g.disjunction
  if ← acceptWords ["ON", "OVERFLOW"] then
    unless ← acceptWords ["ERROR"] do
      let _ ← acceptWords ["TRUNCATE"]
      let _ ← string g
      unless ← acceptWords ["WITH", "COUNT"] do
        let _ ← acceptWords ["WITHOUT", "COUNT"]
  if items.isEmpty then refuse
  if (← here) == ")" then
    let start ← get
    advance
    if ← acceptWords ["WITHIN", "GROUP"] then
      expect "("
      return call "STRING_AGG" (items.take 2 ++ ((← order? g).getD []))
    set start
    if 3 < items.length then refuse
    return call "STRING_AGG" items
  let order ← order? g
  let rows ← limited g none
  return call "STRING_AGG" (items.take 2 ++ order.getD [] ++ rows.toList)

/-- The value of the row that has the greatest or least of another, the opening parenthesis
passed. -/
def extremal (g : Grammar) (function : String) : Reader Tree := do
  let distinct ← if ← accept "DISTINCT" then do
      let t := Tree.group (← argument g false).toList
      let _ ← accept ","
      pure [t]
    else pure []
  let items := distinct ++ (← arguments g)
  if items.length < 2 then refuse
  return call function (items.take 3)

/-- A table with its gaps filled, the opening parenthesis passed. -/
def gapFill (g : Grammar) : Reader Tree := do
  let _ ← accept "TABLE"
  let t ← g.table false
  let _ ← accept ","
  let items ← arguments g
  if items.length < 2 || 6 < items.length then refuse
  return call "GAP_FILL" (t :: items)

/-! ## Documents -/

/-- A part of a document that may be a document itself. -/
def document (t : Reader (Option Tree)) : Reader (Option Tree) := do
  let found ← t
  if found.isSome then
    let _ ← acceptWords ["FORMAT", "JSON"]
  return found

/-- A name in a document with its value. -/
def documentEntry (g : Grammar) : Reader (Option Tree) := do
  let _ ← acceptWords ["KEY"]
  let key ← g.column
  let _ ← acceptAny [":", ",", "IS"]
  let _ ← acceptWords ["VALUE"]
  match key, ← g.bitwise with
  | none, none => return none
  | some key, some value => return some (.group [key, value])
  | _, _ => refuse

/-- A document made of names and values, the opening parenthesis passed. -/
def documentOf (g : Grammar) (function : String) : Reader Tree := do
  let entries ←
    if (← here) == "*" then do pure (← g.primary).toList
    else commaList (document (documentEntry g))
  unless ← acceptWords ["NULL", "ON", "NULL"] do
    unless ← acceptWords ["ABSENT", "ON", "NULL"] do
      pure ()
  unless ← acceptWords ["WITH", "UNIQUE"] do
    let _ ← acceptWords ["WITHOUT", "UNIQUE"]
  let _ ← acceptWords ["KEYS"]
  let type ← if ← acceptWords ["RETURNING"] then document (g.operand true) else pure none
  if ← acceptWords ["ENCODING"] then
    let _ ← plainWord g
  return call function (entries ++ type.toList)

/-- What is given in a case of failure: one of some words, or a value. -/
def onFailure (g : Grammar) (failure : String) (words : List String) : Reader (Option Tree) := do
  if ← words.anyM fun word => acceptWords [word, "ON", failure] then return none
  let start ← get
  if ← accept "DEFAULT" then
    let value ← g.bitwise
    if ← acceptWords ["ON", failure] then return value
  set start
  return none

/-- A value picked out of a document, the opening parenthesis passed. -/
def documentValue (g : Grammar) : Reader Tree := do
  let source ← need g.bitwise
  let _ ← accept ","
  let path ← asPath (← need g.bitwise)
  let type ← if ← accept "RETURNING" then g.operand true else pure none
  let words := ["EMPTY", "ERROR", "FALSE", "NULL", "TRUE"]
  let fallbacks ← ["EMPTY", "ERROR", "NULL"].mapM fun failure => onFailure g failure words
  return callOf "JSON_VALUE" ([some source, some path, type] ++ fallbacks)

/-- A column of a table made from a document; its name is no column. -/
def documentColumn (g : Grammar) (columns : Reader (List Tree)) : Reader (Option Tree) := do
  if ← acceptWords ["NESTED"] then
    if ← acceptWords ["PATH"] then
      let _ ← string g
    return some (.group (← columns))
  else
    let own ← anyName g
    let _ ← acceptPair "FOR" "ORDINALITY"
    let type ← g.dataType true false
    if ← acceptWords ["PATH"] then
      let _ ← string g
    return some (.group ((own.map Name.tree).toList ++ type.toList))

/-- The columns of a table made from a document, nested at most so deep. There has to be one. -/
def documentColumns (g : Grammar) : Nat → Reader (List Tree)
  | 0 => refuse
  | depth + 1 => do
    let _ ← acceptWords ["COLUMNS"]
    match ← maybeWrapped (commaList (documentColumn g (documentColumns g depth))) with
    | [] => refuse
    | columns => return columns

/-- A table made from a document, the opening parenthesis passed. -/
def documentTable (g : Grammar) : Reader Tree := do
  let source ← need (document g.bitwise)
  if ← accept "," then
    let _ ← string g
  let fallbacks ← ["ERROR", "EMPTY"].mapM fun failure => onFailure g failure ["ERROR", "NULL"]
  let columns ← documentColumns g ((← get).rest.length + 1)
  return callOf "JSON_TABLE" ([some source] ++ fallbacks ++ columns.map some)

/-- A column of an opened document, which is of a type and found on a path. -/
def openedColumn (g : Grammar) : Reader (Option Tree) := do
  let own ← anyName g
  let type ← need (g.dataType false false)
  let _ ← string g
  let _ ← acceptPair "AS" "JSON"
  return some (.group ((own.map Name.tree).toList ++ [type]))

/-- The rows of an opened document, the opening parenthesis passed. -/
def openedDocument (g : Grammar) : Reader Tree := do
  let source ← need g.bitwise
  if ← accept "," then
    let _ ← string g
  let columns ←
    if ← acceptPair ")" "WITH" then do
      expect "("
      commaList (openedColumn g)
    else pure []
  return call "OPENJSON" (source :: columns)

/-- An element of a document, the opening parenthesis passed. -/
def element (g : Grammar) : Reader Tree := do
  let own ←
    if ← acceptWords ["EVALNAME"] then need g.bitwise
    else do
      let _ ← acceptWords ["NAME"]
      pure (← need (anyName g)).tree
  let contents ← if ← accept "," then commaList g.bitwise else pure []
  return call "XMLELEMENT" (own :: contents)

/-- A table made from a tree of elements, the opening parenthesis passed. -/
def elementTable (g : Grammar) : Reader Tree := do
  let rows ← need (string g)
  let sources ←
    if ← acceptWords ["PASSING"] then do
      let _ ← acceptWords ["BY", "VALUE"]
      commaList g.column
    else pure []
  let _ ← acceptWords ["RETURNING", "SEQUENCE", "BY", "REF"]
  let columns ← if ← acceptWords ["COLUMNS"] then commaList (column? g) else pure []
  return call "XMLTABLE" (rows :: sources ++ columns)

/-! ## All forms -/

/-- The reader for the arguments of a function that has a form of its own. -/
def form? (g : Grammar) (function : String) : Option (Reader Tree) :=
  match function with
  | "CAST" | "SAFE_CAST" | "TRY_CAST" => some (cast g function)
  | "CONVERT" | "TRY_CONVERT" => some (convert g function)
  | "POSITION" => some (position g)
  | "SUBSTR" | "SUBSTRING" => some (substring g)
  | "TRIM" => some (trim g)
  | "OVERLAY" => some (overlay g)
  | "EXTRACT" => some (extract g)
  | "CEIL" | "FLOOR" => some (rounded g function)
  | "INITCAP" => some do return call function ((← arguments g).take 2)
  | "DECODE" => some (decode g)
  | "CHAR" | "CHR" => some (characters g function)
  | "NORMALIZE" => some (normalize g)
  | "MATCH" => some (fullText g)
  | "GROUP_CONCAT" => some (groupConcat g)
  | "STRING_AGG" => some (stringAgg g)
  | "ARGMAX" | "ARG_MAX" | "MAX_BY" => some (extremal g "MAX_BY")
  | "ARGMIN" | "ARG_MIN" | "MIN_BY" => some (extremal g "MIN_BY")
  | "GAP_FILL" => some (gapFill g)
  | "JSON_OBJECT" | "JSON_OBJECTAGG" => some (documentOf g function)
  | "JSON_VALUE" => some (documentValue g)
  | "JSON_TABLE" => some (documentTable g)
  | "OPENJSON" => some (openedDocument g)
  | "XMLELEMENT" => some (element g)
  | "XMLTABLE" => some (elementTable g)
  | "VALUES" => some do return .node (.call function false) ((← anyName g).map Name.tree).toList
  | _ => none

end Expression

end RowGuard.Sql
