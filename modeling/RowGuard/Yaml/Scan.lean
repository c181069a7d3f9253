import RowGuard.Yaml.Property

/-!
# From text to tokens

Whether a node is the key of a mapping shows only at the colon behind it. So the place of every
node that may be a key is kept, and the tokens that make it one are put there when the colon comes.
Such a key lies on one line and is at most 1024 characters long.
-/

namespace RowGuard.Yaml

/-- A node that may turn out to be a key. -/
structure Key where
  /-- The number of tokens before it. -/
  token : Nat
  /-- Whether it must be a key, for it stands where only a key can. -/
  required : Bool
  index : Nat
  line : Nat
  column : Nat
  deriving Repr

/-- The state of a scan. -/
structure Scan where
  pos : Position
  tokens : Array Token := #[]
  /-- The indentation of the block at hand, and below those of the blocks around it. -/
  indent : Int := -1
  outer : List Int := []
  keyAllowed : Bool := true
  /-- What may be a key in the collection at hand, and below in the brackets around it. -/
  key : Option Key := none
  around : List (Option Key) := []
  deriving Repr

namespace Scan

/-- Whether the place is inside brackets. -/
def inFlow (s : Scan) : Bool := !s.around.isEmpty

/-- Adds a token. -/
def push (s : Scan) (t : Token) : Scan := { s with tokens := s.tokens.push t }

/-- Moves on to the next token. Beyond a line break of a block a key may begin. -/
def toNext (s : Scan) : Nat → Scan
  | 0 => s
  | fuel + 1 =>
    let p := (s.pos.past (· = ' ')).pastComment
    match p.break? with
    | none => { s with pos := p }
    | some (_, after) =>
      { s with pos := after, keyAllowed := s.keyAllowed || !s.inFlow }.toNext fuel

/-- Whether a possible key lies too far back. -/
def isStale (s : Scan) (k : Key) : Bool :=
  k.line ≠ s.pos.line || 1024 < s.pos.index - k.index

/-- Gives up the possible keys that lie too far back. -/
def dropStale (s : Scan) : Except Error Scan :=
  let keep (k : Key) : Bool := !s.isStale k
  if (s.key :: s.around).any fun k => k.any fun k => s.isStale k && k.required then
    .error .malformed
  else .ok { s with key := s.key.filter keep, around := s.around.map (·.filter keep) }

/-- Gives up the possible key of the collection at hand. -/
def dropKey (s : Scan) : Except Error Scan :=
  if s.key.any (·.required) then .error .malformed else .ok { s with key := none }

/-- Notes that a node which may be a key begins here. -/
def noteKey (s : Scan) : Except Error Scan :=
  if s.keyAllowed then do
    let required := !s.inFlow && s.indent = s.pos.column
    let s ← s.dropKey
    return { s with
      key := some ⟨s.tokens.size, required, s.pos.index, s.pos.line, s.pos.column⟩ }
  else .ok s

/-- The blocks that end at a column: their number and what is left. -/
def closing (column : Int) (indent : Int) : List Int → Nat × Int × List Int
  | [] => (0, indent, [])
  | i :: rest =>
    if column < indent then
      let (n, indent, rest) := closing column i rest
      (n + 1, indent, rest)
    else (0, indent, i :: rest)

/-- Ends the blocks that are indented deeper than a column. Inside brackets indentation does not
count. -/
def unwind (s : Scan) (column : Int) : Scan :=
  if s.inFlow then s
  else
    let (n, indent, outer) := closing column s.indent s.outer
    { s with
      tokens := s.tokens ++ Array.replicate n Token.blockEnd
      indent := indent
      outer := outer }

/-- Begins a block at a column, whose token goes to place `n`, unless one is indented there
already. -/
def openBlock (s : Scan) (column n : Nat) (t : Token) : Scan :=
  if s.indent < column then
    { s with
      tokens := s.tokens.insertIdxIfInBounds n t
      indent := column
      outer := s.indent :: s.outer }
  else s

/-- Moves forward over `n` characters, which are one token. -/
def take (s : Scan) (n : Nat) (t : Token) : Scan := { s.push t with pos := s.pos.skip n }

/-! ## One token -/

/-- The end of the document. -/
def finish (s : Scan) : Except Error Scan := do
  let s ← (s.unwind (-1)).dropKey
  return { s with keyAllowed := false, around := [] }.push .streamEnd

/-- An instruction, or a line that separates documents. -/
def separator (s : Scan) (read : Position → Except Error (Token × Position)) :
    Except Error Scan := do
  let s ← (s.unwind (-1)).dropKey
  let (t, after) ← read s.pos
  return { s.push t with pos := after, keyAllowed := false }

/-- An opening bracket. -/
def openFlow (s : Scan) (t : Token) : Except Error Scan := do
  let s ← s.noteKey
  return { s.take 1 t with keyAllowed := true, key := none, around := s.key :: s.around }

/-- A closing bracket. -/
def closeFlow (s : Scan) (t : Token) : Except Error Scan := do
  let s ← s.dropKey
  match s.around with
  | [] => .error .malformed
  | key :: around =>
    return { s.take 1 t with keyAllowed := false, key := key, around := around }

/-- A comma. -/
def flowEntry (s : Scan) : Except Error Scan := do
  let s ← { s with keyAllowed := true }.dropKey
  return s.take 1 .flowEntry

/-- The dash of a list item. -/
def blockEntry (s : Scan) : Except Error Scan := do
  if !s.inFlow && !s.keyAllowed then .error .malformed
  let s := if s.inFlow then s else s.openBlock s.pos.column s.tokens.size .blockSequenceStart
  let s ← { s with keyAllowed := true }.dropKey
  return s.take 1 .blockEntry

/-- The question mark of a key. -/
def explicitKey (s : Scan) : Except Error Scan := do
  if !s.inFlow && !s.keyAllowed then .error .malformed
  let s := if s.inFlow then s else s.openBlock s.pos.column s.tokens.size .blockMappingStart
  let s ← { s with keyAllowed := !s.inFlow }.dropKey
  return s.take 1 .key

/-- The colon of a value. A possible key before it is one. -/
def value (s : Scan) : Except Error Scan :=
  match s.key with
  | some k =>
    let s := { s with key := none, tokens := s.tokens.insertIdxIfInBounds k.token .key }
    let s := if s.inFlow then s else s.openBlock k.column k.token .blockMappingStart
    .ok { s.take 1 .value with keyAllowed := false }
  | none => do
    if !s.inFlow && !s.keyAllowed then .error .malformed
    let s := if s.inFlow then s else s.openBlock s.pos.column s.tokens.size .blockMappingStart
    let s ← { s with keyAllowed := !s.inFlow }.dropKey
    return s.take 1 .value

/-- An alias, anchor, tag or quoted text. -/
def node (s : Scan) (read : Position → Except Error (Token × Position)) : Except Error Scan := do
  let s ← s.noteKey
  let (t, after) ← read s.pos
  return { s.push t with pos := after, keyAllowed := false }

/-- A block text. -/
def blockText (s : Scan) : Except Error Scan := do
  let s ← { s with keyAllowed := true }.dropKey
  let (text, after) ← block s.indent s.pos
  return { s.push (.scalar (String.ofList text) false) with pos := after }

/-- A plain text. If it ends with its line, a key may follow. -/
def plainText (s : Scan) : Except Error Scan := do
  let s ← s.noteKey
  let (text, after, ended) := plain s.inFlow (s.indent + 1) s.pos
  return { s.push (.scalar (String.ofList text) true) with pos := after, keyAllowed := ended }

/-- A named token. -/
def named (t : String → Token) (p : Position) : Except Error (Token × Position) := do
  let (name, after) ← anchorName p
  return (t name, after)

/-- A quoted text as a token. -/
def quotedText (quote : Char) (p : Position) : Except Error (Token × Position) := do
  let (text, after) ← quoted quote p
  return (.scalar (String.ofList text) false, after)

/-- Whether a plain text begins with a character that is followed by `ahead`. -/
def startsPlain (inFlow : Bool) (c : Char) (ahead : Option Char) : Bool :=
  !("-?:,[]\x7b\x7d#&*!|>'\"%@\x60".toList.contains c || isSpace c || isBreak c) ||
    (!endsWord ahead && (c = '-' || (!inFlow && (c = '?' || c = ':'))))

/-- Reads one token, which begins with `c`. -/
def token (s : Scan) (c : Char) : Except Error Scan :=
  let p := s.pos
  let apart := endsWord (p.peek 1)
  if p.column = 0 && c = '%' then s.separator directive
  else if p.column = 0 && p.atMark '-' then s.separator fun p => .ok (.documentStart, p.skip 3)
  else if p.column = 0 && p.atMark '.' then s.separator fun p => .ok (.documentEnd, p.skip 3)
  else if c = '[' then s.openFlow .flowSequenceStart
  else if c = '{' then s.openFlow .flowMappingStart
  else if c = ']' then s.closeFlow .flowSequenceEnd
  else if c = '}' then s.closeFlow .flowMappingEnd
  else if c = ',' then s.flowEntry
  else if c = '-' && apart then s.blockEntry
  else if c = '?' && (s.inFlow || apart) then s.explicitKey
  else if c = ':' && (s.inFlow || apart) then s.value
  else if c = '*' then s.node (named .alias)
  else if c = '&' then s.node (named .anchor)
  else if c = '!' then s.node tag
  else if (c = '|' || c = '>') && !s.inFlow then s.blockText
  else if c = '\x27' || c = '\x22' then s.node (quotedText c)
  else if startsPlain s.inFlow c (p.peek 1) then s.plainText
  else .error .malformed

/-- Reads the next token, and the ends of blocks before it. -/
def step (s : Scan) : Except Error Scan := do
  let s ← (s.toNext (s.pos.rest.length + 1)).dropStale
  let s := s.unwind s.pos.column
  match s.pos.peek with
  | none => s.finish
  | some c => s.token c

/-- Reads tokens to the end of the document, or to where it cannot be read further. -/
def run (s : Scan) : Nat → Array Token
  | 0 => s.tokens
  | fuel + 1 =>
    match s.step with
    | .error e => s.tokens.push (.broken e)
    | .ok next => if next.tokens.back? = some .streamEnd then next.tokens else next.run fuel

end Scan

/-- The tokens of a document. A byte order mark at its start does not count. -/
def tokens (text : List Char) : List Token :=
  let text := if text.head? = some '\ufeff' then text.drop 1 else text
  (Scan.run ⟨⟨text, 0, 0, 0⟩, #[], -1, [], true, none, []⟩ (text.length + 2)).toList

end RowGuard.Yaml
