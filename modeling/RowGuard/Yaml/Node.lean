import RowGuard.Yaml.Kind
import RowGuard.Yaml.Scan

/-!
# The tree of a document

Tokens make up scalars, sequences and mappings. A node may have a name, an anchor, under which it
stands again in other places.
-/

namespace RowGuard.Yaml

/-- A node of a document. -/
inductive Node where
  | scalar (kind : Kind) (text : String)
  | sequence (kind : Kind) (items : List Node)
  | mapping (kind : Kind) (entries : List (Node × Node))
  /-- A mapping that takes over what has no entries. -/
  | unmergeable
  /-- The node of a name that stands around this place. -/
  | enclosing (anchor : String)
  deriving Repr, Inhabited

/-- A node that is not written out. -/
def Node.empty : Node := .scalar .null ""

/-- What a document is read from: the tokens left, the named nodes, and what the handles of tags
stand for. -/
structure Source where
  tokens : List Token
  anchors : List (String × Node) := []
  handles : List (String × String) := []

/-- A step in reading a document. -/
abbrev Parse := StateT Source (Except Error)

namespace Parse

/-- The next token. -/
def peek : Parse Token := do
  match (← get).tokens with
  | .broken e :: _ => throw e
  | t :: _ => return t
  | [] => throw .malformed

/-- Moves past the next token. -/
def advance : Parse Unit := modify fun s => { s with tokens := s.tokens.drop 1 }

/-- Whether the next token is one of the given; if so, moves past it. -/
def accept (t : Token) : Parse Bool := do
  if (← peek) = t then
    advance
    return true
  else return false

/-- Moves past the next token, which must be the given one. -/
def expect (t : Token) : Parse Unit := do
  if !(← accept t) then throw .malformed

/-- Names a node. -/
def name (anchor : Option String) (n : Node) : Parse Node := do
  if let some a := anchor then
    modify fun s => { s with anchors := (a, n) :: s.anchors }
  return n

/-- Announces a named node. No two nodes have the same name. -/
def announce (anchor : Option String) : Parse Unit := do
  if let some a := anchor then
    if ((← get).anchors.lookup a).isSome then throw .malformed
    modify fun s => { s with anchors := (a, .enclosing a) :: s.anchors }

/-- The anchor at this place, if there is one. -/
def anchor? : Parse (Option String) := do
  match ← peek with
  | .anchor a =>
    advance
    return some a
  | _ => return none

/-- The tag at this place, written out. -/
def tag? : Parse (Option String) := do
  match ← peek with
  | .tag none suffix =>
    advance
    return some suffix
  | .tag (some handle) suffix =>
    advance
    match (← get).handles.lookup handle with
    | some stem => return some (stem ++ suffix)
    | none => throw .malformed
  | _ => return none

/-- The anchor and the tag at this place, in either order. -/
def properties : Parse (Option String × Option String) := do
  match ← anchor? with
  | some a => return (some a, ← tag?)
  | none =>
    match ← tag? with
    | some t => return (← anchor?, some t)
    | none => return (none, none)

end Parse

/-- The tag of a node whose kind shows in its form. -/
def plainTag : String := "!"

/-- The kind of a scalar. -/
def scalarKind (tag : Option String) (text : String) (plain : Bool) : Kind :=
  match tag with
  | some t => if t = plainTag then .ofPlain text else .ofTag t
  | none => if plain then .ofPlain text else .str

/-- The kind of a collection. -/
def collectionKind (tag : Option String) (fallback : Kind) : Kind :=
  match tag with
  | some t => if t = plainTag then fallback else .ofTag t
  | none => fallback

/-- Where a node stands: whether it may be a block, and whether the dashes of a list need no
indentation of their own. -/
structure Place where
  block : Bool
  indentless : Bool

namespace Place

/-- Inside brackets. -/
def flow : Place := ⟨false, false⟩

/-- An item of a block list, or the whole document. -/
def item : Place := ⟨true, false⟩

/-- A key or value of a block mapping. -/
def entry : Place := ⟨true, true⟩

end Place

mutual

/-- Reads a node. -/
def node (place : Place) : Nat → Parse Node
  | 0 => throw .malformed
  | fuel + 1 => do
    if let .alias a ← Parse.peek then
      Parse.advance
      match (← get).anchors.lookup a with
      | some n => return n
      | none => throw .malformed
    else
      let (anchor, tag) ← Parse.properties
      let next ← Parse.peek
      if place.indentless && next = .blockEntry then
        Parse.announce anchor
        Parse.name anchor (.sequence (collectionKind tag .seq) (← indentlessItems fuel))
      else match next with
        | .scalar text plain =>
          Parse.announce anchor
          Parse.advance
          Parse.name anchor (.scalar (scalarKind tag text plain) text)
        | .flowSequenceStart =>
          Parse.announce anchor
          Parse.advance
          Parse.name anchor (.sequence (collectionKind tag .seq) (← flowItems true fuel))
        | .flowMappingStart =>
          Parse.announce anchor
          Parse.advance
          Parse.name anchor (.mapping (collectionKind tag .map) (← flowEntries true fuel))
        | .blockSequenceStart =>
          if !place.block then throw .malformed
          Parse.announce anchor
          Parse.advance
          Parse.name anchor (.sequence (collectionKind tag .seq) (← blockItems fuel))
        | .blockMappingStart =>
          if !place.block then throw .malformed
          Parse.announce anchor
          Parse.advance
          Parse.name anchor (.mapping (collectionKind tag .map) (← blockEntries fuel))
        | _ =>
          if anchor.isNone && tag.isNone then throw .malformed
          Parse.announce anchor
          Parse.name anchor (.scalar (scalarKind tag "" tag.isNone) "")

/-- Reads a node, or an empty one where one of the given tokens stands. -/
def nodeUnless (ends : List Token) (place : Place) : Nat → Parse Node
  | 0 => throw .malformed
  | fuel + 1 => do
    if ends.contains (← Parse.peek) then return .empty else node place fuel

/-- Reads the items of an indented list. -/
def blockItems : Nat → Parse (List Node)
  | 0 => throw .malformed
  | fuel + 1 => do
    if ← Parse.accept .blockEntry then
      let n ← nodeUnless [.blockEntry, .blockEnd] .item fuel
      return n :: (← blockItems fuel)
    else
      Parse.expect .blockEnd
      return []

/-- Reads the items of a list that is not indented. -/
def indentlessItems : Nat → Parse (List Node)
  | 0 => throw .malformed
  | fuel + 1 => do
    if ← Parse.accept .blockEntry then
      let n ← nodeUnless [.blockEntry, .key, .value, .blockEnd] .item fuel
      return n :: (← indentlessItems fuel)
    else return []

/-- Reads the entries of an indented mapping. -/
def blockEntries : Nat → Parse (List (Node × Node))
  | 0 => throw .malformed
  | fuel + 1 => do
    if ← Parse.accept .key then
      let k ← nodeUnless [.key, .value, .blockEnd] .entry fuel
      let v ← valueUnless [.key, .value, .blockEnd] .entry fuel
      return (k, v) :: (← blockEntries fuel)
    else
      Parse.expect .blockEnd
      return []

/-- Reads the value of an entry. Without a colon it is empty. -/
def valueUnless (ends : List Token) (place : Place) : Nat → Parse Node
  | 0 => throw .malformed
  | fuel + 1 => do
    if ← Parse.accept .value then nodeUnless ends place fuel else return .empty

/-- Reads the items of a list in brackets. A single entry of a mapping may be an item. -/
def flowItems (first : Bool) : Nat → Parse (List Node)
  | 0 => throw .malformed
  | fuel + 1 => do
    if ← Parse.accept .flowSequenceEnd then return []
    if !first then Parse.expect .flowEntry
    if ← Parse.accept .key then
      let k ← nodeUnless [.value, .flowEntry, .flowSequenceEnd] .flow fuel
      let v ← valueUnless [.flowEntry, .flowSequenceEnd] .flow fuel
      return .mapping .map [(k, v)] :: (← flowItems false fuel)
    else if ← Parse.accept .flowSequenceEnd then return []
    else
      let n ← node .flow fuel
      return n :: (← flowItems false fuel)

/-- Reads the entries of a mapping in braces. -/
def flowEntries (first : Bool) : Nat → Parse (List (Node × Node))
  | 0 => throw .malformed
  | fuel + 1 => do
    if ← Parse.accept .flowMappingEnd then return []
    if !first then Parse.expect .flowEntry
    if ← Parse.accept .key then
      let k ← nodeUnless [.value, .flowEntry, .flowMappingEnd] .flow fuel
      let v ← valueUnless [.flowEntry, .flowMappingEnd] .flow fuel
      return (k, v) :: (← flowEntries false fuel)
    else if ← Parse.accept .flowMappingEnd then return []
    else
      let k ← node .flow fuel
      return (k, .empty) :: (← flowEntries false fuel)

end

/-! ## Documents -/

/-- What the handles of tags stand for when the document does not say. -/
def defaultHandles : List (String × String) := [("!", "!"), ("!!", Kind.tagStem)]

/-- Reads the directives ahead of a document: at most one version, of the first generation, and
each handle once. -/
def directives (version : Bool) (handles : List (String × String)) : Nat → Parse Unit
  | 0 => throw .malformed
  | fuel + 1 => do
    match ← Parse.peek with
    | .directive d =>
      Parse.advance
      match d with
      | .version major _ =>
        if version || major ≠ 1 then throw .malformed
        directives true handles fuel
      | .tag handle stem =>
        if (handles.lookup handle).isSome then throw .malformed
        directives version ((handle, stem) :: handles) fuel
      | .other => directives version handles fuel
    | _ => modify fun s => { s with handles := handles ++ defaultHandles }

/-- Moves past the marks at the end of a document. -/
def documentEnds : Nat → Parse Unit
  | 0 => throw .malformed
  | fuel + 1 => do
    if ← Parse.accept .documentEnd then documentEnds fuel

/-- Reads the only document there may be. Without any it is an empty node. -/
def document (fuel : Nat) : Parse Node := do
  let root ← match ← Parse.peek with
    | .streamEnd => pure Node.empty
    | .directive _ | .documentStart => do
      directives false [] fuel
      Parse.expect .documentStart
      match ← Parse.peek with
      | .directive _ | .documentStart | .documentEnd | .streamEnd => pure Node.empty
      | _ => node .item fuel
    | _ => node .item fuel
  documentEnds fuel
  Parse.expect .streamEnd
  return root

/-- The tree of a document, and the nodes that have names. -/
structure Tree where
  root : Node
  named : List (String × Node)
  deriving Repr

/-- The tree that tokens make up. -/
def Tree.ofTokens (tokens : List Token) : Except Error Tree := do
  let (root, rest) ← (document (4 * tokens.length + 8)).run ⟨tokens, [], defaultHandles⟩
  return ⟨root, rest.anchors⟩

end RowGuard.Yaml
