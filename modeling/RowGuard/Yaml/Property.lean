import RowGuard.Yaml.Scalar

/-!
# Anchors, tags and directives

The short forms around a node: its name for later reference, its kind, and the instructions ahead
of a document.
-/

namespace RowGuard.Yaml

/-- The word at a place. It has at least one character. -/
def word (p : Position) : Except Error (String × Position) :=
  match p.span isWord with
  | ([], _) => .error .malformed
  | (name, after) => .ok (String.ofList name, after)

/-- The name of an anchor or alias, from its indicator on. -/
def anchorName (p : Position) : Except Error (String × Position) := do
  let (name, after) ← word p.next
  let closed := after.peek.all fun c =>
    isBreak c || isSpace c || ['?', ':', ',', ']', '}', '%', '@', '\x60'].contains c
  if closed then return (name, after) else .error .malformed

/-! ## Tags -/

/-- Whether a character may stand in a tag. -/
def isTagChar (c : Char) : Bool :=
  c.isAlphanum || ("-;/?:@&=+$,_.!~*'()[]".toList.contains c)

/-- The bytes that percent signs with two digits each stand for. -/
def percentBytes : Nat → Position → Except Error (List UInt8 × Position)
  | 0, p => .ok ([], p)
  | fuel + 1, p =>
    if p.peek = some '%' then
      match hexNumber? 2 p.next.rest with
      | some n => do
        let (more, last) ← percentBytes fuel (p.skip 3)
        return (n.toUInt8 :: more, last)
      | none => .error .malformed
    else .ok ([], p)

/-- The text that bytes encode. -/
def decoded (bytes : List UInt8) : Except Error (List Char) :=
  match String.fromUTF8? (ByteArray.mk bytes.toArray) with
  | some s => .ok s.toList
  | none => .error .malformed

/-- The characters of a tag from here on. -/
def tagChars : Nat → Position → Except Error (List Char × Position)
  | 0, p => .ok ([], p)
  | fuel + 1, p =>
    match p.span isTagChar with
    | ([], _) =>
      if p.peek = some '%' then do
        let (bytes, after) ← percentBytes p.rest.length p
        let text ← decoded bytes
        let (more, last) ← tagChars fuel after
        return (text ++ more, last)
      else .ok ([], p)
    | (text, after) => do
      let (more, last) ← tagChars fuel after
      return (text ++ more, last)

/-- The text of a tag. It has at least one character. -/
def tagText (p : Position) : Except Error (String × Position) := do
  if (p.peek).all fun c => !isTagChar c && c ≠ '%' then .error .malformed
  let (text, after) ← tagChars p.rest.length p
  return (String.ofList text, after)

/-- The handle of a tag: an exclamation mark, or two with a word between. -/
def tagHandle (p : Position) : Except Error (String × Position) :=
  if p.peek ≠ some '!' then .error .malformed
  else if p.next.peek = some ' ' then .ok ("!", p.next)
  else
    let (name, after) := p.next.span isWord
    if after.peek = some '!' then .ok ("!" ++ String.ofList name ++ "!", after.next)
    else .error .malformed

/-- Whether a second exclamation mark stands in the word that begins here. -/
def hasHandle (text : List Char) : Bool :=
  (text.takeWhile fun c => c ≠ ' ' && !isBreak c).contains '!'

/-- The tag at a place: its handle, if it has one, and the rest. -/
def tag (p : Position) : Except Error (Token × Position) := do
  let (token, after) ← match p.next.peek with
    | some '<' => do
      let (suffix, after) ← tagText (p.skip 2)
      if after.peek = some '>' then pure (Token.tag none suffix, after.next)
      else .error .malformed
    | c =>
      if endsWord c then pure (Token.tag none "!", p.next)
      else do
        let (handle, after) ←
          if hasHandle p.next.rest then tagHandle p else pure ("!", p.next)
        let (suffix, after) ← tagText after
        pure (Token.tag (some handle) suffix, after)
  if after.peek.all fun c => c = ' ' || isBreak c then return (token, after)
  else .error .malformed

/-! ## Directives -/

/-- The number at a place. -/
def number (p : Position) : Except Error (Nat × Position) :=
  match p.span Char.isDigit with
  | ([], _) => .error .malformed
  | (digits, after) => .ok (digits.foldl (fun n c => 10 * n + (c.toNat - 48)) 0, after)

/-- The version of the format that a document asks for. -/
def versionDirective (p : Position) : Except Error (Directive × Position) := do
  let (major, p) ← number (p.past (· = ' '))
  if p.peek ≠ some '.' then .error .malformed
  let (minor, p) ← number p.next
  if p.peek.all fun c => c = ' ' || isBreak c then return (.version major minor, p)
  else .error .malformed

/-- The abbreviation of tags that a document declares. -/
def tagDirective (p : Position) : Except Error (Directive × Position) := do
  let (handle, p) ← tagHandle (p.past (· = ' '))
  if p.peek ≠ some ' ' then .error .malformed
  let (stem, p) ← tagText (p.past (· = ' '))
  if p.peek.all fun c => c = ' ' || isBreak c then return (.tag handle stem, p)
  else .error .malformed

/-- The directive at a place, from its percent sign to the end of its line. -/
def directive (p : Position) : Except Error (Token × Position) := do
  let (name, p) ← word p.next
  if !p.peek.all fun c => c = ' ' || isBreak c then .error .malformed
  let (d, p) ← match name with
    | "YAML" => versionDirective p
    | "TAG" => tagDirective p
    | _ => pure (.other, p.past fun c => !isBreak c)
  return (.directive d, ← endLine p)

end RowGuard.Yaml
