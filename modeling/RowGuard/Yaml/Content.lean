import RowGuard.Value
import RowGuard.Yaml.Merge

/-!
# The value of a tree

Every node stands for a value of its kind. Values are worked out level by level, from the top of
the tree: of several faults the one nearest to the top counts, and among those of one level the
first. A key belongs to the level of its mapping; a collection cannot be one, whatever is in it.
-/

namespace RowGuard.Yaml

/-! ## Scalars -/

/-- A text without underscores. -/
def withoutUnderscores (text : String) : List Char := text.toList.filter (· ≠ '_')

/-- The sum of parts in units of sixty, the last part in units of one. -/
def sexagesimal (parts : List Int) : Int := parts.foldl (fun n d => 60 * n + d) 0

/-- The whole number that a scalar denotes. -/
def intContent (text : String) : Except Error Value :=
  let (negative, body) := signed (withoutUnderscores text)
  let magnitude : Except Fault Int := match body with
    | [] => .error .tooShort
    | ['0'] => .ok 0
    | '0' :: 'b' :: digits => intOfText 2 digits
    | '0' :: 'x' :: digits => intOfText 16 digits
    | '0' :: _ => intOfText 8 body
    | _ =>
      if body.contains ':' then sexagesimal <$> (Kind.parts body).mapM (intOfText 10)
      else intOfText 10 body
  match magnitude with
  | .ok n => .ok (.int (if negative then -n else n))
  | .error f => .error (.fault f)

/-- The sum of parts with fractions in units of sixty, from the last part on; `unit` is the worth
of the next one. -/
def sexagesimalSum (sum : Double) (unit : Nat) : List Double → Double
  | [] => sum
  | x :: rest => sexagesimalSum (sum.add (x.times unit)) (60 * unit) rest

/-- The number with a fraction that a scalar denotes. -/
def floatContent (text : String) : Except Error Value :=
  let said := Text.lower (withoutUnderscores text)
  let (negative, body) := signed said
  let magnitude : Except Fault Double :=
    if said.isEmpty then .error .tooShort
    else if body = ".inf".toList then .ok (.infinite false)
    else if body = ".nan".toList then .ok .nan
    else if body.contains ':' then do
      let parts ← (Kind.parts body).mapM doubleOfText
      return sexagesimalSum (.finite false 0 (-1074)) 1 parts.reverse
    else doubleOfText body
  match magnitude with
  | .ok x => .ok (.float (if negative then x.neg else x))
  | .error f => .error (.fault f)

/-- The truth value that a scalar denotes. -/
def boolContent (text : String) : Except Error Value :=
  let name := Text.lowered text
  if ["yes", "true", "on"].contains name then .ok (.bool true)
  else if ["no", "false", "off"].contains name then .ok (.bool false)
  else .error (.fault .badName)

/-- The day or moment that a scalar denotes. -/
def timestampContent (text : String) : Except Error Value :=
  match Timestamp.ofText? (withoutBreak text.toList) with
  | none => .error (.fault .noSuchField)
  | some t => if t.moment.isValid then .ok (.date t.moment) else .error (.fault .badContent)

/-! ### Bytes -/

/-- The six bits of a letter of the base-64 alphabet. -/
def sixBits? (c : Char) : Option Nat :=
  if 'A' ≤ c && c ≤ 'Z' then some (c.toNat - 65)
  else if 'a' ≤ c && c ≤ 'z' then some (c.toNat - 71)
  else if c.isDigit then some (c.toNat + 4)
  else if c = '+' then some 62
  else if c = '/' then some 63
  else none

/-- The bytes of letters of six bits. `held` are the bits left over, `count` the letters since the
last full group of four, `pads` the padding marks since the last letter. Other characters are
passed over. A group of one letter, or one that is not padded, is an error. -/
def bytesFrom (held count pads : Nat) : List Char → Option (List UInt8)
  | [] => if count = 0 then some [] else none
  | c :: rest =>
    if c = '=' then
      if 2 ≤ count && 4 ≤ count + pads + 1 then some []
      else bytesFrom held count (if 2 ≤ count then pads + 1 else pads) rest
    else
      match sixBits? c with
      | none => bytesFrom held count pads rest
      | some n =>
        match count with
        | 0 => bytesFrom n 1 0 rest
        | 1 => (bytesFrom (n % 16) 2 0 rest).map ((held * 4 + n / 16).toUInt8 :: ·)
        | 2 => (bytesFrom (n % 4) 3 0 rest).map ((held * 16 + n / 4).toUInt8 :: ·)
        | _ => (bytesFrom 0 0 0 rest).map ((held * 64 + n).toUInt8 :: ·)

/-- The bytes that a scalar denotes. -/
def binaryContent (text : String) : Except Error Value :=
  if text.toList.any fun c => 128 ≤ c.toNat then .error .malformed
  else match bytesFrom 0 0 0 text.toList with
    | some bytes => .ok (.bytes bytes)
    | none => .error .malformed

/-- The value of a text of a given kind. -/
def scalarContent (kind : Kind) (text : String) : Except Error Value :=
  match kind with
  | .null => .ok .null
  | .bool => boolContent text
  | .int => intContent text
  | .float => floatContent text
  | .binary => binaryContent text
  | .timestamp => timestampContent text
  | .str => .ok (.str text)
  | _ => .error .malformed

/-! ## Trees -/

/-- A value in the making, with the fault that counts so far and its level. -/
structure Making (α : Type) where
  value : α
  fault : Option (Nat × Error) := none
  deriving Repr

namespace Making

/-- A value that cannot be made at a level. -/
def failed {α : Type} (level : Nat) (fallback : α) (e : Error) : Making α :=
  ⟨fallback, some (level, e)⟩

/-- Of two faults the one that counts: that of the lower level, else the first. -/
def worse : Option (Nat × Error) → Option (Nat × Error) → Option (Nat × Error)
  | none, y => y
  | x, none => x
  | some (m, e), some (n, f) => if n < m then some (n, f) else some (m, e)

/-- Puts two values together. -/
def both {α β γ : Type} (f : α → β → γ) (x : Making α) (y : Making β) : Making γ :=
  ⟨f x.value y.value, worse x.fault y.fault⟩

/-- Changes a value. -/
def map {α β : Type} (f : α → β) (x : Making α) : Making β := ⟨f x.value, x.fault⟩

/-- A result as a value in the making. -/
def ofExcept {α : Type} (level : Nat) (fallback : α) : Except Error α → Making α
  | .ok v => ⟨v, none⟩
  | .error e => failed level fallback e

end Making

mutual

/-- The text of a node that is taken as a scalar: of a mapping, that under its lone equals sign. -/
def Node.text? : Node → Option String
  | .scalar _ text => some text
  | .mapping _ entries => Node.standText? entries
  | _ => none

/-- The text of the first entry under a lone equals sign. -/
def Node.standText? : List (Node × Node) → Option String
  | [] => none
  | (.scalar .value _, v) :: _ => v.text?
  | _ :: rest => Node.standText? rest

end

/-- A collection that a kind asks to be a scalar. Of the kinds of scalars a moment is looked for in
the text itself. -/
def Node.asScalar (kind : Kind) (entries : List (Node × Node)) : Except Error Value :=
  match Node.standText? entries with
  | some text =>
    if kind = .timestamp then .error (.fault .wrongKind) else scalarContent kind text
  | none => .error .malformed

/-- Whether a kind is one of collections. -/
def Kind.isCollection (kind : Kind) : Bool :=
  [.seq, .map, .set, .orderedMap, .pairs].contains kind

/-- The value of a key. No collection is one; a lone equals sign is a text. -/
def keyContent (level : Nat) : Node → Making Value
  | .scalar .value text => ⟨.str text, none⟩
  | .scalar kind text => Making.ofExcept level .null (scalarContent kind text)
  | .mapping kind entries =>
    if kind.isCollection then Making.failed level .null .malformed
    else Making.ofExcept level .null (Node.asScalar kind entries)
  | _ => Making.failed level .null .malformed

mutual

/-- The value of a node at a level. What is in a collection belongs to the next level. -/
def content (level : Nat) : Node → Making Value
  | .sequence kind items =>
    match kind with
    | .seq => (itemsContent (level + 1) items).map .list
    | .orderedMap | .pairs => (pairsContent (level + 1) items).map .list
    | .map | .set => Making.failed (level + 1) .null .malformed
    | _ => Making.failed level .null .malformed
  | .mapping kind entries =>
    match kind with
    | .map => (entriesContent (level + 1) [] entries).map .map
    | .set => (entriesContent (level + 1) [] entries).map fun es => .set (es.map Prod.fst)
    | .seq | .orderedMap | .pairs => Making.failed (level + 1) .null .malformed
    | _ => Making.ofExcept level .null (Node.asScalar kind entries)
  | .scalar kind text =>
    if kind.isCollection then Making.failed (level + 1) .null .malformed
    else Making.ofExcept level .null (scalarContent kind text)
  | .unmergeable => Making.failed (level + 1) .null .malformed
  | .enclosing _ => ⟨.null, none⟩

/-- The values of the items of a list. -/
def itemsContent (level : Nat) : List Node → Making (List Value)
  | [] => ⟨[], none⟩
  | n :: rest => Making.both List.cons (content level n) (itemsContent level rest)

/-- The entries of a mapping, put to those before. Of equal keys the last counts, in the place of
the first. -/
def entriesContent (level : Nat) (before : List (Value × Value)) :
    List (Node × Node) → Making (List (Value × Value))
  | [] => ⟨before, none⟩
  | (k, v) :: rest =>
    let key := keyContent level k
    let value := content level v
    let after := entriesContent level (Value.put key.value value.value before) rest
    ⟨after.value, Making.worse (Making.worse key.fault value.fault) after.fault⟩

/-- The entries of a list that keeps the order of a mapping: each item is a mapping of one entry,
whose key may be anything. -/
def pairsContent (level : Nat) : List Node → Making (List Value)
  | [] => ⟨[], none⟩
  | .mapping _ [(k, v)] :: rest =>
    let pair := Making.both Value.pair (content level k) (content level v)
    Making.both List.cons pair (pairsContent level rest)
  | .enclosing _ :: rest => pairsContent level rest
  | _ => Making.failed level [] .malformed

end

/-- The value of a tree. -/
def Tree.value (t : Tree) : Except Error Value :=
  let made := content 0 t.settled
  match made.fault with
  | some (_, e) => .error e
  | none => .ok made.value

end RowGuard.Yaml
