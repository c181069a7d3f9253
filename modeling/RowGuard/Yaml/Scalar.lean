import RowGuard.Yaml.Token

/-!
# Scalars

The four ways to write a text: plain, quoted once, quoted twice, and as an indented block. Line
breaks inside a text are folded: a single one counts as a space, of several the first is dropped.
-/

namespace RowGuard.Yaml

/-- The text of a folded line break: `first` is the break itself, `more` are those of the empty
lines behind it. -/
def fold (first : Char) (more : List Char) : List Char :=
  if first ≠ '\n' then first :: more else if more.isEmpty then [' '] else more

/-! ## Plain texts -/

/-- Whether a plain text ends before a character, where `ahead` is the one behind it. Inside
brackets more characters end it. -/
def endsPlain (inFlow : Bool) (c : Char) (ahead : Option Char) : Bool :=
  isBreak c || isSpace c ||
    (c = ':' && (endsWord ahead || (inFlow && ahead.any [',', '[', ']', '{', '}'].contains))) ||
    (inFlow && [',', '?', '[', ']', '{', '}'].contains c)

/-- The length of the longest start of a text that is one piece of a plain text. -/
def plainLength (inFlow : Bool) : List Char → Nat
  | [] => 0
  | c :: rest => if endsPlain inFlow c rest.head? then 0 else plainLength inFlow rest + 1

/-- The breaks of empty lines. The flag says that documents are separated here. -/
def emptyLines : Nat → Position → List Char × Position × Bool
  | 0, p => ([], p, false)
  | fuel + 1, p =>
    let p := p.past (· = ' ')
    match p.break? with
    | none => ([], p, false)
    | some (c, after) =>
      if after.atSeparator then ([], after, true)
      else
        let (more, last, separated) := emptyLines fuel after
        (c :: more, last, separated)

/-- What joins two pieces of a plain text; nothing does at its end. The flag says that a line was
ended. -/
def plainGap (p : Position) : List Char × Position × Bool :=
  let (spaces, p) := p.span (· = ' ')
  match p.break? with
  | none => (spaces, p, false)
  | some (c, after) =>
    if after.atSeparator then ([], after, true)
    else
      match emptyLines after.rest.length after with
      | (_, last, true) => ([], last, true)
      | (more, last, false) => (fold c more, last, true)

/-- The pieces of a plain text from here on, which `gap` joins to what stands before. The flag says
that the text ended with its line. -/
def plainFrom (inFlow : Bool) (indent : Int) (gap : List Char) (ended : Bool) :
    Nat → Position → List Char × Position × Bool
  | 0, p => ([], p, ended)
  | fuel + 1, p =>
    let n := if p.peek = some '#' then 0 else plainLength inFlow p.rest
    if n = 0 then ([], p, ended)
    else
      let piece := gap ++ p.rest.take n
      let (gap, after, broke) := plainGap (p.skip n)
      if gap.isEmpty || after.peek = some '#' || (!inFlow && (after.column : Int) < indent) then
        (piece, after, broke)
      else
        let (more, last, ended) := plainFrom inFlow indent gap broke fuel after
        (piece ++ more, last, ended)

/-- A plain text. Its further lines are indented by at least `indent`. -/
def plain (inFlow : Bool) (indent : Int) (p : Position) : List Char × Position × Bool :=
  plainFrom inFlow indent [] false p.rest.length p

/-! ## Quoted texts -/

/-- Characters that a backslash and a letter stand for. -/
def escapes : List (Char × Char) :=
  [('0', '\x00'), ('a', '\x07'), ('b', '\x08'), ('t', '\t'), ('\t', '\t'), ('n', '\n'),
   ('v', '\x0b'), ('f', '\x0c'), ('r', '\r'), ('e', '\x1b'), (' ', ' '), ('\x22', '\x22'),
   ('\\', '\\'), ('/', '/'), ('N', '\u0085'), ('_', '\u00a0'), ('L', '\u2028'), ('P', '\u2029')]

/-- How many hexadecimal digits follow a backslash and a letter. -/
def escapeWidth? : Char → Option Nat
  | 'x' => some 2
  | 'u' => some 4
  | 'U' => some 8
  | _ => none

/-- The number of exactly `n` hexadecimal digits. -/
def hexNumber? (n : Nat) (text : List Char) : Option Nat :=
  if text.length < n then none
  else (text.take n).foldl (fun sum c => do return 16 * (← sum) + (← hexValue? c)) (some 0)

/-- Whether a number is the first half of a pair that stands for one character. -/
def isHighHalf (n : Nat) : Bool := 0xD800 ≤ n && n < 0xDC00

/-- Whether a number is the second half of such a pair. -/
def isLowHalf (n : Nat) : Bool := 0xDC00 ≤ n && n < 0xE000

/-- The character with a number behind the escape. Halves that stand in a row are one character; a
lone half has no character of its own. -/
def numbered (n : Nat) (p : Position) : Except Error (Char × Position) :=
  if 0x7FFFFFFF < n then .error (.fault .overflow)
  else if 0x10FFFF < n then .error (.fault .badContent)
  else if isHighHalf n then
    match p.rest with
    | '\\' :: 'u' :: rest =>
      match hexNumber? 4 rest with
      | some low =>
        if isLowHalf low then
          .ok (Char.ofNat (0x10000 + (n - 0xD800) * 0x400 + (low - 0xDC00)), p.skip 6)
        else .ok ('\ufffd', p)
      | none => .ok ('\ufffd', p)
    | _ => .ok ('\ufffd', p)
  else if isLowHalf n then .ok ('\ufffd', p)
  else .ok (Char.ofNat n, p)

/-- The breaks between the lines of a quoted text. Documents cannot be separated inside it. -/
def quotedBreaks : Nat → Position → Except Error (List Char × Position)
  | 0, p => .ok ([], p)
  | fuel + 1, p =>
    if p.atSeparator then .error .malformed
    else
      let p := p.past isSpace
      match p.break? with
      | none => .ok ([], p)
      | some (c, after) => do
        let (more, last) ← quotedBreaks fuel after
        return (c :: more, last)

/-- What a backslash at this place and what follows it stand for. -/
def escape (p : Position) : Except Error (List Char × Position) :=
  let p := p.next
  match p.peek with
  | none => .error .malformed
  | some c =>
    match escapes.lookup c, escapeWidth? c with
    | some image, _ => .ok ([image], p.next)
    | none, some n =>
      match hexNumber? n p.next.rest with
      | none => .error .malformed
      | some code => do
        let (image, last) ← numbered code (p.skip (n + 1))
        return ([image], last)
    | none, none =>
      match p.break? with
      | some (_, after) => quotedBreaks (after.rest.length + 1) after
      | none => .error .malformed

/-- What spaces at this place stand for: themselves within a line, a folded break at its end. -/
def quotedGap (p : Position) : Except Error (List Char × Position) :=
  let (spaces, p) := p.span isSpace
  match p.break? with
  | some (c, after) => do
    let (more, last) ← quotedBreaks (after.rest.length + 1) after
    return (fold c more, last)
  | none => if p.rest.isEmpty then .error .malformed else .ok (spaces, p)

/-- The rest of a quoted text, and the place behind its closing quote. -/
def quotedFrom (quote : Char) : Nat → Position → Except Error (List Char × Position)
  | 0, _ => .error .malformed
  | fuel + 1, p =>
    match p.rest with
    | [] => .error .malformed
    | c :: rest =>
      if c = quote then
        if quote = '\x27' && rest.head? = some '\x27' then do
          let (more, last) ← quotedFrom quote fuel (p.skip 2)
          return ('\x27' :: more, last)
        else .ok ([], p.next)
      else if c = '\\' && quote = '\x22' then do
        let (piece, after) ← escape p
        let (more, last) ← quotedFrom quote fuel after
        return (piece ++ more, last)
      else if isSpace c || isBreak c then do
        let (piece, after) ← quotedGap p
        let (more, last) ← quotedFrom quote fuel after
        return (piece ++ more, last)
      else do
        let (more, last) ← quotedFrom quote fuel p.next
        return (c :: more, last)

/-- A quoted text, from its opening quote on. -/
def quoted (quote : Char) (p : Position) : Except Error (List Char × Position) :=
  quotedFrom quote p.rest.length p.next

/-! ## Block texts -/

/-- What happens to the line breaks at the end of a block text. -/
inductive Chomping where
  /-- All but the first are dropped. -/
  | clip
  /-- All are dropped. -/
  | strip
  | keep
  deriving DecidableEq, Repr

/-- The chomping indicator at a place. -/
def chomping? (p : Position) : Option Chomping :=
  match p.peek with
  | some '+' => some .keep
  | some '-' => some .strip
  | _ => none

/-- The indentation indicator at a place, a digit other than zero. -/
def increment? (p : Position) : Except Error (Option Nat) :=
  match p.peek with
  | some c =>
    if c = '0' then .error .malformed
    else if c.isDigit then .ok (some (c.toNat - 48))
    else .ok none
  | none => .ok none

/-- The indicators of a block text, in either order. -/
def blockHeader (p : Position) :
    Except Error ((Chomping × Option Nat) × Position) := do
  let (style, digit, p) ← match chomping? p with
    | some style => do
      let digit ← increment? p.next
      pure (style, digit, if digit.isSome then p.skip 2 else p.next)
    | none => do
      match ← increment? p with
      | some n =>
        match chomping? p.next with
        | some style => pure (style, some n, p.skip 2)
        | none => pure (Chomping.clip, some n, p.next)
      | none => pure (Chomping.clip, none, p)
  if (p.peek).all fun c => c = ' ' || isBreak c then return ((style, digit), p)
  else .error .malformed

/-- The place behind the rest of a line that may hold a comment only. -/
def endLine (p : Position) : Except Error Position :=
  let p := (p.past (· = ' ')).pastComment
  match p.break? with
  | some (_, after) => .ok after
  | none => if p.rest.isEmpty then .ok p else .error .malformed

/-- The breaks of the empty lines ahead of a block text, and the deepest indentation seen. -/
def leadingLines (deepest : Nat) : Nat → Position → List Char × Nat × Position
  | 0, p => ([], deepest, p)
  | fuel + 1, p =>
    let p := p.past (· = ' ')
    let deepest := max deepest p.column
    match p.break? with
    | none => ([], deepest, p)
    | some (c, after) =>
      let (more, deepest, last) := leadingLines deepest fuel after
      (c :: more, deepest, last)

/-- The place behind spaces up to a column. -/
def indentTo (column : Nat) (p : Position) : Position :=
  p.skip (min (column - p.column) (p.rest.takeWhile (· = ' ')).length)

/-- The breaks of empty lines in a block text, and the place where its next line begins. -/
def blockBreaks (indent : Nat) : Nat → Position → List Char × Position
  | 0, p => ([], p)
  | fuel + 1, p =>
    let p := indentTo indent p
    match p.break? with
    | none => ([], p)
    | some (c, after) =>
      let (more, last) := blockBreaks indent fuel after
      (c :: more, last)

/-- The lines of a block text from here on; `breaks` stand before the first. Of a folded text,
lines that do not begin with a space are joined. -/
def blockLines (folded : Bool) (style : Chomping) (indent : Nat) (breaks : List Char) :
    Nat → Position → List Char × Position
  | 0, p => ([], p)
  | fuel + 1, p =>
    let (text, p') := p.span fun c => !isBreak c
    let (ending, after) := (p'.break?.map fun (c, after) => ([c], after)).getD ([], p')
    let (more, next) := blockBreaks indent (after.rest.length + 1) after
    if next.column = indent && !next.rest.isEmpty then
      let joined := folded && ending = ['\n'] && !p.peek.any isSpace && !next.peek.any isSpace
      let gap := if joined then (if more.isEmpty then [' '] else []) else ending
      let (rest, last) := blockLines folded style indent more fuel next
      (breaks ++ text ++ gap ++ rest, last)
    else
      let tail := match style with
        | .clip => ending
        | .strip => []
        | .keep => ending ++ more
      (breaks ++ text ++ tail, next)

/-- A block text, from its indicator on. It is indented deeper than `indent`, the block it stands
in. -/
def block (indent : Int) (p : Position) : Except Error (List Char × Position) := do
  let folded := p.peek = some '>'
  let ((style, digit), p) ← blockHeader p.next
  let p ← endLine p
  let least := (max (indent + 1) 1).toNat
  let (breaks, indent, p) := match digit with
    | none =>
      let (breaks, deepest, p) := leadingLines 0 (p.rest.length + 1) p
      (breaks, max least deepest, p)
    | some n =>
      let (breaks, p) := blockBreaks (least + n - 1) (p.rest.length + 1) p
      (breaks, least + n - 1, p)
  if p.column = indent && !p.rest.isEmpty then
    return blockLines folded style indent breaks (p.rest.length + 1) p
  else return (if style = .keep then breaks else [], p)

end RowGuard.Yaml
