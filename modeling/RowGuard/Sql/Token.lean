import RowGuard.Number.Reading
import RowGuard.Sql.Keyword
import RowGuard.Text.Case
import RowGuard.Text.NameStart

/-!
# SQL tokens

Cuts the text of a statement into tokens in the manner of MySQL: two kinds of string marks with
backslash and doubled-mark escapes, names in backquotes, names that may begin with a digit,
hexadecimal and bit literals, and four kinds of comments. A keyword of several words, such as
`ORDER BY`, is one token however much blank stands between the words.

Some statements are known by their first word alone: what follows it, up to the semicolon, is cut
into tokens like all else and then kept as one string.
-/

namespace RowGuard.Sql

/-- What a token is. -/
inductive Kind where
  /-- A name without quotes that is no keyword. -/
  | word
  /-- A name in backquotes. -/
  | quotedName
  | string
  /-- A string in the national character set. -/
  | national
  | number
  /-- A hexadecimal or bit literal. -/
  | bits
  /-- A character set that introduces a string. -/
  | introducer
  /-- Advice to the database, between the marks of a comment. -/
  | hint
  /-- A keyword or symbol, by its key. -/
  | keyword (key : String)
  deriving DecidableEq, Repr

/-- A token with its text. -/
structure Token where
  kind : Kind
  text : String
  /-- The text in capitals. A string has none, so that it never passes for a word. -/
  capitals : String := ""
  deriving DecidableEq, Repr

namespace Token

/-- What the grammar knows a keyword or symbol by; other tokens have none. -/
def key (t : Token) : String :=
  match t.kind with
  | .keyword key => key
  | _ => ""

/-- The characters that stand for themselves and end a name. -/
def singles : List Char :=
  "()[]\x7b\x7d&^:,-.+;/\\~|*%!<>=?@\x27\x22\x60#".toList

/-- Symbols of several characters with their keys, the longest first. Those without a key begin a
comment. -/
def symbols : List (String × String) :=
  [("USER-DEFINED", "USER-DEFINED"), ("\x7b%+", "\x7b%"), ("\x7b%-", "\x7b%"), ("-%\x7d", "%\x7d"),
   ("+%\x7d", "%\x7d"), ("\x7b\x7b+", "\x7b%"), ("\x7b\x7b-", "\x7b%"), ("+\x7d\x7d", "%\x7d"),
   ("-\x7d\x7d", "%\x7d"), ("/*+", ""), ("-|-", "-|-"), ("<=>", "<=>"), ("->>", "->>"),
   ("#>>", "#>>"), ("?::", "?::"), ("~~~", "GLOB"), ("~~*", "ILIKE"), ("<->", "<->"),
   ("\x7b%", "\x7b%"), ("%\x7d", "%\x7d"), ("/*", ""), ("--", ""), ("\x7b#", ""), ("::", "::"),
   ("||", "||"), ("|>", "|>"), (">=", ">="), ("<=", "<="), ("<>", "<>"), ("!=", "<>"), (":=", ":="),
   ("->", "->"), ("=>", "=>"), ("#>", "#>"), ("&&", "&&"), ("??", "??"), ("~~", "LIKE"),
   ("~*", "~*"), ("@@", "@@"), ("&<", "&<"), ("&>", "&>"), ("==", "="), ("#", "")]

/-- The key of a character that stands for itself. -/
def keyOfSingle : Char → String
  | '%' => "MOD"
  | '!' => "NOT"
  | c => String.singleton c

/-- Whether a character can stand inside a name. -/
def inName (c : Char) : Bool := !Text.isBlank c && !singles.contains c

/-! ## Strings and quoted names -/

/-- Escapes that stand for one character. -/
def unescape? : Char → Option Char
  | 'a' => some '\x07'
  | 'b' => some '\x08'
  | 'f' => some '\x0c'
  | 'n' => some '\n'
  | 'r' => some '\r'
  | 't' => some '\t'
  | 'v' => some '\x0b'
  | '\\' => some '\\'
  | _ => none

/-- Characters behind a backslash that leave the backslash in the text. -/
def keepsBackslash : List Char := ['0', 'b', 'n', 'r', 't', 'Z', '%', '_']

/-- The marks that enclose strings. -/
def stringMarks : List Char := ['\x27', '\x22']

/-- Reads up to the closing `mark`, and past it. Two characters of `escapes` in a row stand for
the second; of the string marks only a doubled one does. -/
def untilMark (mark : Char) (escapes : List Char) : List Char → Option (List Char × List Char)
  | c :: d :: rest =>
    match if c = '\\' then unescape? d else none with
    | some e => (untilMark mark escapes rest).map fun (text, rest) => (e :: text, rest)
    | none =>
      let dropsBackslash := c == '\\' && !keepsBackslash.contains d
      if escapes.contains c && (d == mark || escapes.contains d || dropsBackslash)
          && (!stringMarks.contains c || c == d) then
        if rest.isEmpty then none
        else (untilMark mark escapes rest).map fun (text, rest) =>
          (if d == mark || dropsBackslash then (d :: text, rest) else (c :: d :: text, rest))
      else if c = mark then some ([], d :: rest)
      else (untilMark mark escapes (d :: rest)).map fun (text, rest) => (c :: text, rest)
  | [c] => if c = mark then some ([], []) else none
  | [] => none

/-- A string literal, its opening mark passed. -/
def untilStringMark (mark : Char) : List Char → Option (List Char × List Char) :=
  untilMark mark ['\x27', '\x22', '\\']

/-! ## Comments -/

/-- The text of a comment up to the two characters that end it, and what follows them; nothing when
they do not come. -/
def untilEnd? (first second : Char) : List Char → Option (List Char × List Char)
  | c :: d :: rest =>
    if c = first && d = second then some ([], rest)
    else (untilEnd? first second (d :: rest)).map fun (text, rest) => (c :: text, rest)
  | _ => none

/-- What follows a comment that ends with its line. -/
def afterLine (cs : List Char) : List Char := cs.dropWhile (· ≠ '\n')

/-! ## Words -/

/-- The characters after `pattern`, in either case, if the text begins with it. -/
def stripWord? : List Char → List Char → Option (List Char)
  | [], cs => some cs
  | p :: pattern, c :: cs => if Text.upper [c] = [p] then stripWord? pattern cs else none
  | _ :: _, [] => none

/-- A phrase at the beginning of the text, and what follows it. -/
def stripPhrase? : List String → List Char → Option (List Char)
  | [], cs => some cs
  | [word], cs => (stripWord? word.toList cs).filter fun rest => !(rest.head?.any inName)
  | word :: more, cs =>
    match stripWord? word.toList cs with
    | some (c :: rest) =>
      if Text.isBlank c then stripPhrase? more (rest.dropWhile Text.isBlank) else none
    | _ => none

/-- The keyword of several words that the text begins with. -/
def phrase? (cs : List Char) : Option (Token × List Char) :=
  Keyword.phrases.findSome? fun (words, key) =>
    let text := " ".intercalate words
    (stripPhrase? words cs).map fun rest => (⟨.keyword key, text, text⟩, rest)

/-- A token with the given text. -/
def ofText (kind : Kind) (text : List Char) : Token :=
  ⟨kind, String.ofList text, String.ofList (Text.upper text)⟩

/-- A word, which is a keyword or introduces a string only where it is not `free`. -/
def ofWord (free : Bool) (text : List Char) : Token :=
  let t := ofText .word text
  if free then t
  else if Keyword.introducers.contains t.capitals then { t with kind := .introducer }
  else match Keyword.key? t.capitals with
    | some key => { t with kind := .keyword key }
    | none => t

/-- A symbol. -/
def ofSymbol (spelling key : String) : Token := ⟨.keyword key, spelling, spelling⟩

/-! ## Numbers -/

/-- The characters of a number after its first digit. `point`, `exponent` and `signed` say what has
been read already; the flag of the answer tells whether it is a number after all, and not a name
that begins with a digit. -/
def numberTail (point exponent signed : Bool) : List Char → List Char × Bool × List Char
  | [] => ([], true, [])
  | c :: rest =>
    let more (point exponent signed : Bool) :=
      let (text, isNumber, rest) := numberTail point exponent signed rest
      (c :: text, isNumber, rest)
    if c.isDigit then more point exponent signed
    else if c = '.' && !point then more true exponent signed
    else if (c = '-' || c = '+') && exponent && !signed then
      if rest.head?.any Char.isDigit then more point exponent true else ([], true, c :: rest)
    else if (c = 'e' || c = 'E') && !exponent then more point true signed
    else if Text.isNameStart c then
      ((c :: rest).takeWhile inName, false, (c :: rest).dropWhile inName)
    else ([], true, c :: rest)

/-- Whether a text denotes a number to the given base. -/
def isNumeral (base : Nat) (text : List Char) : Bool := (intOfText base text).toOption.isSome

/-! ## One token -/

/-- What one reading step finds. -/
inductive Step where
  | token (token : Token) (rest : List Char)
  | skip (rest : List Char)
  /-- A string, name or comment without its end, or a literal with a foreign digit. -/
  | malformed

/-- A literal in hexadecimal or binary digits after a leading zero and a letter. With other
characters among the digits it is a name. -/
def zeroLiteral (base : Nat) (letter : Char) (rest : List Char) : Step :=
  let text := '0' :: letter :: rest.takeWhile inName
  let kind := if isNumeral base text then Kind.bits else Kind.quotedName
  .token (ofText kind text) (rest.dropWhile inName)

/-- A literal of digits between string marks, the opening one passed. There may be no digits. -/
def markedLiteral (base : Nat) (mark : Char) (rest : List Char) : Step :=
  match untilStringMark mark rest with
  | some (text, rest) =>
    if text.isEmpty || isNumeral base text then .token (ofText .bits text) rest else .malformed
  | none => .malformed

/-- A comment, its `opening` passed. Two dashes begin one only before a blank, and a hint counts
only `afterVerb`, the word that begins a statement. Nothing if it is no comment after all. -/
def comment? (opening : String) (afterVerb : Bool) (rest : List Char) : Option Step :=
  let block (first second : Char) : Step :=
    match untilEnd? first second rest with
    | none => .malformed
    | some (text, rest) =>
      if opening == "/*+" && afterVerb then .token ⟨.hint, String.ofList text, ""⟩ rest
      else .skip rest
  match opening with
  | "/*" | "/*+" => some (block '*' '/')
  | "\x7b#" => some (block '#' '\x7d')
  | "--" => if rest.head?.any fun c => !Text.isBlank c then none else some (.skip (afterLine rest))
  | _ => some (.skip (afterLine rest))

/-- Reads a token that begins with neither a blank nor a digit nor a quote. -/
def readOther (free afterVerb : Bool) (cs : List Char) : Step :=
  let single : Step :=
    match cs with
    | [] => .malformed
    | c :: rest =>
      if singles.contains c then .token (ofSymbol (String.singleton c) (keyOfSingle c)) rest
      else .token (ofWord free (c :: rest.takeWhile inName)) (rest.dropWhile inName)
  match symbols.findSome? fun s => (stripWord? s.1.toList cs).map fun rest => (s, rest) with
  | some ((opening, ""), rest) => (comment? opening afterVerb rest).getD single
  | some ((spelling, key), rest) => .token (ofSymbol spelling key) rest
  | none =>
    match phrase? cs with
    | some (t, rest) => .token t rest
    | none => single

/-- The words behind which a hint may stand. -/
def verbs : List String := ["SELECT", "INSERT", "UPDATE", "DELETE"]

/-- Reads one token or passes over a blank or comment. `before` is the key of the token before: an
at sign makes the next word a mere name and the next number a whole one. -/
def step (before : String) : List Char → Step
  | [] => .malformed
  | c :: rest =>
    let other : Step := readOther (before == "@") (verbs.contains before) (c :: rest)
    let quoted (kind : Kind) (read : Option (List Char × List Char)) : Step :=
      match read with
      | some (text, rest) => .token (ofText kind text) rest
      | none => .malformed
    if Text.isBlank c then .skip rest
    else if c.isDigit then
      match c, rest with
      | '0', 'x' :: rest => zeroLiteral 16 'x' rest
      | '0', 'X' :: rest => zeroLiteral 16 'X' rest
      | '0', 'b' :: rest => zeroLiteral 2 'b' rest
      | '0', 'B' :: rest => zeroLiteral 2 'B' rest
      | _, _ =>
        let (text, isNumber, rest) := numberTail (before == "@") false false rest
        .token (ofText (if isNumber then .number else .word) (c :: text)) rest
    else if c = '\x60' then quoted .quotedName (untilMark '\x60' ['\x60'] rest)
    else if stringMarks.contains c then
      match untilStringMark c rest with
      | some (text, rest) => .token ⟨.string, String.ofList text, ""⟩ rest
      | none => .malformed
    else match c, rest with
      | 'x', '\x27' :: rest | 'X', '\x27' :: rest => markedLiteral 16 '\x27' rest
      | 'b', '\x27' :: rest | 'B', '\x27' :: rest => markedLiteral 2 '\x27' rest
      | 'n', mark :: more | 'N', mark :: more =>
        if stringMarks.contains mark then quoted .national (untilStringMark mark more) else other
      | _, _ => other

/-! ## All tokens -/

/-- Passes over the tokens up to a semicolon that stands where a token ends. -/
def skipCommand : Nat → String → List Char → Option (List Char)
  | _, _, [] => some []
  | 0, _, _ :: _ => none
  | fuel + 1, before, cs => do
    let (before, rest) ← match step before cs with
      | .token t rest => some (t.key, rest)
      | .skip rest => some (before, rest)
      | .malformed => none
    if rest.head? = some ';' then return rest else skipCommand fuel before rest

/-- The tokens of a text of at most `fuel` characters, or nothing when it is malformed. -/
def readAll : Nat → String → List Char → Option (List Token)
  | _, _, [] => some []
  | 0, _, _ :: _ => none
  | fuel + 1, before, cs =>
    match step before cs with
    | .malformed => none
    | .skip rest => readAll fuel before rest
    | .token t rest =>
      if Keyword.commands.contains t.key && (before == ";" || before == "BEGIN")
          && rest.head? ≠ some ';' then do
        let after ← skipCommand fuel t.key rest
        let text := Text.trim (rest.take (rest.length - after.length))
        let argument : List Token :=
          if text.isEmpty then [] else [⟨.string, String.ofList text, ""⟩]
        return t :: argument ++ (← readAll fuel (if text.isEmpty then t.key else "") after)
      else return t :: (← readAll fuel t.key rest)

end Token

/-- The tokens of a text, without blanks and comments; nothing when a quote does not end. -/
def tokens? (text : List Char) : Option (List Token) := Token.readAll text.length "" text

/-- The statements of a token list, cut at semicolons. A semicolon at the very end begins no
further statement. -/
def statements : List Token → List (List Token)
  | [] => [[]]
  | t :: rest =>
    if t.key = ";" then if rest.isEmpty then [[]] else [] :: statements rest
    else match statements rest with
      | first :: more => (t :: first) :: more
      | [] => [[t]]

end RowGuard.Sql
