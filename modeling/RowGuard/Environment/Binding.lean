import RowGuard.Environment.Variables
import RowGuard.Fault
import RowGuard.Text.Blank
import RowGuard.Text.Search

/-!
# Files of variables

A file may set variables, one a line: a name, an equals sign and a value, which may be quoted and
then runs over lines. Values may refer to variables. A variable that is set already stays as it is.
A line that cannot be read is passed over.
-/

namespace RowGuard.Binding

/-- Whether a character is a blank within a line. -/
def isGap (c : Char) : Bool := Text.isBlank c && c ≠ '\n' && c ≠ '\r'

/-- Whether a character ends a line. -/
def isBreak (c : Char) : Bool := c = '\n' || c = '\r'

/-- A quoted text behind its opening quote, and what follows it. A character behind a backslash
does not close it, and a text that nothing else closes is not taken for a shorter one. -/
def quoted? (quote : Char) : List Char → Option (List Char × List Char)
  | [] => none
  | '\\' :: c :: rest => (quoted? quote rest).map fun (text, after) => ('\\' :: c :: text, after)
  | c :: rest =>
    if c = quote then some ([], rest)
    else (quoted? quote rest).map fun (text, after) => (c :: text, after)

/-- What a backslash and a character stand for in a text in double quotes. -/
def doubleEscapes : List (Char × Char) :=
  [('\\', '\\'), ('\x27', '\x27'), ('\x22', '\x22'), ('a', '\x07'), ('b', '\x08'), ('f', '\x0c'),
   ('n', '\n'), ('r', '\r'), ('t', '\t'), ('v', '\x0b')]

/-- What a backslash and a character stand for in a text in single quotes. -/
def singleEscapes : List (Char × Char) := [('\\', '\\'), ('\x27', '\x27')]

/-- A text with its escapes replaced. -/
def unescape (escapes : List (Char × Char)) : List Char → List Char
  | [] => []
  | '\\' :: c :: rest =>
    match escapes.lookup c with
    | some image => image :: unescape escapes rest
    | none => '\\' :: unescape escapes (c :: rest)
  | c :: rest => c :: unescape escapes rest

/-- A text up to a comment: a hash sign behind blanks. -/
def beforeComment : List Char → List Char
  | [] => []
  | c :: rest =>
    if Text.isBlank c && (rest.dropWhile Text.isBlank).head? = some '#' then []
    else c :: beforeComment rest

/-- A text without the blanks at its end. -/
def trimEnd (text : List Char) : List Char := (text.reverse.dropWhile Text.isBlank).reverse

/-- Reads a value, and what follows it. The blanks before it can begin a comment. -/
def value? (text : List Char) : Option (List Char × List Char) :=
  match text.dropWhile isGap with
  | '\x27' :: rest =>
    (quoted? '\x27' rest).map fun (v, after) => (unescape singleEscapes v, after)
  | '\x22' :: rest =>
    (quoted? '\x22' rest).map fun (v, after) => (unescape doubleEscapes v, after)
  | _ =>
    let said := beforeComment (text.takeWhile (!isBreak ·))
    some (trimEnd (said.dropWhile isGap), text.dropWhile (!isBreak ·))

/-- Reads a name, and what follows it. A comment has no name. -/
def name? (text : List Char) : Option (Option (List Char) × List Char) :=
  match text with
  | '#' :: _ => some (none, text)
  | '\x27' :: rest =>
    match rest.takeWhile (· ≠ '\x27'), rest.dropWhile (· ≠ '\x27') with
    | c :: name, _ :: after => some (some (c :: name), after)
    | _, _ => none
  | _ =>
    let inName (c : Char) : Bool := c ≠ '=' && c ≠ '#' && !Text.isBlank c
    match text.takeWhile inName with
    | [] => none
    | name => some (some name, text.dropWhile inName)

/-- The text behind a leading `export`. -/
def pastExport (text : List Char) : List Char :=
  let word := "export".toList
  if word.isPrefixOf text && ((text.drop word.length).head?.any isGap) then
    (text.drop word.length).dropWhile isGap
  else text

/-- The text behind a comment and the end of its line, if no more than that is on the line. -/
def endLine? (text : List Char) : Option (List Char) :=
  let rest := text.dropWhile isGap
  let rest := if rest.head? = some '#' then rest.dropWhile (!isBreak ·) else rest
  match rest with
  | [] => some []
  | '\r' :: '\n' :: rest => some rest
  | c :: rest => if isBreak c then some rest else none

/-- What a line says. -/
inductive Line where
  | binding (name : List Char) (value : Option (List Char))
  | blank
  | unreadable
  deriving DecidableEq, Repr

/-- The text behind the rest of a line. -/
def pastLine (text : List Char) : List Char := (text.dropWhile (!isBreak ·)).drop 1

/-- Reads a name and its value, and where they end. Where no line can be read, what is left when
that shows comes with it. -/
def line (text : List Char) : Line × List Char :=
  let start := pastExport text
  match name? start with
  | none => (.unreadable, pastLine start)
  | some (name, rest) =>
    let rest := rest.dropWhile isGap
    let value : Option (Option (List Char) × List Char) := match rest with
      | '=' :: rest => (value? rest).map fun (v, after) => (some v, after)
      | _ => some (none, rest)
    match value with
    | none => (.unreadable, pastLine ((rest.drop 1).dropWhile isGap))
    | some (v, after) =>
      match endLine? after with
      | none =>
        let after := after.dropWhile isGap
        (.unreadable, pastLine after)
      | some rest =>
        match name with
        | some n => (.binding n v, rest)
        | none => (.blank, rest)

/-- The lines of a text, each with the number of the line behind the one before it. -/
def lines (number : Nat) : Nat → List Char → List (Nat × Line)
  | 0, _ => []
  | _, [] => []
  | fuel + 1, text =>
    let start := text.dropWhile Text.isBlank
    if start.isEmpty then []
    else
      let (l, rest) := line start
      let passed := text.take (text.length - rest.length)
      (number, l) :: lines (number + (passed.filter isBreak).length) fuel rest

/-! ## References between variables -/

/-- The reference behind an opening brace: the name, what stands for it when it is not set, and
what follows. -/
def reference? (text : List Char) : Option (List Char × List Char × List Char) :=
  let name := text.takeWhile fun c => c ≠ '}' && c ≠ ':'
  match text.drop name.length with
  | '}' :: rest => some (name, [], rest)
  | ':' :: '-' :: rest =>
    let fallback := rest.takeWhile (· ≠ '}')
    match rest.drop fallback.length with
    | _ :: after => some (name, fallback, after)
    | [] => none
  | _ => none

/-- A value in which references are replaced by what `get` knows. -/
def resolve (get : String → Option String) : Nat → List Char → List Char
  | 0, _ => []
  | _, [] => []
  | fuel + 1, c :: rest =>
    let found := match c, rest with
      | '$', '{' :: inner => reference? inner
      | _, _ => none
    match found with
    | some (name, fallback, after) =>
      (((get (String.ofList name)).map String.toList).getD fallback) ++ resolve get fuel after
    | none => c :: resolve get fuel rest

/-- The names of a file with their values. Of a name that is bound twice the last value counts; a
name without an equals sign has none. What the environment has comes before what the file says. -/
def resolved (vars : Variables) (done : List (String × Option String)) :
    List (Nat × Line) → List (String × Option String)
  | [] => done
  | (_, .binding name value) :: rest =>
    let name := String.ofList name
    let get (n : String) : Option String :=
      match vars.get? n with
      | some v => some v
      | none => (done.lookup n).map (·.getD "")
    let value := value.map fun v => String.ofList (resolve get (v.length + 1) v)
    let done := if done.any (·.1 = name)
      then done.map fun b => if b.1 = name then (name, value) else b
      else done ++ [(name, value)]
    resolved vars done rest
  | _ :: rest => resolved vars done rest

/-- A text without regard to case: the long `s` is an `s` as well. -/
def folded (text : String) : String := (Text.lowered text).map fun c => if c = 'ſ' then 's' else c

/-- Whether files of variables are left alone. -/
def disabled (vars : Variables) : Bool :=
  (vars.get? "PYTHON_DOTENV_DISABLED").any fun v =>
    ["1", "true", "t", "yes", "y"].contains (folded v)

/-- Sets the variables that are not set. A name with an equals sign, or a character of code zero,
cannot be set and stops this. -/
def setAll (vars : Variables) : List (String × Option String) → Variables × Except Fault Unit
  | [] => (vars, .ok ())
  | (_, none) :: rest => setAll vars rest
  | (name, some value) :: rest =>
    if (vars.get? name).isSome then setAll vars rest
    else if name.toList.contains '=' || (name ++ value).toList.contains '\x00' then
      (vars, .error .badContent)
    else setAll (vars.setDefault name value) rest

/-- A text without the mark of its byte order. -/
def withoutMark : List Char → List Char
  | c :: rest => if c = '\ufeff' then rest else c :: rest
  | [] => []

/-- The variables after a file has been read, and the numbers of the lines that cannot be read. -/
def load (vars : Variables) (text : List Char) : Variables × List Nat × Except Fault Unit :=
  let ls := lines 1 text.length (withoutMark text)
  let unreadable := (ls.filter (·.2 = .unreadable)).map Prod.fst
  let (after, r) := setAll vars (resolved vars [] ls)
  (after, unreadable, r)

end RowGuard.Binding
