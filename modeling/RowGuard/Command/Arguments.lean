import RowGuard.Text.Digit
import RowGuard.Text.Quoted
import RowGuard.Text.Search

/-!
# Arguments of the command line

An option is given by one of its two names. The long one may be cut short as long as no other
begins so, and takes its value behind an equals sign or as the next argument; the short one also
directly. Names of one dash may be packed behind one that takes no value. Nothing but options is
taken.
-/

namespace RowGuard.Command

/-- The options. -/
inductive Flag where
  | help
  | table
  | query
  | file
  | config
  | logLevel
  | version
  deriving DecidableEq, Repr

namespace Flag

/-- The names of an option, in the order in which they are shown. -/
def names : Flag → List String
  | help => ["-h", "--help"]
  | table => ["--table", "-t"]
  | query => ["--query", "-q"]
  | file => ["--file", "-f"]
  | config => ["--config", "-c"]
  | logLevel => ["--log-level", "-l"]
  | version => ["--version", "-v"]

/-- All options, in the order in which they are shown. -/
def all : List Flag := [help, table, query, file, config, logLevel, version]

/-- The names of an option as one text. -/
def label (f : Flag) : String := "/".intercalate f.names

/-- Whether an option takes a value. -/
def takesValue : Flag → Bool
  | help | version => false
  | _ => true

/-- Every name with its option. -/
def spelled : List (String × Flag) := all.flatMap fun f => f.names.map fun n => (n, f)

/-- The option of a name. -/
def ofName? (name : String) : Option Flag := spelled.lookup name

end Flag

/-- The levels that can be asked for. -/
def levels : List String := ["DEBUG", "INFO", "WARNING", "ERROR", "CRITICAL"]

/-- What is wrong with a command line. -/
inductive UsageError where
  | ambiguous (argument : String) (names : List String)
  | missingValue (f : Flag)
  /-- An option that takes no value has been given one. -/
  | idleValue (f : Flag) (value : String)
  | conflict (f : Flag) (other : Flag)
  | unknownLevel (f : Flag) (value : String)
  | missingTable
  | unrecognized (arguments : List String)
  deriving DecidableEq, Repr

/-- What the user is told. -/
def UsageError.message : UsageError → String
  | ambiguous argument names =>
    let matching := ", ".intercalate names
    s!"ambiguous option: {argument} could match {matching}"
  | missingValue f => s!"argument {f.label}: expected one argument"
  | idleValue f value =>
    let value := Text.quote value
    s!"argument {f.label}: ignored explicit argument {value}"
  | conflict f other => s!"argument {f.label}: not allowed with argument {other.label}"
  | unknownLevel f value =>
    let choices := ", ".intercalate (levels.map Text.quote)
    let value := Text.quote value
    s!"argument {f.label}: invalid choice: {value} (choose from {choices})"
  | missingTable => s!"the following arguments are required: {Flag.table.label}"
  | unrecognized arguments => "unrecognized arguments: " ++ " ".intercalate arguments

/-- What a request on the command line consists of. -/
structure Arguments where
  table : String
  query : Option String := none
  file : Option String := none
  config : Option String := none
  logLevel : Option String := none
  deriving DecidableEq, Repr

/-- What a command line asks for. -/
inductive Task where
  | help
  | version
  | answer (a : Arguments)
  deriving DecidableEq, Repr

/-! ## Words -/

/-- What an argument is by its form. -/
inductive Word where
  /-- No option; it may be the value of one. -/
  | plain (text : String)
  /-- Two dashes, behind which there are no options. -/
  | dashes
  /-- The name of an option, with a value that is given with it. -/
  | option (f : Flag) (name : String) (value : Option String)
  | unknown (text : String)
  deriving DecidableEq, Repr

/-- A text up to its first equals sign, and what is behind that. -/
def splitValue (text : String) : String × Option String :=
  let name := text.toList.takeWhile (· ≠ '=')
  match text.toList.dropWhile (· ≠ '=') with
  | [] => (text, none)
  | _ :: value => (String.ofList name, some (String.ofList value))

/-- Whether a text is a negative number. A line break may end it. -/
def isNegative (text : List Char) : Bool :=
  let isDigit (c : Char) : Bool := (Text.digitValue? c).isSome
  match if text.getLast? = some '\n' then text.dropLast else text with
  | '-' :: body =>
    match body.dropWhile isDigit with
    | [] => !body.isEmpty
    | '.' :: rest => !rest.isEmpty && rest.all isDigit
    | _ => false
  | _ => false

/-- The options that an argument of two dashes may be short for. -/
def abbreviated (text : String) : List Word :=
  let (name, value) := splitValue text
  (Flag.spelled.filter fun s => name.toList.isPrefixOf s.1.toList).map fun s =>
    .option s.2 s.1 value

/-- The options that an argument of one dash may stand for: its first letter, with the rest as the
value. -/
def packed (text : String) : List Word :=
  let first := String.ofList (text.toList.take 2)
  (Flag.spelled.filter fun s => s.1 = first).map fun s =>
    .option s.2 s.1 (some (String.ofList (text.toList.drop 2)))

/-- The name of the option that a word is. -/
def Word.name? : Word → Option String
  | option _ name _ => some name
  | _ => none

/-- What an argument is. One that is not known as an option is a plain word if it is a negative
number or has a space in it. -/
def Word.ofText (text : String) : Except UsageError Word :=
  match text.toList with
  | '-' :: second :: _ =>
    match Flag.ofName? text, splitValue text with
    | some f, _ => .ok (.option f text none)
    | none, (name, value) =>
      match value, Flag.ofName? name with
      | some v, some f => .ok (.option f name (some v))
      | _, _ =>
        match if second = '-' then abbreviated text else packed text with
        | [] =>
          if isNegative text.toList || text.toList.contains ' ' then .ok (.plain text)
          else .ok (.unknown text)
        | [w] => .ok w
        | ws => .error (.ambiguous text (ws.filterMap Word.name?))
  | _ => .ok (.plain text)

/-- What the arguments are. -/
def words : List String → Except UsageError (List Word)
  | [] => .ok []
  | text :: rest =>
    if text = "--" then .ok (.dashes :: rest.map .plain)
    else do return (← Word.ofText text) :: (← words rest)

/-! ## Values -/

/-- An option in use, with its value if it takes one. -/
abbrev Use := Flag × Option String

/-- The options that one argument stands for, and the last of them if its value is still to
come. -/
structure Unpacked where
  uses : List Use
  pending : Option Flag := none
  deriving DecidableEq, Repr

/-- Takes an argument apart that begins with the letter of an option: one that takes no value must
have others packed behind it, of which the last may have a value. -/
def unpack (f : Flag) : List Char → Except UsageError Unpacked
  | [] => .ok (if f.takesValue then ⟨[], some f⟩ else ⟨[(f, none)], none⟩)
  | c :: rest =>
    if f.takesValue then .ok ⟨[(f, some (String.ofList (c :: rest)))], none⟩
    else match Flag.ofName? (String.ofList ['-', c]) with
      | none => .error (.idleValue f (String.ofList (c :: rest)))
      | some g => do
        let u ← unpack g rest
        return { u with uses := (f, none) :: u.uses }

/-- Whether a name of an option has two dashes. -/
def isLong (name : String) : Bool := "--".toList.isPrefixOf name.toList

/-- The options that a name and the value given with it stand for. -/
def usesOf (f : Flag) (name : String) : Option String → Except UsageError Unpacked
  | none => unpack f []
  | some text =>
    if f.takesValue then .ok ⟨[(f, some text)], none⟩
    else if isLong name || text.isEmpty then .error (.idleValue f text)
    else unpack f text.toList

/-- What a command line has said so far. -/
structure Draft where
  table : Option String := none
  query : Option String := none
  file : Option String := none
  config : Option String := none
  logLevel : Option String := none
  extra : List String := []
  deriving Repr

/-- Takes options into account, in order. Help and the version end this. -/
def Draft.use (d : Draft) : List Use → Except UsageError (Draft ⊕ Task)
  | [] => .ok (.inl d)
  | (.help, _) :: _ => .ok (.inr .help)
  | (.version, _) :: _ => .ok (.inr .version)
  | (.table, v) :: rest => { d with table := v }.use rest
  | (.query, v) :: rest =>
    if d.file.isSome then .error (.conflict .query .file) else { d with query := v }.use rest
  | (.file, v) :: rest =>
    if d.query.isSome then .error (.conflict .file .query) else { d with file := v }.use rest
  | (.config, v) :: rest => { d with config := v }.use rest
  | (.logLevel, v) :: rest =>
    if levels.contains (v.getD "") then { d with logLevel := v }.use rest
    else .error (.unknownLevel .logLevel (v.getD ""))

/-- What a command line asks for once all of it is read. -/
def Draft.finish (d : Draft) : Except UsageError Task :=
  match d.table with
  | none => .error .missingTable
  | some table =>
    if d.extra.isEmpty then .ok (.answer ⟨table, d.query, d.file, d.config, d.logLevel⟩)
    else .error (.unrecognized d.extra)

/-- Reads words, one after the other. -/
def Draft.read (d : Draft) : List Word → Except UsageError Task
  | [] => d.finish
  | .plain text :: rest => { d with extra := d.extra ++ [text] }.read rest
  | .dashes :: rest => { d with extra := d.extra ++ ["--"] }.read rest
  | .unknown text :: rest => { d with extra := d.extra ++ [text] }.read rest
  | .option f name value :: rest => do
    let u ← usesOf f name value
    match u.pending, rest with
    | none, rest =>
      match ← d.use u.uses with
      | .inl d => d.read rest
      | .inr task => return task
    | some f, .plain v :: rest =>
      match ← d.use (u.uses ++ [(f, some v)]) with
      | .inl d => d.read rest
      | .inr task => return task
    | some f, _ => .error (.missingValue f)

/-- What a command line asks for. -/
def Task.ofArguments (arguments : List String) : Except UsageError Task := do
  ({} : Draft).read (← words arguments)

end RowGuard.Command
