import RowGuard.Fault
import RowGuard.Files.Path
import RowGuard.Text.Quoted

/-!
# Files

The files and directories that a run sees, and the errors of reading them, making directories and
creating files.
-/

namespace RowGuard.Files

/-- What a path may lead to. -/
inductive Entry where
  | file (content : List UInt8)
  | directory
  deriving DecidableEq, Repr

/-- Why a path cannot be used as asked. -/
inductive Cause where
  | notFound
  | taken
  | notDirectory
  | isDirectory
  | nameTooLong
  deriving DecidableEq, Repr

/-- A path that cannot be used as asked. -/
structure Error where
  cause : Cause
  path : String
  deriving DecidableEq, Repr

namespace Cause

/-- The number of a cause. -/
def code : Cause → Nat
  | notFound => 2
  | taken => 17
  | notDirectory => 20
  | isDirectory => 21
  | nameTooLong => 36

/-- What the user is told about a cause. -/
def text : Cause → String
  | notFound => "No such file or directory"
  | taken => "File exists"
  | notDirectory => "Not a directory"
  | isDirectory => "Is a directory"
  | nameTooLong => "File name too long"

end Cause

/-- What the user is told. -/
def Error.message (e : Error) : String :=
  s!"[Errno {e.cause.code}] {e.cause.text}: {Text.quote e.path}"

/-- Files and directories by the names that lead to them from the root, with the working
directory. -/
structure Store where
  cwd : List String
  entries : List (List String × Entry)
  deriving Repr

namespace Store

/-- What is under the given names. A directory need not be listed if something in it is, or if it
is on the way to the working directory. -/
def find? (s : Store) (names : List String) : Option Entry :=
  match s.entries.lookup names with
  | some e => some e
  | none =>
    if names.isPrefixOf s.cwd || s.entries.any fun e => names.isPrefixOf e.1 then some .directory
    else none

/-- The longest name of a file, in bytes. -/
def maxName : Nat := 255

/-- The longest path, in bytes. -/
def maxPath : Nat := 4095

/-- Follows names from a directory. All but the last must be directories. -/
def walk (s : Store) (place : List String) : List String → Except Cause (List String)
  | [] => .ok place
  | n :: rest =>
    match s.find? place with
    | none => .error .notFound
    | some (.file _) => .error .notDirectory
    | some .directory =>
      if maxName < n.utf8ByteSize then .error .nameTooLong
      else walk s (if n = ".." then place.dropLast else place ++ [n]) rest

/-- The names to which a path leads, whether anything is there or not. -/
def locate (s : Store) (p : Path) : Except Cause (List String) :=
  if maxPath < p.text.utf8ByteSize then .error .nameTooLong
  else s.walk (if p.root = "" then s.cwd else []) p.names

/-- What a path leads to. -/
def stat (s : Store) (p : Path) : Except Cause Entry := do
  match s.find? (← s.locate p) with
  | some e => return e
  | none => .error .notFound

/-- Whether a path leads to anything. -/
def has (s : Store) (p : Path) : Except Error Bool :=
  match s.stat p with
  | .ok _ => .ok true
  | .error .nameTooLong => .error ⟨.nameTooLong, p.text⟩
  | .error _ => .ok false

/-- The bytes of a file. -/
def read (s : Store) (p : Path) : Except Error (List UInt8) :=
  match s.stat p with
  | .ok (.file content) => .ok content
  | .ok .directory => .error ⟨.isDirectory, p.text⟩
  | .error c => .error ⟨c, p.text⟩

/-- Adds an entry. -/
def add (s : Store) (names : List String) (e : Entry) : Store :=
  { s with entries := s.entries ++ [(names, e)] }

/-- Makes one directory. -/
def makeOne (s : Store) (p : Path) : Except Cause Store := do
  let names ← s.locate p
  match s.find? names with
  | some _ => .error .taken
  | none =>
    match s.find? names.dropLast with
    | some .directory => return s.add names .directory
    | some (.file _) => .error .notDirectory
    | none => .error .notFound

/-- Whether a path leads to a directory. -/
def isDirectory (s : Store) (p : Path) : Bool := s.stat p matches .ok .directory

/-- Makes one directory unless it is there. -/
def ensureOne (s : Store) (p : Path) : Store × Except Cause Unit :=
  match s.makeOne p with
  | .ok s => (s, .ok ())
  | .error c => (s, if s.isDirectory p then .ok () else .error c)

/-- Makes the directory `root` followed by the names, of which the last comes first here, and those
on the way to it. What has been made before an error stays. -/
def ensureReversed (s : Store) (root : String) : List String → Store × Except Error Unit
  | [] =>
    let p : Path := ⟨root, []⟩
    let (s, r) := s.ensureOne p
    (s, r.mapError fun c => ⟨c, p.text⟩)
  | n :: outer =>
    let p : Path := ⟨root, (n :: outer).reverse⟩
    match s.ensureOne p with
    | (s, .error .notFound) =>
      match ensureReversed s root outer with
      | (s, .error e) => (s, .error e)
      | (s, .ok ()) =>
        let (s, r) := s.ensureOne p
        (s, r.mapError fun c => ⟨c, p.text⟩)
    | (s, .error c) => (s, .error ⟨c, p.text⟩)
    | (s, .ok ()) => (s, .ok ())

/-- Makes a directory and those on the way to it, as far as they are not there. -/
def ensureDirectory (s : Store) (p : Path) : Store × Except Error Unit :=
  s.ensureReversed p.root p.names.reverse

/-- Makes sure that a file is there, for adding to it. -/
def touch (s : Store) (p : Path) : Except Error Store :=
  match s.locate p with
  | .error c => .error ⟨c, p.text⟩
  | .ok names =>
    match s.find? names with
    | some .directory => .error ⟨.isDirectory, p.text⟩
    | some (.file _) => .ok s
    | none =>
      match s.find? names.dropLast with
      | some .directory => .ok (s.add names (.file []))
      | some (.file _) => .error ⟨.notDirectory, p.text⟩
      | none => .error ⟨.notFound, p.text⟩

/-- Adds bytes to a file. -/
def append (s : Store) (names : List String) (bytes : List UInt8) : Store :=
  { s with entries := s.entries.map fun (n, e) =>
      match e with
      | .file content => (n, if n = names then .file (content ++ bytes) else e)
      | .directory => (n, e) }

/-- The bytes of the file under the given names; where none is there are none. -/
def content (s : Store) (names : List String) : List UInt8 :=
  match s.find? names with
  | some (.file content) => content
  | _ => []

/-- Gives an entry other names, in place of what is there. -/
def rename (s : Store) (source target : List String) : Store :=
  { s with entries := (s.entries.filter (·.1 ≠ target)).map fun (n, e) =>
      (if n = source then target else n, e) }

end Store

/-! ## Text files -/

/-- Every line break as one character: a carriage return, with or without a line feed, is one. -/
def unifyBreaks : List Char → List Char
  | [] => []
  | '\r' :: '\n' :: rest => '\n' :: unifyBreaks rest
  | '\r' :: rest => '\n' :: unifyBreaks rest
  | c :: rest => c :: unifyBreaks rest

/-- The text that bytes encode. -/
def decode (bytes : List UInt8) : Except Fault (List Char) :=
  match String.fromUTF8? (ByteArray.mk bytes.toArray) with
  | some text => .ok (unifyBreaks text.toList)
  | none => .error .undecodable

end RowGuard.Files
