import RowGuard.Text.Search

/-!
# Paths

A path is a root, if it has one, and names. Empty names and single dots are dropped when it is
read; double dots stay, for what they mean depends on the directories there are.
-/

namespace RowGuard.Files

/-- A path. The root is empty, or one slash or two. -/
structure Path where
  root : String
  names : List String
  deriving DecidableEq, Repr, Inhabited

namespace Path

/-- The root that a text begins with. Three slashes count as one. -/
def rootOf : List Char → String
  | '/' :: '/' :: '/' :: _ => "/"
  | '/' :: '/' :: _ => "//"
  | '/' :: _ => "/"
  | _ => ""

/-- The path that a text denotes. -/
def ofString (text : String) : Path where
  root := rootOf text.toList
  names := ((Text.splitAll '/' text.toList).map String.ofList).filter fun n => n ≠ "" && n ≠ "."

/-- The text of a path in its normal form. -/
def text (p : Path) : String :=
  if p.root = "" && p.names.isEmpty then "." else p.root ++ "/".intercalate p.names

/-- Whether a path can name a file at all: none has a null character in its name. -/
def isNameable (p : Path) : Bool := p.names.all fun n => !n.toList.contains '\x00'

/-- The path of `q` as seen from `p`. -/
def join (p q : Path) : Path := if q.root = "" then ⟨p.root, p.names ++ q.names⟩ else q

/-- The names of a path in which every pair of double dots has taken away the name before it.
Behind a root, leading double dots mean nothing. -/
def collapse (names : List String) : List String :=
  names.foldl (fun done n => if n = ".." then done.dropLast else done ++ [n]) []

/-- The path in full, seen from a directory given by its names. -/
def full (cwd : List String) (p : Path) : Path :=
  let root := if p.root = "" then "/" else p.root
  ⟨root, collapse (if p.root = "" then cwd ++ p.names else p.names)⟩

end Path

end RowGuard.Files
