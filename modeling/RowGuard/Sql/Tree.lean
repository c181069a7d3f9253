/-!
# Syntax trees

What the grammar builds. A tree keeps what the questions asked of it need: which nodes are columns,
filters and queries, and how deep each stands. Beyond that a node keeps what the grammar itself
asks: some constructs are read differently behind a column, an interval or a call.
-/

namespace RowGuard.Sql

/-- The forms of a query, and of what may have the clauses of one. -/
inductive QueryForm where
  | select
  /-- Queries joined by `UNION` or its kin. -/
  | combined
  | parenthesised
  | table
  /-- Rows written out. -/
  | rows
  deriving DecidableEq, Repr

/-- What a node of a syntax tree stands for. -/
inductive Shape where
  /-- A column with the names that qualify it, the column's own name last. A name is empty where
  something else stands in its place. A bare column is neither qualified nor quoted. -/
  | column (path : List String) (bare : Bool)
  | text (value : String)
  | number (value : String)
  | null
  | star
  /-- The condition of a query, introduced by `WHERE`. -/
  | filter
  /-- A query with the clauses it has. -/
  | query (form : QueryForm) (clauses : List String)
  | interval
  /-- A function call. Only a function that is not known goes by its name. -/
  | call (name : String) (known : Bool)
  /-- A call over a window of rows. -/
  | window
  /-- Something picked out by a name, or a call that is qualified. -/
  | member (name : String)
  | dataType (key : String)
  | alias (name : String)
  /-- A comparison of two parts. -/
  | equation
  /-- An assignment of the second part to the first. -/
  | assignment
  /-- A name and a value with a colon between them; either may be missing. -/
  | slice (key value : Bool)
  /-- A remainder, which a percentage may turn out not to be. -/
  | remainder
  /-- Anything else. -/
  | other
  deriving DecidableEq, Repr

/-- A node with its parts in order. -/
inductive Tree where
  | node (shape : Shape) (parts : List Tree)
  deriving Repr

namespace Tree

/-- What the node stands for. -/
def shape : Tree → Shape
  | node s _ => s

/-- The parts of the node. -/
def parts : Tree → List Tree
  | node _ ps => ps

/-- The same kind of node with further parts. -/
def add (t : Tree) (more : List Tree) : Tree := node t.shape (t.parts ++ more)

/-- A node without a meaning of its own. -/
def group (parts : List Tree) : Tree := node .other parts

/-- A query, also one that is made of others or stands in parentheses. -/
def isQuery (t : Tree) : Bool :=
  match t.shape with
  | .query .select _ | .query .combined _ | .query .parenthesised _ => true
  | _ => false

/-- The name by which a node is known, empty for most. -/
def name (t : Tree) : String :=
  match t.shape with
  | .column path _ => path.getLast?.getD ""
  | .text value | .number value => value
  | .null => "null"
  | .star => "*"
  | .call name false => name
  | .member name => name
  | _ => ""

/-- The name of a column without qualifiers. -/
def plainColumn? (t : Tree) : Option String :=
  match t.shape with
  | .column [name] _ => some name
  | _ => none

/-- A column without qualifiers, where it is no column but a name; any other node as it is. -/
def withoutName (t : Tree) : Tree :=
  if t.plainColumn?.isSome then group t.parts else t

/-- A unit of time: a name, which is no column, or a week with the name of its first day. -/
def asUnit (t : Tree) : Tree :=
  match t.shape with
  | .call "WEEK" true => group (t.parts.drop 1)
  | _ => t.withoutName

/-- A call, or a construct with the standing of one. -/
def isCall (t : Tree) : Bool :=
  match t.shape with
  | .call _ _ | .window => true
  | _ => false

mutual
/-- How many levels of parts a tree has below its root. -/
def depth : Tree → Nat
  | node _ ps => depthAll ps
/-- How many levels a list of trees has. -/
def depthAll : List Tree → Nat
  | [] => 0
  | t :: rest => max (depth t + 1) (depthAll rest)
end

mutual
/-- The names of the columns in a tree, in order and without their qualifiers. -/
def columns : Tree → List String
  | node (.column path _) ps => (path.getLast?.getD "") :: columnsAll ps
  | node _ ps => columnsAll ps
/-- The names of the columns in a list of trees. -/
def columnsAll : List Tree → List String
  | [] => []
  | t :: rest => columns t ++ columnsAll rest
end

mutual
/-- A tree without the columns whose path begins with one of the names. -/
def forget (names : List String) : Tree → Tree
  | node (.column path bare) ps =>
    if names.contains (path.head?.getD "") then node .other (forgetAll names ps)
    else node (.column path bare) (forgetAll names ps)
  | node s ps => node s (forgetAll names ps)
/-- A list of trees without the columns whose path begins with one of the names. -/
def forgetAll (names : List String) : List Tree → List Tree
  | [] => []
  | t :: rest => forget names t :: forgetAll names rest
end

mutual
/-- A tree in which columns are no columns but qualify what follows. -/
def asQualifier : Tree → Tree
  | node (.column _ _) ps => node .other ps
  | node s ps => node s (asQualifierAll ps)
/-- A list of trees in which columns are no columns. -/
def asQualifierAll : List Tree → List Tree
  | [] => []
  | t :: rest => asQualifier t :: asQualifierAll rest
end

/-- The first filter that stands exactly `level` levels below the root. -/
def filterAt? : Nat → Tree → Option Tree
  | 0, t => if t.shape = .filter then some t else none
  | level + 1, t => t.parts.findSome? (filterAt? level)

/-- The filter nearest to the root, and of those at one level the first. -/
def filter? (t : Tree) : Option Tree :=
  (List.range (t.depth + 1)).findSome? fun level => t.filterAt? level

end Tree

end RowGuard.Sql
