import RowGuard.Log.Line
import RowGuard.Log.Options

/-!
# The log

A log has a level and outlets: the console and a file. `setUp` gives it those that the options ask
for, and makes the directory and the file. On the way it may fail; what has been done by then stays,
and the next time starts afresh.
-/

namespace RowGuard.Log

/-- A place where records go. -/
inductive Outlet where
  | console (coloured : Bool)
  /-- A file, by its path in full. -/
  | file (path : Files.Path) (rotation : Rotation)
  deriving Repr

/-- Which records are taken, and where they go. -/
structure Logger where
  level : Nat := 0
  outlets : List Outlet := []
  deriving Repr

/-- The threshold that is in force. A level of zero leaves it to the default, that of warnings. -/
def Logger.threshold (l : Logger) : Nat := if l.level = 0 then 30 else l.level

/-! ## Setting up -/

/-- What setting up a log changes. -/
structure Scene where
  store : Files.Store
  logger : Logger := {}
  deriving Repr

/-- A step of setting up. -/
abbrev Setup := ExceptT Failure (StateM Scene)

/-- A result that a fault ends the setting up without. -/
def orFault {α : Type} : Except Fault α → Setup α
  | .ok v => return v
  | .error f => throw (.fault f)

/-- Makes the directory of the log. -/
def makeDirectory (p : Files.Path) : Setup Unit := do
  if !p.isNameable then throw (.fault .badContent)
  let (store, r) := (← get).store.ensureDirectory p
  modify fun s => { s with store := store }
  match r with
  | .ok () => return
  | .error e => throw (.file e)

/-- Gives the log an outlet more. -/
def addOutlet (o : Outlet) : Setup Unit :=
  modify fun s => { s with logger := { s.logger with outlets := s.logger.outlets ++ [o] } }

/-- Makes sure that the file is there, and gives the log an outlet to it. -/
def addFile (p : Files.Path) (rotation : Rotation) : Setup Unit := do
  if !p.isNameable then throw (.fault .badContent)
  let path := p.full (← get).store.cwd
  match (← get).store.touch path with
  | .ok store =>
    modify fun s => { s with store := store }
    addOutlet (.file path rotation)
  | .error e => throw (.file e)

/-- Sets up the log as the options say. The outlets it had are gone once its level is known. -/
def setUp (o : Options) : Setup Unit := do
  let directory ← orFault (path o.directory)
  makeDirectory directory
  let level ← orFault (threshold o.level)
  modify fun s => { s with logger := ⟨level, []⟩ }
  addOutlet (.console o.colours.truthy)
  let name ← orFault (path o.file)
  let rotation ← orFault (Rotation.ofOptions o)
  addFile (directory.join name) rotation

/-! ## Writing -/

/-- The names of the `n`th old file. -/
def oldNames (names : List String) (n : Nat) : List String :=
  names.dropLast ++ [names.getLast?.getD "" ++ "." ++ toString n]

/-- Moves every old file one place on, of which there are at most `n`, and makes the file at hand
the first of them. -/
def rollOver (store : Files.Store) (names : List String) : Nat → Files.Store
  | 0 => (store.rename names (oldNames names 1)).add names (.file [])
  | n + 1 =>
    let store := if (store.find? (oldNames names (n + 1))).isSome
      then store.rename (oldNames names (n + 1)) (oldNames names (n + 2)) else store
    rollOver store names n

/-- Whether a line of so many bytes fills a file that has so many already. -/
def Rotation.fills (r : Rotation) (size line : Nat) : Bool :=
  match r with
  | .bySize (.int most) => 0 < most && most ≤ (size + line : Nat)
  | .bySize (.float most) => most.isPositive && most.atMost (size + line)
  | _ => false

/-- Adds a record to a file. -/
def append (p : Files.Path) (rotation : Rotation) (time : String) (r : Record)
    (store : Files.Store) : Files.Store :=
  match store.locate p with
  | .error _ => store
  | .ok names =>
    let line := (r.jsonLine time).toUTF8.toList
    let full := rotation.fills (store.content names).length line.length
    (if full then rollOver store names 9 else store).append names line

end RowGuard.Log
