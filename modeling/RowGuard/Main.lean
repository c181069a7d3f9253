import RowGuard.Command.Run
import RowGuard.Request.Identifier
import Std.Time.Format
import Std.Time.Zoned

/-!
# The command

Looks at the files that a run of the command may need, does the run, and brings about what came of
it: output, notices, changed files, and the code at the end.
-/

namespace RowGuard.Command

/-- The path of a file given by its names. -/
def pathOf (names : List String) : String := "/" ++ "/".intercalate names

/-- What a path leads to. Where the content does not matter, a file counts as empty. -/
def entry? (whole : Bool) (path : String) : IO (Option Files.Entry) := do
  try
    if whole then return some (.file (← IO.FS.readBinFile path).toList)
    discard <| (← IO.FS.Handle.mk path .read).read 1
    return some (.file [])
  catch
    | .inappropriateType .. => return some .directory
    | _ => return none

/-- Adds to a store what is on the way from a place to names seen from there. -/
def lookFrom (whole : Bool) (store : Files.Store) (place : List String) :
    List String → IO Files.Store
  | [] => return store
  | n :: rest => do
    let names := place ++ [n]
    match store.find? names with
    | some (.file _) => return store
    | some .directory => lookFrom whole store names rest
    | none =>
      match ← entry? whole (pathOf names) with
      | none => return store
      | some e => lookFrom whole (store.add names e) names rest

/-- Adds to a store what is on the way to a path. -/
def look (whole : Bool) (store : Files.Store) (p : Files.Path) : IO Files.Store :=
  lookFrom whole store [] (p.full store.cwd).names

/-- The paths that a log with the given options needs. -/
def logPaths (o : Log.Options) : List Files.Path :=
  match Log.path o.directory, Log.path o.file with
  | .ok directory, .ok name =>
    let file := directory.join name
    directory :: file :: (List.range 11).map fun n => ⟨file.root, Log.oldNames file.names n⟩
  | .ok directory, .error _ => [directory]
  | .error _, _ => []

/-- Whether a log with the given options depends on what its file has already. -/
def needsContent (o : Log.Options) : Bool :=
  match Log.Rotation.ofOptions o with
  | .ok (.bySize _) => true
  | _ => false

/-- Adds to a store what answering a request may need. -/
def lookAhead (readers : Settings.Readers) (a : Arguments) (vars : Variables)
    (store : Files.Store) : IO Files.Store := do
  let store ← look true store Settings.variableFile
  let vars := (readers.environment store vars).1
  let store ← look true store (Settings.path vars a.config)
  let store ← match a.file with
    | some file => look true store (.ofString file)
    | none => pure store
  match Settings.ofFile readers.document store vars a.config with
  | .error _ => return store
  | .ok settings =>
    match Log.Options.ofSettings settings.logging a.logLevel with
    | .error _ => return store
    | .ok options => (logPaths options).foldlM (look (needsContent options)) store

/-- The variables of the process. -/
def environment : IO Variables := do
  let text ← IO.FS.readFile "/proc/self/environ"
  return (Text.splitAll '\x00' text.toList).filterMap fun line =>
    match line.dropWhile (· ≠ '=') with
    | [] => none
    | _ :: value => some (String.ofList (line.takeWhile (· ≠ '=')), String.ofList value)

/-- Brings the files of a store to where they were changed. -/
def save (before after : Files.Store) : IO Unit := do
  for (names, e) in before.entries do
    if let .file _ := e then
      if (after.find? names).isNone then IO.FS.removeFile (pathOf names)
  for (names, e) in after.entries do
    match e, before.find? names with
    | .directory, none => IO.FS.createDirAll (pathOf names)
    | .file new, some (.file old) =>
      if old.isPrefixOf new then
        if old.length < new.length then
          (← IO.FS.Handle.mk (pathOf names) .append).write ⟨(new.drop old.length).toArray⟩
      else IO.FS.writeBinFile (pathOf names) ⟨new.toArray⟩
    | .file new, none => IO.FS.writeBinFile (pathOf names) ⟨new.toArray⟩
    | .directory, some _ | .file _, some .directory => pure ()

/-- All that is on the input. -/
def readInput : IO (List UInt8) := do return (← (← IO.getStdin).readBinToEnd).toList

end RowGuard.Command

open RowGuard RowGuard.Command in
/-- Runs the command. -/
def main (arguments : List String) : IO UInt32 := do
  let now ← Std.Time.PlainDateTime.now
  let id := Request.identifier ((← IO.getRandomBytes 16).toList.map UInt8.toNat)
  let vars ← environment
  let cwd := (Files.Path.ofString (← IO.currentDir).toString).names
  let engine : Engine := {}
  let mut store : Files.Store := ⟨cwd, []⟩
  let mut stdin : List UInt8 := []
  if let .ok (.answer a) := Task.ofArguments arguments then
    store ← lookAhead engine.readers a vars store
    if a.query.isNone && a.file.isNone then stdin ← readInput
  let input : Input := ⟨stdin, now.format "uuuu-MM-dd'T'HH:mm:ss", id⟩
  let (ending, progress) := run engine arguments input ⟨⟨vars, none, 0, []⟩, {}, {}, store⟩
  save store progress.world.store
  IO.print progress.output
  progress.notices.forM fun n => IO.eprint (n.text (now.format "uuuu-MM-dd HH:mm:ss"))
  match ending with
  | .code n => return n.toUInt32
  | .fault f =>
    IO.eprintln s!"Unexpected Error: {f.message}"
    return 1
