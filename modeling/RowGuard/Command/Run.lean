import RowGuard.Command.Help
import RowGuard.Log.Logger
import RowGuard.Request.Reply
import RowGuard.Settings.Session

/-!
# One run of the command

A run loads the settings unless an earlier run has, prepares the log, gets the text of the query,
and answers the request. Only a query that is let through has its filter printed. What goes wrong
with settings or files ends a run with code one and a notice; any other fault ends it at once.
-/

namespace RowGuard.Command

/-- What is written to the error output. -/
inductive Notice where
  /-- A record of the log. -/
  | record (coloured : Bool) (r : Log.Record)
  /-- A line of the file of variables that cannot be read. -/
  | unreadableLine (number : Nat)
  | usage (e : UsageError)
  | settings (e : SettingsError)
  | file (e : Files.Error)
  /-- A query that is not let through. -/
  | refused (r : Request.Reply)
  deriving Repr

/-- The text of a notice. -/
def Notice.text (time : String) : Notice → String
  | record coloured r => r.consoleLine coloured time ++ "\n"
  | unreadableLine n => s!"python-dotenv could not parse statement starting at line {n}\n"
  | usage e => e.text
  | settings e => s!"Configuration Error: {e.message}\n"
  | file e => s!"Input Error: {e.message}\n"
  | refused r => r.message?.getD "None" ++ "\n"

/-- What outlives a run: the settings in use, the log, the journal of requests, and the files. -/
structure World where
  session : Settings.Session
  logger : Log.Logger := {}
  journal : Request.Journal := {}
  store : Files.Store
  deriving Repr

/-- How a run ends. -/
inductive Ending where
  | code (n : Nat)
  | fault (f : Fault)
  deriving DecidableEq, Repr

/-- What a run has brought about so far. -/
structure Progress where
  world : World
  output : String := ""
  notices : List Notice := []
  deriving Repr

/-- A step of a run. -/
abbrev Act := ExceptT Ending (StateM Progress)

/-- Writes a notice. -/
def tell (n : Notice) : Act Unit := modify fun p => { p with notices := p.notices ++ [n] }

/-- Prints to the output. -/
def print (text : String) : Act Unit := modify fun p => { p with output := p.output ++ text }

/-- Changes what outlives the run. -/
def change (f : World → World) : Act Unit := modify fun p => { p with world := f p.world }

/-- A result that a fault ends the run without. -/
def orFault {α : Type} : Except Fault α → Act α
  | .ok v => return v
  | .error f => throw (.fault f)

/-- A result that the run cannot do without. -/
def orStop {α : Type} : Except Failure α → Act α
  | .ok v => return v
  | .error (.settings e) => do
    tell (.settings e)
    throw (.code 1)
  | .error (.file e) => do
    tell (.file e)
    throw (.code 1)
  | .error (.fault f) => throw (.fault f)

/-- What a run is given from outside: the input, the time, and an identifier for its request. -/
structure Input where
  stdin : List UInt8 := []
  time : String
  id : String
  deriving Repr

/-- Whether the variables leave the console its colours. -/
def keepsColours (vars : Variables) : Bool :=
  (vars.get? "FORCE_COLOR").isSome || (vars.get? "NO_COLOR").isNone

/-- Writes a record to an outlet of the log. -/
def writeTo (input : Input) (r : Log.Record) : Log.Outlet → Act Unit
  | .console coloured => do
    let vars := (← get).world.session.vars
    tell (.record (coloured && keepsColours vars) r)
  | .file path rotation =>
    change fun w => { w with store := Log.append path rotation input.time r w.store }

/-- Writes records to every outlet of the log. -/
def logAll (input : Input) (records : List Log.Record) : Act Unit :=
  records.forM fun r => do (← get).world.logger.outlets.forM (writeTo input r)

/-- What a run works with: how files of settings are read, and how requests are worked on. -/
structure Engine extends Request.Engine where
  readers : Settings.Readers := {}

/-- The settings in use, loaded if there are none yet. -/
def theSettings (readers : Settings.Readers) (file : Option String) : Act Settings := do
  let w := (← get).world
  let (r, session) := w.session.get w.store file readers
  change fun w => { w with session := session }
  session.unreadable.forM fun n => tell (.unreadableLine n)
  return (← orStop r).2

/-- Sets up the log that the settings ask for. -/
def setUpLog (settings : Settings) (level : Option String) : Act Unit := do
  let options ← orFault (Log.Options.ofSettings settings.logging level)
  let w := (← get).world
  let (r, scene) := (Log.setUp options).run.run ⟨w.store, w.logger⟩
  change fun w => { w with store := scene.store, logger := scene.logger }
  orStop r

/-- The threshold of the log. -/
def threshold : Act Nat := do return (← get).world.logger.threshold

/-- The text of the query: given as it is, in a file, or on the input. -/
def theQuery (a : Arguments) (input : Input) : Act String := do
  let bytes ← match a.query, a.file with
    | some q, _ => return q
    | none, some file => do
      let path := Files.Path.ofString file
      if !path.isNameable then throw (.fault .badContent)
      orStop (((← get).world.store.read path).mapError .file)
    | none, none => pure input.stdin
  return String.ofList (← orFault (Files.decode bytes))

/-- Does a step of the journal, and logs what it writes even when it fails. -/
def withJournal {α : Type} (input : Input) (step : Nat → Request.Step α) : Act α := do
  let (r, s) := (step (← threshold)).run.run { journal := (← get).world.journal }
  change fun w => { w with journal := s.journal }
  logAll input s.log
  orFault r

/-- The logger of the command. -/
def loggerName : String := "filterscope.filterscope.main"

/-- Logs what is in force, if the log goes into such detail. -/
def logDetail (input : Input) (message : String) : Act Unit := do
  let passes := Log.Record.passes (← threshold)
  logAll input ([⟨loggerName, .debug, message, []⟩].filter passes)

/-- Answers the request of a command line. -/
def answer (engine : Engine) (a : Arguments) (input : Input) : Act Unit := do
  let settings ← theSettings engine.readers a.config
  setUpLog settings a.logLevel
  logDetail input s!"Configuration: {settings.file}"
  let enforced ← orFault settings.enforced
  logDetail input ("Policy enforcement: " ++ if enforced then "True" else "False")
  let query ← theQuery a input
  let reply ← withJournal input fun threshold => do
    Request.prepare settings
    Request.answer engine.toEngine settings threshold input.id (some query) (some a.table)
  withJournal input fun threshold => Request.enter threshold .summary
  if !reply.success then
    tell (.refused reply)
    throw (.code 1)
  if let some clause := reply.clause? then print (clause ++ "\n")

/-- Does what a command line asks for. -/
def act (engine : Engine) (arguments : List String) (input : Input) : Act Unit :=
  match Task.ofArguments arguments with
  | .error e => do
    tell (.usage e)
    throw (.code 2)
  | .ok .help => print help
  | .ok .version => print versionText
  | .ok (.answer a) => answer engine a input

/-- What a run brings about, and how it ends. -/
def run (engine : Engine) (arguments : List String) (input : Input) (w : World) :
    Ending × Progress :=
  match (act engine arguments input).run.run ⟨w, "", []⟩ with
  | (.ok (), p) => (.code 0, p)
  | (.error e, p) => (e, p)

end RowGuard.Command
