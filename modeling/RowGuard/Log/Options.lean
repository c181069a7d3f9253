import RowGuard.Log.Record
import RowGuard.Settings.Load

/-!
# Options of the log

Settings say from which severity on records are taken, whether the console is coloured, in which
file the records are kept and when it gives way to a new one. Options may have values of any kind;
each is looked at only when the log is set up.
-/

namespace RowGuard.Log

/-- What settings say about the log. -/
structure Options where
  directory : Value := .str "logs"
  level : Value := .str "INFO"
  file : Value := .str "filterscope.log"
  rotation : Value := .str "daily"
  /-- How many days files are kept. -/
  retention : Value := .int 30
  /-- The size of a file, in units of 2 ^ 20 bytes. -/
  size : Value := .int 100
  colours : Value := .bool true
  deriving Repr

/-- What settings say about the log; the level may be given apart. -/
def Options.ofSettings (logging : Value) (level : Option String) : Except Fault Options := do
  let level ← match level with
    | some l => pure (.str l)
    | none => logging.field "level" (.str "INFO")
  return {
    level := level
    directory := ← logging.field "log_dir" (.str "logs")
    file := ← logging.field "log_file" (.str "filterscope.log")
    rotation := ← logging.field "rotation" (.str "daily")
    retention := ← logging.field "retention_days" (.int 30)
    size := ← logging.field "max_file_size_mb" (.int 100)
    colours := ← logging.field "console_colors" (.bool true) }

/-- When a file gives way to a new one. -/
inductive Rotation where
  /-- At midnight; so many old files are kept. -/
  | daily (kept : Value)
  /-- On Mondays; so many old files are kept. -/
  | weekly (kept : Int)
  /-- When the next line would make it as large as this; ten old files are kept. -/
  | bySize (most : Value)
  deriving Repr

/-! ## Reading the options -/

/-- The thresholds that have a name. -/
def levels : List (String × Nat) :=
  [("DEBUG", 10), ("INFO", 20), ("WARNING", 30), ("WARN", 30), ("ERROR", 40), ("CRITICAL", 50),
   ("FATAL", 50), ("NOTSET", 0)]

/-- The threshold that a name in any case stands for. Other names stand for that of information;
two of them are taken for something else. -/
def threshold : Value → Except Fault Nat
  | .str name =>
    let name := Text.uppered name
    if name = "BASIC_FORMAT" then .error .badContent
    else if name = "_STYLES" then .error .wrongKind
    else .ok ((levels.lookup name).getD 20)
  | .bytes _ => .error .wrongKind
  | _ => .error .noSuchField

/-- The path that a value denotes. -/
def path : Value → Except Fault Files.Path
  | .str s => .ok (.ofString s)
  | _ => .error .wrongKind

/-- How many weeks a number of days makes, rounded toward zero; at least one. -/
def weeks (days : Value) : Except Fault Int := do
  let quotient ← match days with
    | .float x => pure (x.dividedBy 7)
    | v => match v.int? with
      | some n => pure (Double.ofRatio (n < 0) n.natAbs 7)
      | none => .error .wrongKind
  match days, quotient with
  | .float _, q => return max (← (Value.float q).toInt) 1
  | _, .infinite _ => .error .overflow
  | _, q => return max (← (Value.float q).toInt) 1

/-- A number of units of 2 ^ 20 bytes, in bytes. -/
def bytesOf : Value → Except Fault Value
  | .float x => .ok (.float ((x.times 1024).times 1024))
  | v => match v.int? with
    | some n => .ok (.int (n * 1024 * 1024))
    | none => .error .wrongKind

/-- When a file gives way to a new one, as the options say. -/
def Rotation.ofOptions (o : Options) : Except Fault Rotation :=
  match o.rotation with
  | .str "daily" => .ok (.daily o.retention)
  | .str "weekly" => .weekly <$> weeks o.retention
  | _ => .bySize <$> bytesOf o.size

end RowGuard.Log
