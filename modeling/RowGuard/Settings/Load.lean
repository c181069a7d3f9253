import RowGuard.Environment.Binding
import RowGuard.Environment.Placeholder
import RowGuard.Files.Store
import RowGuard.Settings
import RowGuard.Yaml.Document

/-!
# Loading settings

Settings come from a file named by the caller, by a variable, or by default. A file of variables
beside the program is read first; it only adds variables that are not set. Placeholders in the
settings file are filled in before it is read as a document. How the file of variables and the
document are read is an argument, so that the loading can be studied apart from their formats.
-/

namespace RowGuard

/-- Why a file gives no settings. -/
inductive SettingsError where
  | missing (file : String)
  /-- A placeholder names a variable that is not set. -/
  | unset (name : String)
  /-- The file is refused as a document, and the text says why. -/
  | unreadable (text : String)
  | empty
  | notMapping
  deriving DecidableEq, Repr

/-- What the user is told. -/
def SettingsError.message : SettingsError → String
  | missing file => s!"Configuration file not found: {file}"
  | unset name =>
    s!"Environment variable '{name}' not found. Please set it in .env file or environment."
  | unreadable text => s!"Failed to parse config file: {text}"
  | empty => "Config file is empty"
  | notMapping => "Config file must contain a mapping at the top level"

/-- The file does not follow the rules of a document. Where it does not is left unsaid. -/
@[match_pattern]
def SettingsError.malformed : SettingsError := .unreadable "not a document of settings"

/-- Why something cannot be done. -/
inductive Failure where
  | settings (e : SettingsError)
  | file (e : Files.Error)
  | fault (f : Fault)
  deriving DecidableEq, Repr

namespace Settings

/-! ## Readers -/

/-- The file of variables. It is looked for in the working directory only; a search through the
directories above is left out. -/
def variableFile : Files.Path := ⟨"", [".env"]⟩

/-- The variables after the file of variables has been read, if there is one, the numbers of the
lines that cannot be read, and whether something stopped the reading. -/
def loadVariables (store : Files.Store) (vars : Variables) :
    Variables × List Nat × Except Failure Unit :=
  if Binding.disabled vars then (vars, [], .ok ())
  else match store.stat variableFile with
    | .ok (.file bytes) =>
      match Files.decode bytes with
      | .ok text =>
        let (after, unreadable, r) := Binding.load vars text
        (after, unreadable, r.mapError .fault)
      | .error f => (vars, [], .error (.fault f))
    | _ => (vars, [], .ok ())

/-- How the file of variables and the document of settings are read. -/
structure Readers where
  /-- The variables once the file of variables has been read, the numbers of the lines that cannot
  be read, and whether something stopped the reading. -/
  environment : Files.Store → Variables → Variables × List Nat × Except Failure Unit :=
    loadVariables
  /-- The value of a document. -/
  document : List Char → Except Yaml.Error Value := Yaml.read

/-! ## Loading -/

/-- The settings that the text of a file describes, where documents are read by `read`. -/
def ofText (read : List Char → Except Yaml.Error Value) (vars : Variables) (file : String)
    (text : List Char) : Except Failure Settings :=
  match Placeholder.substitute vars text with
  | .error name => .error (.settings (.unset name))
  | .ok filled =>
    match read filled with
    | .error (.refused text) => .error (.settings (.unreadable text))
    | .error (.fault f) => .error (.fault f)
    | .ok .null => .error (.settings .empty)
    | .ok (.map entries) => .ok (ofEntries file entries)
    | .ok _ => .error (.settings .notMapping)

/-- The variable that names the settings file, and the file without it. -/
def fileVariable : String := "CONFIG_FILE"

/-- The settings file that nobody names. -/
def defaultFile : String := "config/config.yaml"

/-- The path of the settings file. -/
def path (vars : Variables) (file : Option String) : Files.Path :=
  .ofString (file.getD ((vars.get? fileVariable).getD defaultFile))

/-- Reads settings from a file. -/
def ofFile (read : List Char → Except Yaml.Error Value) (store : Files.Store) (vars : Variables)
    (file : Option String) : Except Failure Settings := do
  let path := path vars file
  if !(← (store.has path).mapError .file) then throw (.settings (.missing path.text))
  let bytes ← (store.read path).mapError .file
  ofText read vars path.text (← (Files.decode bytes).mapError .fault)

/-- Settings, the variables as they are then, and the numbers of the lines in the file of variables
that cannot be read. -/
structure Loading where
  settings : Except Failure Settings
  vars : Variables
  unreadable : List Nat := []

/-- Loads settings. -/
def load (store : Files.Store) (vars : Variables) (file : Option String)
    (readers : Readers := {}) : Loading :=
  match readers.environment store vars with
  | (vars, unreadable, .error e) => ⟨.error e, vars, unreadable⟩
  | (vars, unreadable, .ok ()) => ⟨ofFile readers.document store vars file, vars, unreadable⟩

end Settings

end RowGuard
