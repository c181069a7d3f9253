import RowGuard.Value

/-!
# Settings

The three sections of a settings file and the questions the program asks of them. The sections are
kept as they were read; an answer may fail on a section of the wrong kind, and does so only when it
is asked for.
-/

namespace RowGuard

/-- The settings read from one file. -/
structure Settings where
  /-- The path of the file, in its normal form. -/
  file : String
  parser : Value
  policies : Value
  logging : Value
  deriving Repr

namespace Settings

/-- The settings that the top level of a file describes. -/
def ofEntries (file : String) (entries : List (Value × Value)) : Settings where
  file := file
  parser := Value.section? entries "parser"
  policies := Value.section? entries "policies"
  logging := Value.section? entries "logging"

/-- The written form of settings. -/
def written (s : Settings) : String := s!"Settings(config_file={s.file})"

/-- How many characters of a query or clause a log record shows. -/
def logQueryLength (s : Settings) : Except Fault Int := do
  (← s.parser.field "log_query_length" (.int 500)).toInt

/-- Whether policies are enforced; they are unless the settings say otherwise. -/
def enforced (s : Settings) : Except Fault Bool := do
  return (← s.policies.field "enforce" (.bool true)).truthy

/-- The policy of the first entry whose name is the table's in small letters. An empty policy is an
empty mapping. A name that is no text stops the search. -/
def policyIn (table : Option String) : List (Value × Value) → Except Fault (Option Value)
  | [] => .ok none
  | (.str name, policy) :: rest =>
    match table with
    | none => .error .noSuchField
    | some t =>
      if Text.lowered name = Text.lowered t then
        .ok (some (if policy.truthy then policy else .map []))
      else policyIn table rest
  | (.bytes _, _) :: rest => if table.isNone then .error .noSuchField else policyIn table rest
  | _ => .error .noSuchField

/-- The policy of a table, if it has one. -/
def policy? (s : Settings) (table : Option String) : Except Fault (Option Value) := do
  let tables ← s.policies.field "tables" (.map [])
  if tables.truthy then
    match tables with
    | .map entries => policyIn table entries
    | _ => .error .noSuchField
  else return none

end Settings

end RowGuard
