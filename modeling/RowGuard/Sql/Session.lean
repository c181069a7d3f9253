import RowGuard.Sql.Change

/-!
# The session

Statements about the session itself: its settings, its transactions, what it is shown, and who may
do what.
-/

namespace RowGuard.Sql

namespace Session

open Reader Expression

/-! ## Transactions -/

/-- The beginning of a transaction, its first word passed. -/
def transaction : Reader Unit := do
  let _ ← acceptAnyWord ["DEFERRED", "EXCLUSIVE", "IMMEDIATE"]
  let _ ← acceptAnyWord ["TRANSACTION", "WORK"]
  let mode : Reader (Option Unit) := do
    let _ ← many do
      if (← acceptKind .word).isSome then return some ()
      else if ← accept "NOT" then return some ()
      else return none
    return some ()
  let _ ← commaList mode

/-- The end of a transaction, its first word passed. -/
def transactionEnd (g : Grammar) : Reader Unit := do
  let _ ← acceptAnyWord ["TRANSACTION", "WORK"]
  if ← acceptWords ["TO"] then
    let _ ← acceptWords ["SAVEPOINT"]
    let _ ← anyName g
  if ← accept "AND" then
    let _ ← acceptWords ["NO"]
    let _ ← acceptWords ["CHAIN"]

/-- How a transaction treats others, in the words that may say so. -/
def transactionModes : List (List String) :=
  [["ISOLATION", "LEVEL", "REPEATABLE", "READ"], ["ISOLATION", "LEVEL", "READ", "COMMITTED"],
   ["ISOLATION", "LEVEL", "READ", "UNCOMITTED"], ["ISOLATION", "LEVEL", "SERIALIZABLE"],
   ["READ", "WRITE"], ["READ", "ONLY"]]

/-- How the transactions to come treat others. -/
def transactionSetting : Reader Unit := do
  let _ ← commaList (do
    if ← atEnd then return none
    if ← transactionModes.anyM acceptWords then return some () else refuse : Reader (Option Unit))

/-! ## Settings -/

/-- A setting with its value; nothing when no value follows. -/
def assignment (g : Grammar) (scope : String) : Reader (Option Unit) := do
  let start ← get
  if ["GLOBAL", "SESSION"].contains scope then
    if ← acceptWords ["TRANSACTION"] then
      transactionSetting
      return some ()
  let own ← firstOf [g.primary, g.column]
  if own.isSome then
    if (← acceptAnyWord ["=", ":=", "TO"]).isSome then
      let _ ← need (firstOf [g.statement, do return (← anyName g).map Name.tree])
      return some ()
  set start
  return none

/-- A character set: a text or a name. -/
def characterSet (g : Grammar) : Reader Unit := do
  let _ ← firstOf [string g, anyField g]

/-- One setting. -/
def setting (g : Grammar) : Reader (Option Unit) := do
  match ← hereWord with
  | "TRANSACTION" =>
    advance
    transactionSetting
    return some ()
  | "NAMES" =>
    advance
    characterSet g
    if ← acceptWords ["COLLATE"] then characterSet g
    return some ()
  | "CHARACTER SET" | "CHARSET" =>
    advance
    characterSet g
    return some ()
  | scope =>
    if ["GLOBAL", "LOCAL", "PERSIST", "PERSIST_ONLY", "SESSION"].contains scope then advance
    assignment g scope

/-- A change of settings, its first word passed. Settings in an unknown form are not looked into. -/
def settings (g : Grammar) : Reader Unit := do
  let _ ← commaList (setting g)
  skipAll

/-! ## What is shown -/

/-- What can be shown of an object that is named, with the word before that name. -/
def shownOf : List (String × Option String) :=
  [("COLUMNS", some "FROM"), ("CREATE DATABASE", none), ("CREATE EVENT", none),
   ("CREATE FUNCTION", none), ("CREATE PROCEDURE", none), ("CREATE TABLE", none),
   ("CREATE TRIGGER", none), ("CREATE VIEW", none), ("ENGINE", none),
   ("FULL COLUMNS", some "FROM"), ("FUNCTION CODE", none), ("GRANTS", some "FOR"),
   ("INDEX", some "FROM"), ("PROCEDURE CODE", none)]

/-- What can be shown as a whole. -/
def shownWhole : List String :=
  ["BINARY LOGS", "BINLOG EVENTS", "CHARACTER SET", "CHARSET", "COLLATION", "DATABASES", "ENGINES",
   "ERRORS", "EVENTS", "FULL PROCESSLIST", "FULL TABLES", "FUNCTION STATUS", "GLOBAL STATUS",
   "GLOBAL VARIABLES", "MASTER LOGS", "MASTER STATUS", "OPEN TABLES", "PLUGINS", "PRIVILEGES",
   "PROCEDURE STATUS", "PROCESSLIST", "PROFILE", "PROFILES", "RELAYLOG EVENTS", "REPLICA STATUS",
   "REPLICAS", "SCHEMAS", "SESSION STATUS", "SESSION VARIABLES", "SLAVE HOSTS", "SLAVE STATUS",
   "STATUS", "STORAGE ENGINES", "TABLE STATUS", "TABLES", "TRIGGERS", "VARIABLES", "WARNINGS"]

/-- Passes over the words of a phrase, of which two may be one token. -/
def acceptPhrase (phrase : String) : Reader Bool := do
  if ← acceptWords [phrase] then return true else acceptWords (phrase.splitOn " ")

/-- The first of the phrases that follows, which is passed. -/
def acceptAnyPhrase (phrases : List String) : Reader (Option String) :=
  firstOf (phrases.map fun phrase => do
    if ← acceptPhrase phrase then return some phrase else return none)

/-- What a query's profile shows, in the words that may say so. -/
def profileParts : List (List String) :=
  [["ALL"], ["BLOCK", "IO"], ["CONTEXT", "SWITCHES"], ["CPU"], ["IPC"], ["MEMORY"],
   ["PAGE", "FAULTS"], ["SOURCE"], ["SWAPS"]]

/-- The part of a query's profile that is shown. -/
def profile (g : Grammar) : Reader Unit := do
  let _ ← commaList (do
    if ← atEnd then return none
    if ← profileParts.anyM acceptWords then return some () else refuse : Reader (Option Unit))
  for words in [["FOR", "QUERY"], ["OFFSET"], ["LIMIT"]] do
    if ← acceptWords words then
      let _ ← number g

/-- What a listing is of: one object, and the rows that are like a text or meet a condition. -/
def listing (g : Grammar) (shown : String) : Reader Unit := do
  if ← acceptWords ["IN"] then
    let _ ← string g
  if ["BINLOG EVENTS", "RELAYLOG EVENTS"].contains shown then
    if ← accept "FROM" then
      let _ ← number g
  else if (← acceptAny ["FROM", "."]).isSome then
    let _ ← anyName g
  if ← acceptWords ["FOR", "CHANNEL"] then
    let _ ← anyName g
  if ← acceptWords ["LIKE"] then
    let _ ← string g
  let _ ← Change.filter? g
  if shown == "PROFILE" then profile g
  else if ← acceptWords ["LIMIT"] then
    let _ ← commaList (number g)
  let _ ← acceptWords ["MUTEX"]
  let _ ← acceptWords ["STATUS"]

/-- A listing, its first word passed. One of an unknown kind is not looked into. -/
def display (g : Grammar) : Reader Unit := do
  match ← acceptAnyPhrase (shownWhole ++ shownOf.map Prod.fst) with
  | none => skipAll
  | some shown =>
    match shownOf.find? (·.1 == shown) with
    | some (_, word) =>
      let _ ← acceptWords word.toList
      let _ ← anyName g
    | none => pure ()
    listing g shown

/-! ## Privileges -/

/-- A privilege, which has to have a name, and the columns that it is for. -/
def privilege (g : Grammar) : Reader (Option Unit) := do
  let words ← many (do
    if (← atEnd) || ["ON", ",", "("].contains (← here) then return none
    advance
    return some () : Reader (Option Unit))
  if words.isEmpty then throw .nameless
  if (← here) == "(" then
    let _ ← wrapped (commaList g.column)
  return some ()

/-- One who is given or loses a privilege. -/
def principal (g : Grammar) : Reader (Option Unit) := do
  let _ ← acceptAnyWord ["ROLE", "GROUP"]
  return (← anyName g).map fun _ => ()

/-- Privileges given with the word `TO`, or taken with the word `FROM`. Those in an unknown form are
not looked into. -/
def privileges (g : Grammar) (word : String) : Reader Unit := do
  let _ ← commaList (privilege g)
  let _ ← accept "ON"
  let _ ← acceptAny Keyword.objects
  let onWhat ← attempt do return some (← Source.path g false)
  if onWhat.isSome then
    if ← acceptWords [word] then
      let principals ← commaList (principal g)
      if principals.isEmpty && (← atEnd) then refuse
  skipAll

end Session

end RowGuard.Sql
