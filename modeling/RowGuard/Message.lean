import RowGuard.Text.Search

/-!
# Messages to the user

The texts that explain a refused query, line by line. Table names, targets and columns appear as
they were given.
-/

namespace RowGuard.Message

/-- The lines of a message as one text, without a line break at the end. -/
def ofLines (lines : List String) : String := "\n".intercalate lines

/-- A filter that cannot be attributed to the table. Targets that were not found are left out. -/
def invalidQuery (table : String) (source joined : Option String) : String :=
  let found := [source, joined].filterMap fun t => t.filter (· ≠ "")
  let targets := if found.isEmpty then "(none)" else ", ".intercalate found
  ofLines [
    "FilterScope Error: invalid query",
    "",
    s!"The query contains a WHERE clause, but it cannot be attributed to table '{table}'.",
    "",
    s!"Resolved targets: {targets}",
    "",
    "Suggestions:",
    "  • Check that the table name is given as schema.table",
    "  • Reference the table directly in FROM or JOIN (derived tables are not resolved)",
    "",
    "Status: Invalid Query"]

/-- A protected table is read without a filter. -/
def missingFilter (table : String) : String :=
  ofLines [
    s!"FilterScope Error: row filter is mandatory for '{table}'",
    "",
    "Queries against this table must include a top-level WHERE clause.",
    "",
    "Required format:",
    "  SELECT column1, column2",
    s!"  FROM {table}",
    "  WHERE <filter conditions>",
    "",
    "Policy: Mandatory Row Filter",
    "Status: Rejected - Add a WHERE clause and retry"]

/-- A filter leaves out columns that the policy asks for. -/
def missingColumns (table : String) (columns : List String) : String :=
  let listed := ", ".intercalate columns
  ofLines [
    s!"FilterScope Error: required filter column(s) missing for '{table}'",
    "",
    s!"The WHERE clause must reference: {listed}",
    "",
    "Policy: Required Filter Columns",
    "Status: Rejected - Add the missing column(s) to the WHERE clause and retry"]

/-- A clause whose columns cannot be read. At most two hundred of its characters are shown. -/
def unreadableClause (clause detail : String) : String :=
  let start := String.ofList (Text.cut 200 clause.toList)
  ofLines [
    "FilterScope Error: Failed to parse WHERE clause",
    "",
    "The extracted clause could not be parsed for policy checks.",
    "",
    s!"Clause: {start}",
    s!"Error: {detail}",
    "",
    "Suggestions:",
    "  • Verify SQL syntax is valid",
    "  • Check for missing or extra parentheses",
    "",
    "Status: Parse Error"]

end RowGuard.Message
