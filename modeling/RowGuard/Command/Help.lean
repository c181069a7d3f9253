import RowGuard.Command.Arguments

/-!
# What the command tells about itself
-/

namespace RowGuard.Command

/-- The name and version of the program. -/
def versionText : String := "FilterScope 1.0.0\n"

/-- The form of a command line. -/
def usage : String :=
  "usage: filterscope [-h] --table TABLE [--query QUERY | --file FILE]\n" ++
  "                   [--config CONFIG]\n" ++
  "                   [--log-level \x7bDEBUG,INFO,WARNING,ERROR,CRITICAL\x7d]\n" ++
  "                   [--version]\n"

/-- The options, one by one. -/
def optionTable : String :=
  "options:\n" ++
  "  -h, --help            show this help message and exit\n" ++
  "  --table TABLE, -t TABLE\n" ++
  "                        Target table in schema.table form\n" ++
  "  --query QUERY, -q QUERY\n" ++
  "                        SQL query text\n" ++
  "  --file FILE, -f FILE  Read SQL query from file\n" ++
  "  --config CONFIG, -c CONFIG\n" ++
  "                        Path to configuration file (default:\n" ++
  "                        config/config.yaml)\n" ++
  "  --log-level \x7bDEBUG,INFO,WARNING,ERROR,CRITICAL\x7d, " ++
  "-l \x7bDEBUG,INFO,WARNING,ERROR,CRITICAL\x7d\n" ++
  "                        Override log level from config\n" ++
  "  --version, -v         show program's version number and exit\n"

/-- Command lines to start from. -/
def samples : String :=
  "Examples:\n" ++
  "  # Clause for a table, query given inline\n" ++
  "  filterscope --table sales.orders --query " ++
  "\"SELECT * FROM sales.orders WHERE cob_date='2024-01-15'\"\n" ++
  "\n" ++
  "  # Query read from a file, custom config\n" ++
  "  filterscope --table sales.orders --file query.sql --config config/production.yaml\n" ++
  "\n" ++
  "  # Query read from stdin\n" ++
  "  cat query.sql | filterscope --table sales.orders\n" ++
  "        \n"

/-- The whole help. -/
def help : String :=
  usage ++
  "\nFilterScope - Extract the WHERE clause that filters a given table\n\n" ++
  optionTable ++ "\n" ++ samples

/-- What the user is told about a command line that cannot be read. -/
def UsageError.text (e : UsageError) : String :=
  usage ++ "filterscope: error: " ++ e.message ++ "\n"

end RowGuard.Command
