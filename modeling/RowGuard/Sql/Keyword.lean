/-!
# Words with a meaning in SQL

Which words are keywords, and which of those may still name something, may name a function, or name
a data type. The grammar knows a keyword by its key: spellings that mean the same share one. All in
capitals.
-/

namespace RowGuard.Sql.Keyword

/-- Keywords that are their own key. -/
def words : List String :=
  ["ALL", "ALTER", "ANALYZE", "AND", "ANTI", "ANY", "APPLY", "ARRAY", "AS", "ASC", "ASOF",
   "AUTO_INCREMENT", "BEGIN", "BETWEEN", "BIGDECIMAL", "BIGINT", "BIGNUM", "BINARY", "BIT", "BLOB",
   "BOOLEAN", "BPCHAR", "CACHE", "CASE", "CHAR", "COLLATE", "COLUMN", "COMMENT", "COMMIT",
   "CONSTRAINT", "COPY", "CREATE", "CROSS", "CUBE", "CURRENT_CATALOG", "CURRENT_DATE",
   "CURRENT_DATETIME", "CURRENT_ROLE", "CURRENT_SCHEMA", "CURRENT_TIME", "CURRENT_TIMESTAMP",
   "CURRENT_USER", "DATABASE", "DATE", "DATEMULTIRANGE", "DATERANGE", "DATETIME", "DECFLOAT",
   "DECIMAL", "DECIMAL128", "DECIMAL256", "DECIMAL32", "DECIMAL64", "DEFAULT", "DELETE", "DESC",
   "DESCRIBE", "DISTINCT", "DIV", "DOUBLE", "DROP", "ELSE", "END", "ENUM", "ESCAPE", "EXCEPT",
   "EXECUTE", "EXISTS", "FALSE", "FETCH", "FILTER", "FIRST", "FLOAT", "FOR", "FORCE", "FORMAT",
   "FROM", "FULL", "FUNCTION", "GEOGRAPHY", "GEOMETRY", "GLOB", "GRANT", "HAVING", "IGNORE",
   "ILIKE", "IN", "INDEX", "INET", "INNER", "INSERT", "INT", "INT128", "INT256", "INT4MULTIRANGE",
   "INT4RANGE", "INT8MULTIRANGE", "INT8RANGE", "INTERSECT", "INTERVAL", "INTO", "IS", "ISNULL",
   "JOIN", "JSON", "JSONB", "KEEP", "KEY", "KILL", "LATERAL", "LEFT", "LIKE", "LIMIT", "LIST",
   "LOAD", "LOCALTIME", "LOCALTIMESTAMP", "LOCK", "LONGBLOB", "LONGTEXT", "MAP", "MEDIUMBLOB",
   "MEDIUMINT", "MEDIUMTEXT", "MERGE", "MOD", "NAMESPACE", "NATURAL", "NCHAR", "NEXT", "NOT",
   "NOTNULL", "NULL", "NULLABLE", "NUMMULTIRANGE", "NUMRANGE", "NVARCHAR", "OBJECT", "OFFSET", "ON",
   "OPERATOR", "OR", "ORDINALITY", "OUTER", "OVER", "OVERLAPS", "OVERWRITE", "PARTITION", "PERCENT",
   "PIVOT", "PRAGMA", "PROCEDURE", "QUALIFY", "RANGE", "RECURSIVE", "REFERENCES", "RENAME",
   "REPLACE", "RETURNING", "REVOKE", "RIGHT", "RLIKE", "ROLLBACK", "ROLLUP", "ROW", "ROWS",
   "SCHEMA", "SELECT", "SEMI", "SEPARATOR", "SEQUENCE", "SERIAL", "SESSION", "SESSION_USER", "SET",
   "SETTINGS", "SHOW", "SMALLINT", "SOME", "STRAIGHT_JOIN", "STRUCT", "TABLE", "TABLESAMPLE",
   "TEMPORARY", "TEXT", "THEN", "TIME", "TIMESTAMPLTZ", "TIMESTAMPNTZ", "TIMESTAMPTZ", "TIMETZ",
   "TINYBLOB", "TINYINT", "TINYTEXT", "TRUE", "TRUNCATE", "TSMULTIRANGE", "TSRANGE",
   "TSTZMULTIRANGE", "TSTZRANGE", "UINT", "UINT128", "UINT256", "UNCACHE", "UNION", "UNIQUE",
   "UNKNOWN", "UNNEST", "UNPIVOT", "UPDATE", "USE", "USING", "UUID", "VALUES", "VARBINARY",
   "VARCHAR", "VARIANT", "VECTOR", "VIEW", "VOLATILE", "WHEN", "WHERE", "WINDOW", "WITH", "XML",
   "XOR", "YEAR"]

/-- Further spellings, with the keys they share. -/
def synonyms : List (String × String) :=
  [("AUTOINCREMENT", "AUTO_INCREMENT"), ("BIGNUMERIC", "BIGDECIMAL"), ("BOOL", "BOOLEAN"),
   ("BYTE", "TINYINT"), ("BYTEA", "VARBINARY"), ("CALL", "COMMAND"), ("CHARACTER", "CHAR"),
   ("CHARSET", "CHARACTER SET"), ("CLOB", "TEXT"), ("DEC", "DECIMAL"), ("DISTINCTROW", "DISTINCT"),
   ("EXPLAIN", "DESCRIBE"), ("FIXED", "DECIMAL"), ("FLOAT4", "FLOAT"), ("FLOAT8", "DOUBLE"),
   ("HUGEINT", "INT128"), ("INT1", "TINYINT"), ("INT16", "SMALLINT"), ("INT2", "SMALLINT"),
   ("INT32", "INT"), ("INT4", "INT"), ("INT64", "BIGINT"), ("INT8", "BIGINT"), ("INTEGER", "INT"),
   ("LONG", "BIGINT"), ("LONGVARCHAR", "TEXT"), ("NUMBER", "DECIMAL"), ("NUMERIC", "DECIMAL"),
   ("NVARCHAR2", "NVARCHAR"), ("OPTIMIZE", "COMMAND"), ("PARTITIONED_BY", "PARTITION BY"),
   ("PREPARE", "COMMAND"), ("REAL", "FLOAT"), ("REGEXP", "RLIKE"), ("SHORT", "SMALLINT"),
   ("SIGNED", "BIGINT"), ("START", "BEGIN"), ("STR", "TEXT"), ("STRING", "TEXT"),
   ("TEMP", "TEMPORARY"), ("TIMESTAMP", "TIMESTAMPTZ"), ("TIMESTAMP_LTZ", "TIMESTAMPLTZ"),
   ("TIMESTAMP_NTZ", "TIMESTAMPNTZ"), ("UHUGEINT", "UINT128"), ("UNSIGNED", "UBIGINT"),
   ("VACUUM", "COMMAND"), ("VARCHAR2", "VARCHAR")]

/-- The key of a word, if it is a keyword. -/
def key? (word : String) : Option String :=
  if words.contains word then some word
  else (synonyms.find? fun s => s.1 == word).map Prod.snd

/-- Keywords of several words, with their keys. -/
def phrases : List (List String × String) :=
  [(["CHAR", "VARYING"], "VARCHAR"), (["CHARACTER", "SET"], "CHARACTER SET"),
   (["CHARACTER", "VARYING"], "VARCHAR"), (["CLUSTER", "BY"], "CLUSTER BY"),
   (["CONNECT", "BY"], "CONNECT BY"), (["DISTRIBUTE", "BY"], "DISTRIBUTE BY"),
   (["DOUBLE", "PRECISION"], "DOUBLE"), (["FOR", "TIMESTAMP"], "FOR TIMESTAMP"),
   (["FOR", "VERSION"], "FOR VERSION"), (["FOREIGN", "KEY"], "FOREIGN KEY"),
   (["GROUP", "BY"], "GROUP BY"), (["GROUPING", "SETS"], "GROUPING SETS"),
   (["LOCK", "TABLES"], "COMMAND"), (["MEMBER", "OF"], "MEMBER OF"),
   (["ORDER", "BY"], "ORDER BY"), (["PARTITION", "BY"], "PARTITION BY"),
   (["PARTITIONED", "BY"], "PARTITION BY"), (["PRIMARY", "KEY"], "PRIMARY KEY"),
   (["SIGNED", "INTEGER"], "BIGINT"), (["SIMILAR", "TO"], "SIMILAR TO"),
   (["SORT", "BY"], "SORT BY"), (["SOUNDS", "LIKE"], "SOUNDS LIKE"),
   (["START", "WITH"], "START WITH"), (["UNLOCK", "TABLES"], "COMMAND"),
   (["UNSIGNED", "INTEGER"], "UBIGINT")]

/-- Keywords that begin a statement of which only the first word is looked at. -/
def commands : List String := ["COMMAND", "EXECUTE", "FETCH", "RENAME", "REPLACE"]

/-- Kinds of objects that statements make, describe and drop. -/
def objects : List String :=
  ["COLUMN", "CONSTRAINT", "DATABASE", "FOREIGN KEY", "FUNCTION", "INDEX", "NAMESPACE",
   "PROCEDURE", "SCHEMA", "SEQUENCE", "TABLE", "VIEW"]

/-- Keywords that never name a column, table or alias. -/
def notNames : List String :=
  ["ALTER", "AND", "AS", "BETWEEN", "CHARACTER SET", "CLUSTER BY", "CONNECT BY", "CREATE", "CROSS",
   "DISTINCT", "DISTRIBUTE BY", "DROP", "ELSE", "EXCEPT", "FETCH", "FOR", "FOR TIMESTAMP",
   "FOR VERSION", "FORCE", "FROM", "GLOB", "GRANT", "GROUP BY", "GROUPING SETS", "HAVING", "IGNORE",
   "ILIKE", "INNER", "INSERT", "INTERSECT", "INTO", "JOIN", "KEY", "LATERAL", "LIKE", "MEMBER OF",
   "MOD", "NOT", "NOTNULL", "ON", "OR", "ORDER BY", "OUTER", "PARTITION BY", "PRIMARY KEY",
   "QUALIFY", "RETURNING", "REVOKE", "RLIKE", "ROLLBACK", "SELECT", "SEPARATOR", "SIMILAR TO",
   "SORT BY", "SOUNDS LIKE", "START WITH", "STRAIGHT_JOIN", "TABLESAMPLE", "THEN", "UNCACHE",
   "UNION", "USING", "VALUES", "WHEN", "WHERE", "WITH", "XOR"]

/-- Keywords that are names and, with a parenthesis behind them, are still no functions. -/
def notCallable : List String :=
  ["ANALYZE", "ANTI", "APPLY", "ASC", "ASOF", "AUTO_INCREMENT", "BEGIN", "CACHE", "CASE", "COLUMN",
   "COMMENT", "COMMIT", "CONSTRAINT", "COPY", "CUBE", "DEFAULT", "DELETE", "DESC", "DESCRIBE",
   "DIV", "END", "ESCAPE", "EXECUTE", "FALSE", "FOREIGN KEY", "FULL", "FUNCTION", "IN", "IS",
   "KEEP", "KILL", "LIMIT", "LOAD", "LOCK", "NAMESPACE", "NATURAL", "OPERATOR", "ORDINALITY",
   "OVER", "OVERLAPS", "OVERWRITE", "PARTITION", "PERCENT", "PIVOT", "PRAGMA", "PROCEDURE",
   "RECURSIVE", "REFERENCES", "RENAME", "ROLLUP", "ROWS", "SEMI", "SESSION", "SETTINGS", "SHOW",
   "TEMPORARY", "TRUE", "UNIQUE", "UNPIVOT", "UPDATE", "USE", "VIEW", "VOLATILE"]

/-- Keywords that are no names and, with a parenthesis behind them, are functions. -/
def onlyCallable : List String :=
  ["CHARACTER SET", "GLOB", "ILIKE", "INSERT", "LIKE", "MOD", "PRIMARY KEY", "RLIKE", "VALUES",
   "XOR"]

/-- Keywords that are names and never stand for a table after it without `AS`. -/
def notTableAlias : List String :=
  ["ANTI", "ASOF", "FULL", "LEFT", "LOCK", "NATURAL", "RIGHT", "SEMI", "USE", "WINDOW"]

/-- Tokens that not even a reader for any name takes. -/
def reserved : List String :=
  ["(", ")", "[", "]", "\x7b", "\x7d", "&", "^", ":", ",", "-", ".", "=", ">", "<", "MOD", "NOT",
   "|", "+", ";", "/", "\\", "*", "~", "?", "@", "#", "UNKNOWN", "SELECT"]

/-- Names of data types. -/
def types : List String :=
  ["ARRAY", "BIGDECIMAL", "BIGINT", "BIGNUM", "BINARY", "BIT", "BLOB", "BOOLEAN", "BPCHAR", "CHAR",
   "DATE", "DATEMULTIRANGE", "DATERANGE", "DATETIME", "DECFLOAT", "DECIMAL", "DECIMAL128",
   "DECIMAL256", "DECIMAL32", "DECIMAL64", "DOUBLE", "ENUM", "FLOAT", "GEOGRAPHY", "GEOMETRY",
   "INET", "INT", "INT128", "INT256", "INT4MULTIRANGE", "INT4RANGE", "INT8MULTIRANGE", "INT8RANGE",
   "INTERVAL", "JSON", "JSONB", "LIST", "LONGBLOB", "LONGTEXT", "MAP", "MEDIUMBLOB", "MEDIUMINT",
   "MEDIUMTEXT", "NCHAR", "NULL", "NULLABLE", "NUMMULTIRANGE", "NUMRANGE", "NVARCHAR", "OBJECT",
   "RANGE", "SERIAL", "SET", "SMALLINT", "STRUCT", "TEXT", "TIME", "TIMESTAMPLTZ", "TIMESTAMPNTZ",
   "TIMESTAMPTZ", "TIMETZ", "TINYBLOB", "TINYINT", "TINYTEXT", "TSMULTIRANGE", "TSRANGE",
   "TSTZMULTIRANGE", "TSTZRANGE", "UBIGINT", "UINT", "UINT128", "UINT256", "UNION", "UNKNOWN",
   "USER-DEFINED", "UUID", "VARBINARY", "VARCHAR", "VARIANT", "VECTOR", "XML", "YEAR"]

/-- Data types made of named fields. -/
def recordTypes : List String := ["OBJECT", "STRUCT", "UNION"]

/-- Data types made of other types. -/
def nestedTypes : List String := ["ARRAY", "LIST", "MAP", "NULLABLE", "RANGE"] ++ recordTypes

/-- Data types with a time of day, which may say how they treat time zones. -/
def timeTypes : List String :=
  ["TIME", "TIMETZ", "TIMESTAMPLTZ", "TIMESTAMPNTZ", "TIMESTAMPTZ"]

/-- Number types that may be without a sign. -/
def signedTypes : List String :=
  ["BIGINT", "DECIMAL", "DOUBLE", "INT", "MEDIUMINT", "SMALLINT", "TINYINT"]

/-- Functions that stand without parentheses. -/
def bareFunctions : List String :=
  ["CURRENT_DATE", "CURRENT_DATETIME", "CURRENT_ROLE", "CURRENT_TIME", "CURRENT_TIMESTAMP",
   "CURRENT_USER", "LOCALTIME", "LOCALTIMESTAMP"]

/-- Character sets that introduce a string. -/
def introducers : List String :=
  ["_ARMSCII8", "_ASCII", "_BIG5", "_BINARY", "_CP1250", "_CP1251", "_CP1256", "_CP1257",
   "_CP850", "_CP852", "_CP866", "_CP932", "_DEC8", "_EUCJPMS", "_EUCKR", "_GB18030", "_GB2312",
   "_GBK", "_GEOSTD8", "_GREEK", "_HEBREW", "_HP8", "_KEYBCS2", "_KOI8R", "_KOI8U", "_LATIN1",
   "_LATIN2", "_LATIN5", "_LATIN7", "_MACCE", "_MACROMAN", "_SJIS", "_SWE7", "_TIS620", "_UCS2",
   "_UJIS", "_UTF16", "_UTF16LE", "_UTF32", "_UTF8", "_UTF8MB3", "_UTF8MB4"]

/-- Units of time, as an interval may name them. -/
def timeUnits : List String :=
  ["C", "CENT", "CENTS", "CENTURIES", "CENTURY", "D", "DAY", "DAY OF WEEK", "DAY OF YEAR",
   "DAYOFMONTH", "DAYOFWEEK", "DAYOFWEEKISO", "DAYOFYEAR", "DAYS", "DAY_HOUR", "DAY_MICROSECOND",
   "DAY_MINUTE", "DAY_SECOND", "DD", "DEC", "DECADE", "DECADES", "DECS", "DOW", "DOW_ISO", "DOY",
   "DW", "DW_ISO", "DY", "EPOCH", "EPOCH_MICROSECOND", "EPOCH_MICROSECONDS", "EPOCH_MILLISECOND",
   "EPOCH_MILLISECONDS", "EPOCH_NANOSECOND", "EPOCH_NANOSECONDS", "EPOCH_SECOND",
   "EPOCH_SECONDS", "H", "HH", "HOUR", "HOURS", "HOUR_MICROSECOND", "HOUR_MINUTE", "HOUR_SECOND",
   "HR", "HRS", "M", "MI", "MICROSEC", "MICROSECOND", "MICROSECONDS", "MICROSECS", "MIL",
   "MILLENIA", "MILLENNIUM", "MILLISEC", "MILLISECON", "MILLISECOND", "MILLISECONDS",
   "MILLISECS", "MILS", "MIN", "MINS", "MINUTE", "MINUTES", "MINUTE_MICROSECOND",
   "MINUTE_SECOND", "MM", "MON", "MONS", "MONTH", "MONTHS", "MS", "MSEC", "MSECOND", "MSECONDS",
   "MSECS", "NANOSEC", "NANOSECOND", "NANOSECS", "NS", "NSEC", "NSECOND", "NSECONDS", "Q", "QTR",
   "QTRS", "QUARTER", "QUARTERS", "S", "SEC", "SECOND", "SECONDS", "SECOND_MICROSECOND", "SECS",
   "TIMEZONE_HOUR", "TIMEZONE_MINUTE", "TZH", "TZM", "US", "USEC", "USECOND", "USECONDS", "USECS",
   "W", "WEEK", "WEEKDAY", "WEEKDAY_ISO", "WEEKISO", "WEEKOFYEAR", "WEEKOFYEARISO",
   "WEEKOFYEAR_ISO", "WEEK_ISO", "WK", "WOY", "WY", "Y", "YEAR", "YEARS", "YEAR_MONTH", "YR",
   "YRS", "YY", "YYY", "YYYY"]

end RowGuard.Sql.Keyword
