import RowGuard.Sql.Tree

/-!
# Known functions

How many arguments each known function takes, and which of them are part of the call: some functions
take more than they use, and some take the name of a unit of time, which is no column.
-/

namespace RowGuard.Sql

namespace Function

/-- The arguments of a function. -/
structure Signature where
  /-- The least number of arguments. -/
  least : Nat
  /-- The greatest number of arguments, if there is one. -/
  most : Option Nat := none
  /-- How many arguments are used, if not all are. -/
  used : Option Nat := none
  /-- The position of the argument that names a unit of time. -/
  unit : Option Nat := none
  deriving Repr

/-- Just so many arguments. -/
def exactly (n : Nat) : Signature := { least := n, most := some n }

/-- So many arguments, or more. -/
def atLeast (n : Nat) : Signature := { least := n }

/-- No fewer and no more arguments than these. -/
def between (least most : Nat) : Signature := { least := least, most := some most }

/-- A signature of which only the first arguments are used. -/
def Signature.keeping (s : Signature) (n : Nat) : Signature := { s with used := some n }

/-- A signature with a unit of time at a position. -/
def Signature.withUnit (s : Signature) (position : Nat) : Signature :=
  { s with unit := some position }

/-- The signatures of the known functions. -/
def signatures : List (Signature × List String) :=
  [(exactly 0,
    ["CURRENT_ACCOUNT", "CURRENT_CATALOG", "CURRENT_ROLE", "CURRENT_TIMEZONE", "CURRENT_VERSION",
     "PI", "SESSION_USER", "UTC_DATE", "VERSION"]),
   (between 0 1,
    ["CURDATE", "CURRENT_DATE", "CURRENT_DATETIME", "CURRENT_SCHEMA", "CURRENT_TIME",
     "CURRENT_USER", "CURTIME", "DATABASE", "DAY", "DAYOFMONTH", "DAYOFWEEK", "DAYOFYEAR",
     "LOCALTIME", "LOCALTIMESTAMP", "MONTH", "NTILE", "ROW_NUMBER", "SCHEMA", "USER", "UTC_TIME",
     "UTC_TIMESTAMP", "WEEKOFYEAR", "YEAR"]),
   (between 0 2,
    ["CURRENT_TIMESTAMP", "MAP", "MODE", "STR_TO_UNIX", "TIME", "WEEK"]),
   ((between 0 2).keeping 1,
    ["LOG10", "LOG2"]),
   (between 0 3,
    ["GEN_RANDOM_UUID", "RAND", "RANDOM"]),
   ((between 0 3).keeping 0,
    ["GENERATE_UUID", "UUID"]),
   ((between 0 3).keeping 2,
    ["UUID_STRING"]),
   (between 0 4,
    ["TIMESTAMP"]),
   ((between 0 4).keeping 1,
    ["MONTHNAME"]),
   (atLeast 0,
    ["ARRAY", "ARRAYS_ZIP", "ARRAY_CONSTRUCT_COMPACT", "COUNT", "CUME_DIST", "DENSE_RANK", "LIST",
     "PERCENT_RANK", "RANK", "STRUCT", "XOR"]),
   (exactly 1,
    ["ABS", "ACOS", "ACOSH", "ANY_VALUE", "ARRAY_COMPACT", "ARRAY_CONCAT_AGG", "ARRAY_FIRST",
     "ARRAY_LAST", "ARRAY_MAX", "ARRAY_MIN", "ARRAY_REVERSE", "ARRAY_UNION_AGG",
     "ARRAY_UNIQUE_AGG", "ASCII", "ASIN", "ASINH", "ATANH", "AVG", "BITMAP_BIT_POSITION",
     "BITMAP_BUCKET_NUMBER", "BITMAP_CONSTRUCT_AGG", "BITMAP_COUNT", "BITMAP_OR_AGG",
     "BITWISE_AND_AGG", "BITWISE_COUNT", "BITWISE_OR_AGG", "BITWISE_XOR_AGG", "BIT_AND",
     "BIT_COUNT", "BIT_LENGTH", "BIT_OR", "BIT_XOR", "BOOLAND_AGG", "BOOLOR_AGG", "BOOLXOR_AGG",
     "BOOL_AND", "BOOL_OR", "BYTE_LENGTH", "CBRT", "CODE_POINTS_TO_BYTES", "CODE_POINTS_TO_STRING",
     "COLLATION", "COS", "COSH", "COT", "COTH", "COUNTIF", "COUNT_IF", "CSC", "CSCH",
     "DATE_FROM_UNIX_DATE", "DATE_STR_TO_DATE", "DATE_TO_DI", "DAYOFWEEK_ISO", "DAY_OF_MONTH",
     "DAY_OF_WEEK", "DAY_OF_YEAR", "DEGREES", "DI_TO_DATE", "EXP", "FACTORIAL", "FIRST_VALUE",
     "FLATTEN", "FROM_BASE32", "FROM_BASE64", "FROM_ISO8601_TIMESTAMP", "HEX", "HOUR", "INLINE",
     "ISINF", "ISNAN", "ISODOW", "IS_ARRAY", "IS_ASCII", "IS_INF", "IS_NAN", "JUSTIFY_DAYS",
     "JUSTIFY_HOURS", "JUSTIFY_INTERVAL", "KURTOSIS", "LAST_VALUE", "LCASE", "LN", "LOGICAL_AND",
     "LOGICAL_OR", "LOWER", "LOWER_HEX", "MAP_FROM_ENTRIES", "MAP_KEYS", "MAP_SIZE", "MD5",
     "MEDIAN", "MINUTE", "QUARTER", "RADIANS", "REVERSE", "SAFE_NEGATE", "SEC", "SECH", "SECOND",
     "SHA", "SHA1", "SIGN", "SIGNUM", "SIN", "SINH", "SKEWNESS", "SOUNDEX", "SPACE", "SQRT",
     "STDDEV", "STDDEV_POP", "STDDEV_SAMP", "STDEV", "SUM", "TAN", "TANH", "TIME_STR_TO_DATE",
     "TIME_STR_TO_UNIX", "TIME_TO_UNIX", "TO_ARRAY", "TO_BASE32", "TO_BASE64", "TO_CODE_POINTS",
     "TO_HEX", "TO_MAP", "TRY", "TS_OR_DI_TO_DI", "TYPEOF", "UCASE", "UNICODE", "UNIX_DATE",
     "UNIX_MICROS", "UNIX_MILLIS", "UNIX_SECONDS", "UNIX_TO_TIME_STR", "UPPER", "VARIANCE",
     "VARIANCE_POP", "VARIANCE_SAMP", "VAR_POP", "VAR_SAMP", "WEEK_OF_YEAR", "YEAROFWEEK",
     "YEAROFWEEKISO", "YEAR_OF_WEEK", "YEAR_OF_WEEK_ISO"]),
   (between 1 2,
    ["APPROX_COUNT_DISTINCT", "APPROX_DISTINCT", "ARRAY_DISTINCT", "ARRAY_LENGTH", "ARRAY_SIZE",
     "ARRAY_SORT", "ARRAY_SUM", "ATAN", "COMPRESS", "DATETIME", "DAYNAME", "EXISTS", "FIRST",
     "JSON_TYPE", "LAST", "LOG", "PERCENTILE_CONT", "PERCENTILE_DISC", "SHA2", "STANDARD_HASH",
     "STRING", "TIME_STR_TO_TIME", "TO_BOOLEAN", "TRUNC", "TRUNCATE", "UNHEX", "UNIX_TO_STR"]),
   ((between 1 2).keeping 1,
    ["ARRAYAGG", "ARRAY_AGG"]),
   ((between 1 2).withUnit 1,
    ["LAST_DAY", "LAST_DAY_OF_MONTH"]),
   (between 1 3,
    ["CEILING", "CHARACTER_LENGTH", "CHAR_LENGTH", "JSON_PARSE", "LAG", "LEAD", "LEN",
     "PARSE_JSON", "SORT_ARRAY", "TO_BINARY", "TO_DOUBLE", "TS_OR_DS_TO_DATE"]),
   ((between 1 3).keeping 1,
    ["DATE", "LENGTH"]),
   ((between 1 3).keeping 2,
    ["JSON_KEYS", "STR_TO_DATE"]),
   (between 1 4,
    ["DATEFROMPARTS", "DATE_FROM_PARTS", "ROUND", "STR_TO_MAP", "TO_CHAR"]),
   ((between 1 4).keeping 1,
    ["UNNEST"]),
   ((between 1 4).keeping 2,
    ["LTRIM", "RTRIM"]),
   (between 1 6,
    ["LEVENSHTEIN", "UNIX_TO_TIME"]),
   ((between 1 6).keeping 2,
    ["FROM_UNIXTIME"]),
   (atLeast 1,
    ["ARRAY_CAT", "ARRAY_CONCAT", "ARRAY_INTERSECT", "ARRAY_INTERSECTION", "COALESCE", "CONCAT",
     "CONCAT_WS", "EXPLODE", "EXPLODE_OUTER", "GREATEST", "GROUPING", "GROUPING_ID", "HASH_AGG",
     "HLL", "IFNULL", "LEAST", "MAX", "MIN", "NVL", "POSEXPLODE", "POSEXPLODE_OUTER"]),
   (exactly 2,
    ["ARRAY_ALL", "ARRAY_ANY", "ARRAY_CONTAINS_ALL", "ARRAY_FILTER", "ARRAY_HAS_ALL",
     "ARRAY_OVERLAPS", "ARRAY_REMOVE_AT", "ATAN2", "COLLATE", "COSINE_DISTANCE", "COVAR_POP",
     "COVAR_SAMP", "DOT_PRODUCT", "ENDSWITH", "ENDS_WITH", "EQUAL_NULL", "EUCLIDEAN_DISTANCE",
     "FILTER", "FROM_BASE", "JAROWINKLER_SIMILARITY", "MANHATTAN_DISTANCE", "MAP_CAT",
     "MAP_CONTAINS_KEY", "NEXT_DAY", "NULLIF", "OBJECT_AGG", "POW", "POWER", "QUANTILE",
     "RANGE_BUCKET", "REGR_AVGX", "REGR_AVGY", "REGR_COUNT", "REGR_INTERCEPT", "REGR_R2",
     "REGR_SLOPE", "REGR_SXX", "REGR_SXY", "REGR_SYY", "REGR_VALX", "REGR_VALY", "REPEAT",
     "SAFE_ADD", "SAFE_DIVIDE", "SAFE_MULTIPLY", "SAFE_SUBTRACT", "STARTSWITH", "STARTS_WITH",
     "STRUCT_EXTRACT", "TRANSFORM"]),
   (between 2 3,
    ["ADD_MONTHS", "ARRAY_JOIN", "ARRAY_POSITION", "ARRAY_TO_STRING", "CONTAINS", "CORR", "ENCODE",
     "FORMAT", "GENERATE_DATE_ARRAY", "GETBIT", "IIF", "JSON_ARRAY_CONTAINS", "LEFT",
     "MONTHS_BETWEEN", "NTH_VALUE", "NUMBER_TO_STR", "NVL2", "REGEXP_FULL_MATCH", "REGEXP_ILIKE",
     "REGEXP_SPLIT", "REPLACE", "RIGHT", "ST_DISTANCE", "ST_MAKEPOINT", "ST_POINT", "TIMESTAMPADD",
     "TIMESTAMPDIFF"]),
   ((between 2 3).keeping 2,
    ["ARRAY_APPEND", "ARRAY_PREPEND", "ARRAY_REMOVE", "DATE_ADD", "DATE_SUB"]),
   ((between 2 3).withUnit 1,
    ["DATETIME_TRUNC", "TIME_TRUNC"]),
   ((between 2 3).withUnit 2,
    ["DATETIME_ADD", "DATETIME_DIFF", "DATETIME_SUB", "TIMESTAMP_ADD", "TIMESTAMP_DIFF",
     "TIMESTAMP_SUB", "TIME_ADD", "TIME_DIFF", "TIME_SUB"]),
   (between 2 4,
    ["ARRAY_CONTAINS", "ARRAY_HAS", "ARRAY_SLICE", "DATE_TRUNC", "GENERATE_SERIES", "INSTR",
     "REGEXP_COUNT", "REGEXP_LIKE", "STRPOS", "STR_POSITION", "TIME_TO_STR", "UNIFORM"]),
   ((between 2 4).keeping 2,
    ["DATE_FORMAT"]),
   ((between 2 4).keeping 3,
    ["CHARINDEX", "LEFTPAD", "LOCATE", "LPAD", "RIGHTPAD", "RPAD"]),
   ((between 2 4).withUnit 1,
    ["TIMESTAMP_TRUNC"]),
   (between 2 5,
    ["APPROX_QUANTILE", "STR_TO_TIME"]),
   ((between 2 5).withUnit 2,
    ["DATE_BIN"]),
   (between 2 6,
    ["REGEXP_EXTRACT_ALL"]),
   ((between 2 6).withUnit 2,
    ["DATEDIFF", "DATE_DIFF"]),
   (between 2 7,
    ["REGEXP_EXTRACT", "REGEXP_INSTR", "REGEXP_REPLACE"]),
   (atLeast 2,
    ["ELT", "JSON_ARRAY_APPEND", "JSON_ARRAY_INSERT", "JSON_EXTRACT", "JSON_REMOVE", "JSON_SET"]),
   ((atLeast 2).keeping 2,
    ["JSON_EXTRACT_PATH_TEXT", "JSON_EXTRACT_SCALAR"]),
   (exactly 3,
    ["GENERATE_TIMESTAMP_ARRAY", "SUBSTRING_INDEX", "TRANSLATE"]),
   (between 3 4,
    ["REDUCE"]),
   ((between 3 4).keeping 3,
    ["CONVERT_TZ"]),
   ((between 3 4).withUnit 2,
    ["TIME_SLICE"]),
   (between 3 6,
    ["MAKETIME", "TIMEFROMPARTS", "TIME_FROM_PARTS"]),
   (exactly 4,
    ["INSERT", "STUFF"])]

/-- The signature of a function, if it is known. -/
def signature? (name : String) : Option Signature :=
  (signatures.find? fun s => s.2.contains name).map Prod.fst

/-- Functions of all rows of a group. -/
def aggregates : List String :=
  ["ANY_VALUE", "APPROX_COUNT_DISTINCT", "APPROX_DISTINCT", "APPROX_QUANTILE", "ARG_MAX",
   "ARG_MIN", "ARRAYAGG", "ARRAY_AGG", "ARRAY_CONCAT_AGG", "ARRAY_UNION_AGG", "ARRAY_UNIQUE_AGG",
   "AVG", "BITMAP_CONSTRUCT_AGG", "BITMAP_OR_AGG", "BITWISE_AND_AGG", "BITWISE_OR_AGG",
   "BITWISE_XOR_AGG", "BIT_AND", "BIT_OR", "BIT_XOR", "BOOLAND_AGG", "BOOLOR_AGG", "BOOLXOR_AGG",
   "BOOL_AND", "BOOL_OR", "CORR", "COUNT", "COUNTIF", "COUNT_IF", "COVAR_POP", "COVAR_SAMP",
   "CUME_DIST", "DENSE_RANK", "FIRST", "FIRST_VALUE", "GROUPING", "GROUPING_ID", "GROUP_CONCAT",
   "HASH_AGG", "HLL", "JSON_OBJECTAGG", "KURTOSIS", "LAG", "LAST", "LAST_VALUE", "LEAD",
   "LOGICAL_AND", "LOGICAL_OR", "MAX", "MAX_BY", "MEDIAN", "MIN", "MIN_BY", "MODE", "NTH_VALUE",
   "NTILE", "OBJECT_AGG", "PERCENTILE_CONT", "PERCENTILE_DISC", "PERCENT_RANK", "QUANTILE",
   "RANK", "REGR_AVGX", "REGR_AVGY", "REGR_COUNT", "REGR_INTERCEPT", "REGR_R2", "REGR_SLOPE",
   "REGR_SXX", "REGR_SXY", "REGR_SYY", "REGR_VALX", "REGR_VALY", "SKEWNESS", "STDDEV",
   "STDDEV_POP", "STDDEV_SAMP", "STDEV", "STRING_AGG", "SUM", "VARIANCE", "VARIANCE_POP",
   "VARIANCE_SAMP", "VAR_POP", "VAR_SAMP"]

/-- Whether a signature takes so many arguments. -/
def Signature.takes (s : Signature) (n : Nat) : Bool :=
  decide (s.least ≤ n) && s.most.all fun m => decide (n ≤ m)

/-- The arguments that a signature uses; a unit of time among them is no column. -/
def Signature.select (s : Signature) (arguments : List Tree) : List Tree :=
  let arguments := arguments.take (s.used.getD arguments.length)
  match s.unit with
  | some position => arguments.modify position Tree.asUnit
  | none => arguments

end Function

end RowGuard.Sql
