import RowGuard.Query.Group
import RowGuard.Text.Case

/-!
# The part of a query that carries its filter

A query is read in small letters and without the parentheses around it. Its fragment is the text
outside groups up to the first `where`, followed by everything after that keyword as it stands, so
a `where` inside a subquery is never taken for the query's own.
-/

namespace RowGuard.Query

/-- The keyword that begins a filter. -/
def keyword : List Char := ['w', 'h', 'e', 'r', 'e']

/-- A query without the parenthesis it begins with, and without the one it then ends with, if
there is one. A query that begins otherwise is not wrapped. -/
def unwrap? : List Char → Option (List Char)
  | '(' :: rest => some (if rest.getLast? = some ')' then rest.dropLast else rest)
  | _ => none

/-- A query in small letters and without its outer parentheses. -/
def normalize (query : List Char) : List Char :=
  (unwrap? (Text.lower query)).getD (Text.lower query)

/-- Collects the characters outside groups until they end in the keyword. `seen` holds those
passed already, the latest first. -/
def scan (seen : List Char) : List Char → Option (List Char)
  | [] => none
  | c :: rest =>
    if c = '(' then scan seen (afterGroup rest)
    else if keyword.reverse.isPrefixOf (c :: seen) then some ((c :: seen).reverse ++ rest)
    else scan (c :: seen) rest
termination_by text => text.length
decreasing_by
  · exact Nat.lt_succ_of_le (length_afterGroup_le rest)
  · exact Nat.lt_succ_self rest.length

/-- The fragment of a normalized query. A query without any parenthesis is its own fragment,
whether or not it has the keyword. -/
def fragment? (query : List Char) : Option (List Char) :=
  if query.contains '(' then scan [] query else some query

end RowGuard.Query
