import RowGuard.Text.Blank
import RowGuard.Text.Case
import RowGuard.Text.Search

/-!
# The tables a fragment reads

The target tables are the words after `from` and `join`. Without a `join` anywhere in the text the
first table after `from` decides; with one, reading goes on, later finds replacing earlier ones,
until both a source and a joined table are known.
-/

namespace RowGuard.Query

/-- The tables found after `from` and after `join`. -/
structure Targets where
  source : Option (List Char) := none
  joined : Option (List Char) := none
  deriving DecidableEq, Repr

namespace Targets

/-- Nothing more can change: every kind of target that is looked for has been found. -/
def settled (joins : Bool) (t : Targets) : Bool := t.source.isSome && (!joins || t.joined.isSome)

/-- What a word followed by `next` adds. -/
def note (joins : Bool) (word next : List Char) (t : Targets) : Targets where
  source := if word = "from".toList then some next else t.source
  joined := if joins && word = "join".toList then some next else t.joined

/-- Reads words until the targets are settled. The last word is followed by nothing and so names
no table. -/
def read (joins : Bool) (t : Targets) : List (List Char) → Targets
  | word :: next :: rest =>
    if (t.note joins word next).settled joins then t.note joins word next
    else read joins (t.note joins word next) (next :: rest)
  | _ => t

end Targets

/-- Whether joined tables are looked for: `join` stands somewhere in the text, be it inside a
longer word. -/
def mentionsJoin (fragment : List Char) : Bool := Text.occursIn "join".toList fragment

/-- The target tables of a fragment. -/
def targets (fragment : List Char) : Targets :=
  Targets.read (mentionsJoin fragment) {} (Text.words fragment)

/-- Whether a table is one of the targets. Letter case does not matter for the table; the fragment
is in small letters already. -/
def reads (fragment table : List Char) : Bool :=
  (targets fragment).source == some (Text.lower table)
    || (targets fragment).joined == some (Text.lower table)

end RowGuard.Query
