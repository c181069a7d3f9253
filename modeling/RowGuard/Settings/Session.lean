import RowGuard.Settings.Load

/-!
# Settings in use

A program loads its settings once and uses them until it loads them anew. Settings that cannot be
loaded change nothing.
-/

namespace RowGuard.Settings

/-- The settings in use. Each time settings are loaded they get a number of their own. -/
structure Session where
  vars : Variables
  current : Option (Nat × Settings) := none
  /-- How many times settings have been loaded. -/
  loaded : Nat := 0
  /-- The lines of the file of variables that could not be read when it was last asked for. -/
  unreadable : List Nat := []
  deriving Repr

namespace Session

/-- Loads settings and takes them into use. -/
def reload (store : Files.Store) (file : Option String) (s : Session) (readers : Readers := {}) :
    Except Failure (Nat × Settings) × Session :=
  let l := load store s.vars file readers
  let s := { s with vars := l.vars, unreadable := l.unreadable }
  match l.settings with
  | .error e => (.error e, s)
  | .ok settings =>
    (.ok (s.loaded, settings),
      { s with current := some (s.loaded, settings), loaded := s.loaded + 1 })

/-- The settings in use; if there are none yet, loads them. -/
def get (store : Files.Store) (file : Option String) (s : Session) (readers : Readers := {}) :
    Except Failure (Nat × Settings) × Session :=
  match s.current with
  | some c => (.ok c, { s with unreadable := [] })
  | none => s.reload store file readers

end Session

end RowGuard.Settings
