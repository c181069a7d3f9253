/-!
# Days and moments

A moment is a day of the calendar, on which a time may stand. A time may say how far its clock is
ahead of universal time; two such moments are the same when they are at the same instant, whatever
their clocks show. A moment without a zone is never the same as one with a zone, and a day never
the same as a time on it.
-/

namespace RowGuard

/-- The time of a day. -/
structure Clock where
  hour : Nat
  minute : Nat
  second : Nat
  /-- Millionths of a second. -/
  micros : Nat
  /-- Minutes ahead of universal time, where that is said. -/
  zone : Option Int
  deriving DecidableEq, Repr

/-- A day, or a moment on it. -/
structure Moment where
  year : Nat
  month : Nat
  day : Nat
  clock : Option Clock
  deriving DecidableEq, Repr

/-- A number with at least `width` digits. -/
def padded (width n : Nat) : String :=
  let digits := toString n
  String.ofList (List.replicate (width - digits.length) '0') ++ digits

namespace Clock

/-- Whether a time is one of a day, and its zone less than a day off. -/
def isValid (c : Clock) : Bool :=
  c.hour < 24 && c.minute < 60 && c.second < 60 && c.zone.all fun z => z.natAbs < 24 * 60

/-- The ISO form of a zone. -/
def zoneIso (zone : Int) : String :=
  (if zone < 0 then "-" else "+") ++ padded 2 (zone.natAbs / 60) ++ ":"
    ++ padded 2 (zone.natAbs % 60)

/-- The ISO form of a time. -/
def iso (c : Clock) : String :=
  padded 2 c.hour ++ ":" ++ padded 2 c.minute ++ ":" ++ padded 2 c.second
    ++ (if c.micros = 0 then "" else "." ++ padded 6 c.micros) ++ c.zone.elim "" zoneIso

end Clock

namespace Moment

/-- Whether a year has a leap day. -/
def isLeap (year : Nat) : Bool := year % 4 = 0 && (year % 100 ≠ 0 || year % 400 = 0)

/-- The days of a month. -/
def daysIn (year month : Nat) : Nat :=
  if month = 2 then (if isLeap year then 29 else 28)
  else if [4, 6, 9, 11].contains month then 30
  else 31

/-- Whether a moment is one of the calendar. -/
def isValid (m : Moment) : Bool :=
  1 ≤ m.year && 1 ≤ m.month && m.month ≤ 12 && 1 ≤ m.day && m.day ≤ daysIn m.year m.month
    && m.clock.all Clock.isValid

/-- The ISO form of a moment. -/
def iso (m : Moment) : String :=
  padded 4 m.year ++ "-" ++ padded 2 m.month ++ "-" ++ padded 2 m.day
    ++ m.clock.elim "" fun c => "T" ++ c.iso

/-- The days of the calendar before a day. -/
def daysBefore (m : Moment) : Nat :=
  let years := m.year - 1
  let months := (List.range (m.month - 1)).foldl (fun n i => n + daysIn m.year (i + 1)) 0
  365 * years + years / 4 - years / 100 + years / 400 + months + (m.day - 1)

/-- The instant of a moment whose zone is said, in millionths of a second of universal time. -/
def instant? (m : Moment) : Option Int := do
  let c ← m.clock
  let zone ← c.zone
  let minutes : Int := (m.daysBefore * 24 + c.hour) * 60 + c.minute - zone
  return (minutes * 60 + c.second) * 1000000 + c.micros

/-- Whether two moments are the same: at one instant where zones are said, else as written. -/
def same (m n : Moment) : Bool :=
  match m.instant?, n.instant? with
  | some i, some j => i == j
  | _, _ => m == n

end Moment

end RowGuard
