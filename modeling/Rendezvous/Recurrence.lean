import Rendezvous.Failure
import Rendezvous.Store.Record

/-!
# Weekly repetition

A recurrence covers every date of its weekday from its first to its last date, or
without end.  Its dates are looked up week by week until one is past the range, so that
the look-up can fail at the end of the calendar, which lies within a week.
-/

namespace Rendezvous

def Date.inRange (first : Date) (last : Option Date) (day : Date) : Bool :=
  first ≤ day && last.all (day ≤ ·)

/-- Whether two ranges, which may have no end, have a day in common. -/
def Date.rangesOverlap (firstA : Date) (lastA : Option Date) (firstB : Date)
    (lastB : Option Date) : Bool :=
  match lastA, lastB with
  | none, none => true
  | none, some lastB => firstA ≤ lastB
  | some lastA, none => firstB ≤ lastA
  | some lastA, some lastB => firstA ≤ lastB && firstB ≤ lastA

namespace Recurrence

def covers (recurrence : Recurrence) (day : Date) : Bool :=
  day.weekday = recurrence.weekday && Date.inRange recurrence.firstDate recurrence.lastDate day

/-- The number of the first day of a weekday that is not before a given one. -/
def nextOrdinal (weekday : Weekday) (start : Nat) : Nat :=
  start + (weekday.val + 7 - start % 7) % 7

def begin (recurrence : Recurrence) (start : Date) : Date :=
  max start recurrence.firstDate

def finish (recurrence : Recurrence) (stop : Date) : Date :=
  (recurrence.lastDate.map (min stop)).getD stop

/-- The dates covered between two dates, in ascending order. -/
def dates (recurrence : Recurrence) (start stop : Date) : List Date :=
  let first := nextOrdinal recurrence.weekday (recurrence.begin start).ordinal
  (List.range (((recurrence.finish stop).ordinal + 7 - first) / 7)).filterMap fun week =>
    Date.ofOrdinal? (first + 7 * week)

/-- Whether a number is that of a day which the last week of the calendar lacks.  Weeks
begin on Monday, and so with day one. -/
def isCutOff (ordinal : Nat) : Bool :=
  lastOrdinal < ordinal && (ordinal - 1) / 7 = (lastOrdinal - 1) / 7

/-- Whether looking up the dates between two dates comes to a day that the last week of
the calendar lacks, as the first that is past the range. -/
def overruns (recurrence : Recurrence) (start stop : Date) : Bool :=
  let last := recurrence.finish stop
  recurrence.begin start ≤ last
    && isCutOff (nextOrdinal recurrence.weekday (last.ordinal + 1))

def lookUp (recurrence : Recurrence) (start stop : Date) : Except Failure (List Date) :=
  if recurrence.overruns start stop then .error .weekCutOff
  else .ok (recurrence.dates start stop)

end Recurrence

end Rendezvous
