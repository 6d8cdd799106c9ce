import Rendezvous.Calendar

/-!
# Which days are admitted, and with which hours

A blocked holiday is refused and an allowed holiday is admitted whatever the weekday.
Any other day is admitted on an allowed weekday, or as the eve of a holiday where the
calendar allows eves.  The hours of a day are those of its weekday, if that is allowed,
together with those of the holiday or the eve.
-/

namespace Rendezvous

namespace Admission

def dateAllowed (holidays : Holidays) (country : String) (weekdays : List Int)
    (policy : HolidayPolicy) (eves : Bool) (day : Date) : Except Failure Bool :=
  let holiday := holidays.isHoliday country day
  if holiday ∧ policy = .block then .ok false
  else if holiday ∧ policy = .allow then .ok true
  else if weekdays.contains (day.weekday.val : Int) then .ok true
  else if country ≠ "" ∧ eves then holidays.isEve country day
  else .ok false

end Admission

namespace Calendar

/-- Whether the calendar admits a day, its first and last date aside. -/
def admits (calendar : Calendar) (holidays : Holidays) (day : Date) : Except Failure Bool :=
  Admission.dateAllowed holidays (calendar.country holidays) calendar.allowedWeekdays
    calendar.holidayPolicy calendar.allowHolidayEves day

def specialWindow (calendar : Calendar) (holidays : Holidays) (day : Date) :
    Except Failure (Option Window) :=
  if calendar.country holidays = "" then .ok none
  else if calendar.holidayPolicy = .allow ∧ holidays.isHoliday (calendar.country holidays) day then
    .ok (some calendar.allowedHours.holidays)
  else if calendar.allowHolidayEves then do
    let eve ← holidays.isEve (calendar.country holidays) day
    pure (if eve then some calendar.allowedHours.holidayEves else none)
  else
    .ok none

def window (calendar : Calendar) (holidays : Holidays) (day : Date) : Except Failure Window := do
  let weekday : Int := day.weekday.val
  let special ← calendar.specialWindow holidays day
  match special, calendar.allowsWeekday weekday with
  | none, true => pure (calendar.weekdayWindow weekday)
  | none, false => pure .unbounded
  | some special, true => special.combine (calendar.weekdayWindow weekday)
  | some special, false => pure special

def checkRange (calendar : Calendar) (day : Date) : Except Failure Unit :=
  match calendar.firstDate.filter (day < ·), calendar.lastDate.filter (· < day) with
  | some first, _ => .error (.refused (.beforeCalendar first))
  | none, some last => .error (.refused (.afterCalendar last))
  | none, none => .ok ()

end Calendar

end Rendezvous
