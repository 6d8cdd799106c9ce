import Rendezvous.Slot

/-!
# Allowed hours

A window bounds the hours of a day; a missing bound leaves its side unrestricted.
`fit` puts the times of a slot in order, moves them into a window and checks that
enough time is left.
-/

namespace Rendezvous

structure Window where
  opens : Option String
  closes : Option String
deriving DecidableEq

namespace Window

def unbounded : Window := ⟨none, none⟩

def isUnbounded (window : Window) : Bool :=
  window.opens.isNone && window.closes.isNone

/-- The hours from the earlier opening to the later closing.  A window that lacks a
bound gives way to the other, the special one first. -/
def combine (special weekday : Window) : Except Failure Window :=
  match special.opens, special.closes with
  | some specialOpens, some specialCloses =>
      match weekday.opens, weekday.closes with
      | some weekdayOpens, some weekdayCloses => do
          let opens ← TimeOfDay.earlier specialOpens weekdayOpens
          let closes ← TimeOfDay.later specialCloses weekdayCloses
          pure ⟨some opens, some closes⟩
      | _, _ => .ok special
  | _, _ => .ok weekday

/-- A start that is missing, or before the opening, becomes the opening. -/
def adjustStart (window : Window) (start : Option String) : Except Failure (Option String) :=
  match window.opens, TimeOfDay.given start with
  | some opens, none => .ok (some opens)
  | some opens, some time => do
      let order ← TimeOfDay.compare time opens
      pure (some (if order = .lt then opens else time))
  | none, none => .ok (some TimeOfDay.dayStart)
  | none, some time => .ok (some time)

def adjustStop (window : Window) (stop : Option String) : Except Failure (Option String) :=
  match window.closes, TimeOfDay.given stop with
  | some closes, none => .ok (some closes)
  | some closes, some time => do
      let order ← TimeOfDay.compare time closes
      pure (some (if order = .gt then closes else time))
  | none, none => .ok (some TimeOfDay.dayEnd)
  | none, some time => .ok (some time)

/-- A slot moved into the window.  An unbounded window leaves it as it is; any other
gives it both sides. -/
def adjust (window : Window) (slot : Slot) : Except Failure Slot :=
  if window.isUnbounded then .ok slot
  else do
    let start ← window.adjustStart slot.start
    let stop ← window.adjustStop slot.stop
    pure ⟨start, stop⟩

/-- Refuses a slot that the window left empty, or shorter than a number of hours. -/
def checkLength (leastHours : Nat) (slot : Slot) : Except Failure Unit :=
  match TimeOfDay.given slot.start, TimeOfDay.given slot.stop with
  | some start, some stop => do
      let order ← TimeOfDay.compare start stop
      if order ≠ .lt then .error (.refused .outsideAllowedHours)
      else if leastHours = 0 then .ok ()
      else do
        let minutes ← TimeOfDay.minutesBetween start stop
        let hours ← TimeOfDay.hours minutes
        if hours.isBelow leastHours then .error (.refused .tooShort) else .ok ()
  | _, _ => .ok ()

def fit (leastHours : Nat) (window : Window) (slot : Slot) : Except Failure Slot := do
  let slot ← slot.ordered
  if ← slot.isEmpty then .error (.refused .emptyTimeRange)
  else do
    let adjusted ← window.adjust slot
    checkLength leastHours adjusted
    pure adjusted

end Window

end Rendezvous
