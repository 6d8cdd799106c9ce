import Rendezvous.Failure
import Rendezvous.TimeOfDay

/-!
# Slots

A slot is a range of the clock on some day.  A missing or empty side is the edge of
the day.  Both sides are texts, so a slot may hold a time that cannot be read.
-/

namespace Rendezvous

/-- A range of the clock. -/
structure Slot where
  start : Option String
  stop : Option String
deriving DecidableEq

namespace TimeOfDay

/-- Minutes from midnight, where a text that is no time fails. -/
def minutes (text : String) : Except Failure Int :=
  match minutes? text with
  | some count => .ok count
  | none => .error .unreadable

def compare (a b : String) : Except Failure Ordering := do
  let first ← minutes a
  let second ← minutes b
  pure (Ord.compare first second)

/-- The earlier of two times, the first of two equal ones. -/
def earlier (a b : String) : Except Failure String := do
  let order ← compare a b
  pure (if order = .gt then b else a)

def later (a b : String) : Except Failure String := do
  let order ← compare a b
  pure (if order = .lt then b else a)

/-- Minutes from one time to a later one, none if it is not later. -/
def minutesBetween (start stop : String) : Except Failure Int := do
  let last ← minutes stop
  let first ← minutes start
  pure (max (last - first) 0)

def hours (minutes : Int) : Except Failure Double :=
  match hours? minutes with
  | some hours => .ok hours
  | none => .error .tooLarge

/-- A side of a slot that is neither missing nor empty. -/
def given (side : Option String) : Option String :=
  side.filter fun text => text ≠ ""

/-- A time of the clock with its hour padded. -/
def ofText (text : String) : Except Failure String :=
  match parse? text with
  | some time => .ok time
  | none => .error (.refused .malformedTime)

def request (side : Option String) : Except Failure (Option String) :=
  match given side with
  | none => .ok none
  | some text => (ofText text).map some

end TimeOfDay

namespace Date

def request (text : String) : Except Failure Date :=
  match parse? text with
  | some day => .ok day
  | none => .error (.refused .malformedDate)

def requestOptional (text : Option String) : Except Failure (Option Date) :=
  match TimeOfDay.given text with
  | some text => (request text).map some
  | none => .ok none

end Date

namespace Slot

/-- A slot whose given times are in order; the two sides change places if need be. -/
def ordered (slot : Slot) : Except Failure Slot :=
  match TimeOfDay.given slot.start, TimeOfDay.given slot.stop with
  | some start, some stop => do
      let order ← TimeOfDay.compare start stop
      pure (if order = .gt then ⟨slot.stop, slot.start⟩ else slot)
  | _, _ => .ok slot

def isEmpty (slot : Slot) : Except Failure Bool :=
  match TimeOfDay.given slot.start, TimeOfDay.given slot.stop with
  | some start, some stop => do
      let order ← TimeOfDay.compare start stop
      pure (order = .eq)
  | _, _ => .ok false

end Slot

end Rendezvous
