import Rendezvous.Calendar
import Rendezvous.Instant
import Rendezvous.Store.Table

/-!
# Records

What the service stores besides calendars: owners, participants, the days and weekly
slots they are available on, and the single days excluded from a weekly slot.
-/

namespace Rendezvous

structure User where
  id : String
  email : String
  displayName : String
  locale : String
deriving DecidableEq

structure Participant where
  id : String
  calendarId : String
  name : String
  email : Option String
  emailVerified : Bool
  locale : String
  verificationToken : Option String
  verificationExpiresAt : Option Instant
  createdAt : Instant
deriving DecidableEq

inductive Source where
  | manual
  | recurrence
deriving DecidableEq

namespace Source

def all : List Source := [.manual, .recurrence]

def name : Source → String
  | .manual => "manual"
  | .recurrence => "recurrence"

end Source

structure Availability where
  id : String
  participantId : String
  day : Date
  slot : Slot
  note : Option String
  source : Source
  recurrenceId : Option String
  createdAt : Instant
  updatedAt : Instant
deriving DecidableEq

/-- A participant is available in the same slot every week. -/
structure Recurrence where
  id : String
  participantId : String
  weekday : Weekday
  slot : Slot
  note : Option String
  firstDate : Date
  lastDate : Option Date
  createdAt : Instant
deriving DecidableEq

/-- A day on which a recurrence does not count. -/
structure Exclusion where
  id : String
  recurrenceId : String
  day : Date
  createdAt : Instant
deriving DecidableEq

instance : Keyed Calendar := ⟨Calendar.id⟩
instance : Keyed User := ⟨User.id⟩
instance : Keyed Participant := ⟨Participant.id⟩
instance : Keyed Availability := ⟨Availability.id⟩
instance : Keyed Recurrence := ⟨Recurrence.id⟩
instance : Keyed Exclusion := ⟨Exclusion.id⟩

end Rendezvous
