import Rendezvous.Contribution

/-!
# Reports

What callers are told: availabilities, who is there on a date, and recurrences with the
days excluded from them.
-/

namespace Rendezvous

structure Receipt where
  id : String
  participantId : String
  participantName : String
  day : Date
  slot : Slot
  note : Option String
  createdAt : Instant
  updatedAt : Instant
deriving DecidableEq

def Receipt.of (participant : Participant) (availability : Availability) : Receipt where
  id := availability.id
  participantId := participant.id
  participantName := participant.name
  day := availability.day
  slot := availability.slot
  note := availability.note
  createdAt := availability.createdAt
  updatedAt := availability.updatedAt

structure ScheduleEntry where
  id : String
  day : Date
  slot : Slot
  note : Option String
  createdAt : Instant
  updatedAt : Instant
deriving DecidableEq

def ScheduleEntry.of (availability : Availability) : ScheduleEntry where
  id := availability.id
  day := availability.day
  slot := availability.slot
  note := availability.note
  createdAt := availability.createdAt
  updatedAt := availability.updatedAt

/-- What others may know of a participant. -/
structure Profile where
  id : String
  name : String
  email : Option String
  emailVerified : Bool
deriving DecidableEq

def Profile.of (participant : Participant) : Profile where
  id := participant.id
  name := participant.name
  email := participant.email
  emailVerified := participant.emailVerified

structure Schedule where
  participant : Profile
  entries : List ScheduleEntry
deriving DecidableEq

/-- Who is there on a date, and how many of them at the same time. -/
structure DaySummary where
  day : Date
  total : Int
  contributions : List Contribution
deriving DecidableEq

structure BusyTime where
  start : String
  stop : String
  count : Int
deriving DecidableEq

def BusyTime.of (piece : Piece) : BusyTime where
  start := TimeOfDay.ofMinutes piece.start
  stop := TimeOfDay.ofMinutes piece.stop
  count := piece.count

structure RecurrenceListing where
  recurrence : Recurrence
  exclusions : List Exclusion
deriving DecidableEq

namespace DaySummary

/-- The summary of the contributions to a date.  Where they leave too few hours in common
the date counts as empty. -/
def of (calendar : Calendar) (day : Date) (contributions : List Contribution) :
    Except Failure DaySummary := do
  let slots := contributions.map Contribution.slot
  let full : DaySummary := ⟨day, Sweep.maxSimultaneous slots, contributions⟩
  if contributions.isEmpty || calendar.leastHours = 0 then pure full
  else
    let feasible ← Sweep.feasibleHours slots
    pure (if feasible.isBelow calendar.leastHours then ⟨day, 0, []⟩ else full)

/-- The summary with every participant's id hidden but that of the one who asks. -/
def masked (requester : Option String) (summary : DaySummary) : DaySummary :=
  { summary with
    contributions := summary.contributions.map fun contribution =>
      match requester.filter (· ≠ "") with
      | some id => if contribution.participantId = some id then contribution
          else contribution.masked
      | none => contribution.masked }

end DaySummary

end Rendezvous
