import Rendezvous.Store.Records
import Rendezvous.Sweep

/-!
# Who is available when

The contributions to a date are the availabilities stored for it, and the recurrences
that cover it where their participant stored none and the day is not excluded.
`contributionsBetween` collects them for a range of dates in one pass over the records.
-/

namespace Rendezvous

/-- A participant who is available, with the slot and the note; the id is missing where
it is hidden. -/
structure Contribution where
  participantId : Option String
  participantName : String
  slot : Slot
  note : Option String
deriving DecidableEq

namespace Contribution

def ofAvailability (participant : Participant) (availability : Availability) : Contribution :=
  ⟨some participant.id, participant.name, availability.slot, availability.note⟩

def ofRecurrence (participant : Participant) (recurrence : Recurrence) : Contribution :=
  ⟨some participant.id, participant.name, recurrence.slot, recurrence.note⟩

def masked (contribution : Contribution) : Contribution :=
  { contribution with participantId := none }

@[simp] theorem slot_masked (contribution : Contribution) :
    contribution.masked.slot = contribution.slot := rfl

/-- Collects neighbours of one date. -/
def gather : List (Date × Contribution) → List (Date × List Contribution)
  | [] => []
  | (day, contribution) :: rest =>
      match gather rest with
      | (next, group) :: later =>
          if day = next then (day, contribution :: group) :: later
          else (day, [contribution]) :: (next, group) :: later
      | [] => [(day, [contribution])]

end Contribution

namespace Records

def availabilitiesWithin (records : Records) (participants : List Participant)
    (start stop : Date) : List Availability :=
  records.availabilities.rows.filter fun availability =>
    participants.any (fun participant => participant.id = availability.participantId)
      && start ≤ availability.day && availability.day ≤ stop

def availabilitiesBetween (records : Records) (participants : List Participant)
    (start stop : Date) : List Availability :=
  (records.availabilitiesWithin participants start stop).mergeSort
    fun a b => a.day < b.day
      || (a.day = b.day && a.createdAt.micros ≤ b.createdAt.micros)

def explicitBetween (records : Records) (participants : List Participant)
    (start stop : Date) : List (Date × Contribution) :=
  (records.availabilitiesBetween participants start stop).filterMap fun availability =>
    (participants.find? fun participant => participant.id = availability.participantId).map
      fun participant => (availability.day, .ofAvailability participant availability)

def hasAvailability (records : Records) (participantId : String) (day : Date) : Bool :=
  (records.availabilityOn? participantId day).isSome

def recurringBetween (records : Records) (participants : List Participant)
    (start stop : Date) : List (Date × Contribution) :=
  records.recurrences.rows.flatMap fun recurrence =>
    match participants.find? fun participant => participant.id = recurrence.participantId with
    | none => []
    | some participant =>
        ((recurrence.dates start stop).filter fun day =>
            !records.isExcluded recurrence.id day
              && !records.hasAvailability participant.id day).map
          fun day => (day, .ofRecurrence participant recurrence)

/-- Whether two of some availabilities are on one date and were made at instants that cannot
be compared. -/
def areIncomparable (availabilities : List Availability) : Bool :=
  availabilities.any fun a => availabilities.any fun b =>
    a.day = b.day && (a.createdAt.compare? b.createdAt).isNone

/-- Fails where the availabilities of a calendar between two dates cannot be put in order,
or where a recurrence of it cannot be looked up. -/
def checkSpan (records : Records) (calendarId : String) (start stop : Date) :
    Except Failure Unit :=
  let participants := records.participantsOf calendarId
  if areIncomparable (records.availabilitiesWithin participants start stop) then
    .error .incomparable
  else if records.recurrences.rows.any fun recurrence =>
      participants.any (fun participant => participant.id = recurrence.participantId)
        && recurrence.overruns start stop then
    .error .weekCutOff
  else
    .ok ()

/-- The contributions to every date between two dates that has any, by date. -/
def contributionsBetween (records : Records) (calendarId : String) (start stop : Date) :
    List (Date × List Contribution) :=
  let participants := records.participantsOf calendarId
  let dated := records.explicitBetween participants start stop
    ++ records.recurringBetween participants start stop
  Contribution.gather (dated.mergeSort fun a b => a.1 ≤ b.1)

def contributionsOn (records : Records) (calendarId : String) (day : Date) :
    List Contribution :=
  match records.contributionsBetween calendarId day day with
  | (_, contributions) :: _ => contributions
  | [] => []

def isAvailable (records : Records) (calendarId : String) (day : Date)
    (participantId : String) : Bool :=
  (records.contributionsOn calendarId day).any fun contribution =>
    contribution.participantId = some participantId

/-- The largest number of participants available at the same time of a date. -/
def simultaneous (records : Records) (calendarId : String) (day : Date) : Nat :=
  Sweep.maxSimultaneous ((records.contributionsOn calendarId day).map Contribution.slot)

end Records

end Rendezvous
