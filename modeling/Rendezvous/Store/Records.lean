import Rendezvous.Recurrence

/-!
# The records of the service

One table for each kind of record.  An availability is unique for its participant and
day, and an exclusion for its recurrence and day.
-/

namespace Rendezvous

structure Records where
  calendars : Table Calendar
  users : Table User
  participants : Table Participant
  availabilities : Table Availability
  recurrences : Table Recurrence
  exclusions : Table Exclusion
deriving DecidableEq

namespace Records

def empty : Records := ⟨.empty, .empty, .empty, .empty, .empty, .empty⟩

/-- The first calendar with a public token. -/
def calendarOf? (records : Records) (token : String) : Option Calendar :=
  records.calendars.rows.find? fun calendar => calendar.publicToken = token

def participantVerifying? (records : Records) (token : String) : Option Participant :=
  records.participants.rows.find? fun participant =>
    participant.verificationToken = some token

def participantsOf (records : Records) (calendarId : String) : List Participant :=
  records.participants.rows.filter fun participant => participant.calendarId = calendarId

def availabilityOn? (records : Records) (participantId : String) (day : Date) :
    Option Availability :=
  records.availabilities.rows.find? fun availability =>
    availability.participantId = participantId && availability.day = day

def availabilitiesOf (records : Records) (participantId : String)
    (start stop : Option Date) : List Availability :=
  (records.availabilities.rows.filter fun availability =>
      availability.participantId = participantId
        && start.all (· ≤ availability.day) && stop.all (availability.day ≤ ·)).mergeSort
    fun a b => a.day ≤ b.day

/-- Stores an availability on a day that its participant has none on. -/
def addAvailability (records : Records) (availability : Availability) :
    Except Failure Records :=
  match records.availabilityOn? availability.participantId availability.day with
  | some _ => .error (.duplicate availability.participantId availability.day)
  | none => .ok { records with availabilities := records.availabilities.put availability }

/-- The recurrences of a participant, by weekday and then by first date. -/
def recurrencesOf (records : Records) (participantId : String) : List Recurrence :=
  (records.recurrences.rows.filter fun recurrence =>
      recurrence.participantId = participantId).mergeSort
    fun a b => a.weekday < b.weekday || (a.weekday = b.weekday && a.firstDate ≤ b.firstDate)

def removeRecurrence (records : Records) (recurrenceId : String) : Records :=
  { records with
    recurrences := records.recurrences.erase recurrenceId
    exclusions := records.exclusions.keep fun exclusion =>
      exclusion.recurrenceId ≠ recurrenceId }

def exclusionOn? (records : Records) (recurrenceId : String) (day : Date) : Option Exclusion :=
  records.exclusions.rows.find? fun exclusion =>
    exclusion.recurrenceId = recurrenceId && exclusion.day = day

def isExcluded (records : Records) (recurrenceId : String) (day : Date) : Bool :=
  (records.exclusionOn? recurrenceId day).isSome

def exclusionsOf (records : Records) (recurrenceId : String) : List Exclusion :=
  (records.exclusions.rows.filter fun exclusion =>
      exclusion.recurrenceId = recurrenceId).mergeSort
    fun a b => a.day ≤ b.day

/-- Stores an exclusion, unless its day is excluded already.  Either way the exclusion
that is stored comes back. -/
def addExclusion (records : Records) (exclusion : Exclusion) : Exclusion × Records :=
  match records.exclusionOn? exclusion.recurrenceId exclusion.day with
  | some present => (present, records)
  | none => (exclusion, { records with exclusions := records.exclusions.put exclusion })

def removeExclusion (records : Records) (recurrenceId : String) (day : Date) : Records :=
  match records.exclusionOn? recurrenceId day with
  | some present => { records with exclusions := records.exclusions.erase present.id }
  | none => records

def calendarByToken (records : Records) (token : String) : Except Failure Calendar :=
  match records.calendarOf? token with
  | some calendar => .ok calendar
  | none => .error (.refused .calendarNotFound)

/-- The participant of a calendar with a given id; one of another calendar is as good
as none. -/
def participantIn (records : Records) (calendar : Calendar) (participantId : String) :
    Except Failure Participant :=
  match (records.participants.get? participantId).filter
      fun participant => participant.calendarId = calendar.id with
  | some participant => .ok participant
  | none => .error (.refused .participantNotFound)

def locate (records : Records) (token participantId : String) :
    Except Failure (Calendar × Participant) := do
  let calendar ← records.calendarByToken token
  let participant ← records.participantIn calendar participantId
  pure (calendar, participant)

/-- The availability of a participant on a day, which there has to be. -/
def availabilityOf (records : Records) (participant : Participant) (day : Date) :
    Except Failure Availability :=
  match records.availabilityOn? participant.id day with
  | some availability => .ok availability
  | none => .error (.refused .availabilityNotFound)

def recurrenceOf (records : Records) (participant : Participant) (recurrenceId : String) :
    Except Failure Recurrence :=
  match (records.recurrences.get? recurrenceId).filter
      fun recurrence => recurrence.participantId = participant.id with
  | some recurrence => .ok recurrence
  | none => .error (.refused .recurrenceNotFound)

end Records

end Rendezvous
