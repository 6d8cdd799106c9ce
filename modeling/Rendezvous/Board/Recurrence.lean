import Rendezvous.Board.Availability

/-!
# Recurrences of participants

Participants enter the weekly slots in which they are available, and exclude single days
from them.  Two recurrences of one participant on one weekday have no date in common.
-/

namespace Rendezvous

def Weekday.ofInt? (number : Int) : Option Weekday :=
  if within : 0 ≤ number ∧ number < 7 then some ⟨number.toNat, by omega⟩ else none

structure Terms where
  weekday : Weekday
  slot : Slot
  note : Option String
  firstDate : Date
  lastDate : Option Date
deriving DecidableEq

namespace Terms

def apply (terms : Terms) (recurrence : Recurrence) : Recurrence :=
  { recurrence with
    weekday := terms.weekday
    slot := terms.slot
    note := terms.note
    firstDate := terms.firstDate
    lastDate := terms.lastDate }

/-- Whether a recurrence is on the same weekday and has a date in common. -/
def overlaps (terms : Terms) (recurrence : Recurrence) : Bool :=
  recurrence.weekday = terms.weekday
    && Date.rangesOverlap terms.firstDate terms.lastDate recurrence.firstDate
      recurrence.lastDate

end Terms

namespace Board

/-- Reads the weekday of a recurrence, which the calendar has to allow. -/
def weekdayOf (calendar : Calendar) (number : Option Int) : Except Failure Weekday :=
  match number.bind Weekday.ofInt? with
  | none => .error (.refused .invalidDayOfWeek)
  | some weekday =>
      if calendar.allowsWeekday weekday.val then .ok weekday
      else .error (.refused .weekdayNotAllowed)

/-- Decides on the terms of a recurrence.  The recurrence that is replaced does not stand
in the way. -/
def terms (board : Board) (calendar : Calendar) (participant : Participant)
    (request : RecurrenceRequest) (replaced : Option String) : Except Failure Terms := do
  let weekday ← weekdayOf calendar request.weekday
  let start ← TimeOfDay.request request.start
  let stop ← TimeOfDay.request request.stop
  let first ← Date.request request.firstDate
  let last ← Date.requestOptional request.lastDate
  Refusal.unless (last.all (first ≤ ·)) .datesReversed
  let slot ← (calendar.weekdayWindow weekday.val).fit calendar.leastHours ⟨start, stop⟩
  let terms : Terms := ⟨weekday, slot, request.note, first, last⟩
  let taken := (board.records.recurrencesOf participant.id).any fun other =>
    some other.id ≠ replaced && terms.overlaps other
  Refusal.unless (!taken) .recurrenceOverlap
  pure terms

/-- The ids that recurrences go by and that exclusions refer to. -/
def recurrenceIds (board : Board) : List String :=
  board.records.recurrences.rows.map Recurrence.id
    ++ board.records.exclusions.rows.map Exclusion.recurrenceId

def exclusionIds (board : Board) : List String :=
  board.records.exclusions.rows.map Exclusion.id

def putRecurrence (board : Board) (recurrence : Recurrence) : Board :=
  { board with
    records := { board.records with recurrences := board.records.recurrences.put recurrence } }

def createRecurrence (board : Board) (token participantId : String)
    (request : RecurrenceRequest) : Step Recurrence :=
  let decision := do
    let (calendar, participant) ← board.records.locate token participantId
    let terms ← board.terms calendar participant request none
    pure (participant, terms)
  match decision with
  | .error failure => .fail board failure
  | .ok (participant, terms) =>
      let number := Fresh.next board.recurrenceIds board.issued
      let recurrence : Recurrence :=
        { id := Fresh.name number
          participantId := participant.id
          weekday := terms.weekday
          slot := terms.slot
          note := terms.note
          firstDate := terms.firstDate
          lastDate := terms.lastDate
          createdAt := board.now }
      .answer { board.putRecurrence recurrence with issued := number } recurrence

def owned (board : Board) (token participantId recurrenceId : String) :
    Except Failure (Calendar × Participant × Recurrence) := do
  let (calendar, participant) ← board.records.locate token participantId
  let recurrence ← board.records.recurrenceOf participant recurrenceId
  pure (calendar, participant, recurrence)

def updateRecurrence (board : Board) (token participantId recurrenceId : String)
    (request : RecurrenceRequest) : Step Recurrence :=
  let decision := do
    let (calendar, participant, present) ← board.owned token participantId recurrenceId
    let terms ← board.terms calendar participant request (some present.id)
    pure (terms.apply present)
  match decision with
  | .error failure => .fail board failure
  | .ok recurrence => .answer (board.putRecurrence recurrence) recurrence

/-- Removes a recurrence and the days excluded from it. -/
def deleteRecurrence (board : Board) (token participantId recurrenceId : String) : Step Unit :=
  match board.owned token participantId recurrenceId with
  | .error failure => .fail board failure
  | .ok (_, _, recurrence) =>
      .answer { board with records := board.records.removeRecurrence recurrence.id } ()

def listRecurrences (board : Board) (token participantId : String) :
    Except Failure (List RecurrenceListing) := do
  let (_, participant) ← board.records.locate token participantId
  pure ((board.records.recurrencesOf participant.id).map fun recurrence =>
    ⟨recurrence, board.records.exclusionsOf recurrence.id⟩)

def excludable (board : Board) (token participantId recurrenceId day : String) :
    Except Failure (Recurrence × Date) := do
  let (_, _, recurrence) ← board.owned token participantId recurrenceId
  let day ← Date.request day
  pure (recurrence, day)

/-- Excludes a day from a recurrence; a day that is excluded already stays as it is. -/
def createExclusion (board : Board) (token participantId recurrenceId : String)
    (request : ExclusionRequest) : Step Exclusion :=
  match board.excludable token participantId recurrenceId request.day with
  | .error failure => .fail board failure
  | .ok (recurrence, day) =>
      match board.records.exclusionOn? recurrence.id day with
      | some present => .answer board present
      | none =>
          let number := Fresh.next board.exclusionIds board.issued
          let (stored, records) := board.records.addExclusion
            ⟨Fresh.name number, recurrence.id, day, board.now⟩
          .answer { board with records := records, issued := number } stored

def deleteExclusion (board : Board) (token participantId recurrenceId day : String) :
    Step Unit :=
  match board.excludable token participantId recurrenceId day with
  | .error failure => .fail board failure
  | .ok (recurrence, day) =>
      .answer { board with records := board.records.removeExclusion recurrence.id day } ()

end Board

end Rendezvous
