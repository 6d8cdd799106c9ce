import Rendezvous.Admission
import Rendezvous.Board.Notify
import Rendezvous.Report
import Rendezvous.Request

/-!
# Availabilities of participants

Participants enter, change and withdraw the days on which they are available, and anyone
with the public token sees who is there when.  A change is decided on before anything is
written; then the board changes, and an event tells of the count before.
-/

namespace Rendezvous.Board

def today (surroundings : Surroundings) (board : Board) : Date :=
  surroundings.today.getD board.now.date

/-- Reads a day on which availabilities may still change. -/
def openDay (surroundings : Surroundings) (board : Board) (text : String) :
    Except Failure Date := do
  let day ← Date.request text
  Refusal.unless (board.today surroundings ≤ day) .dateInPast
  pure day

/-- A day of a calendar that a participant asks for, with the slot it comes to. -/
structure Booking where
  calendar : Calendar
  participant : Participant
  day : Date
  slot : Slot

/-- Decides on a new availability, apart from whether there is one already. -/
def book (surroundings : Surroundings) (board : Board) (token participantId : String)
    (request : AvailabilityRequest) : Except Failure Booking := do
  let (calendar, participant) ← board.records.locate token participantId
  let day ← board.openDay surroundings request.day
  calendar.checkRange day
  let admitted ← calendar.admits surroundings.holidays day
  Refusal.unless admitted .weekdayNotAllowed
  let start ← TimeOfDay.request request.start
  let stop ← TimeOfDay.request request.stop
  let window ← calendar.window surroundings.holidays day
  let slot ← window.fit calendar.leastHours ⟨start, stop⟩
  pure ⟨calendar, participant, day, slot⟩

def availabilityIds (board : Board) : List String :=
  board.records.availabilities.rows.map Availability.id

def createAvailability (surroundings : Surroundings) (board : Board)
    (token participantId : String) (request : AvailabilityRequest) : Step Receipt :=
  match board.book surroundings token participantId request with
  | .error failure => .fail board failure
  | .ok booking =>
      let (previous, board) := board.countBefore booking.calendar.id booking.day
      let number := Fresh.next board.availabilityIds board.issued
      let availability : Availability :=
        { id := Fresh.name number
          participantId := booking.participant.id
          day := booking.day
          slot := booking.slot
          note := request.note
          source := .manual
          recurrenceId := none
          createdAt := board.now
          updatedAt := board.now }
      match board.records.addAvailability availability with
      | .error _ => .fail board (.refused .availabilityExists)
      | .ok records =>
          publish surroundings { board with records := records, issued := number }
            (.availabilityChanged booking.calendar.id booking.day previous)
            (.of booking.participant availability)

/-- A time that a patch changes, or the one that is there. -/
def patched (patch : Option (Option String)) (present : Option String) :
    Except Failure (Option String) :=
  match patch with
  | some time => TimeOfDay.request time
  | none => .ok present

def present (surroundings : Surroundings) (board : Board) (token participantId day : String) :
    Except Failure (Calendar × Participant × Availability) := do
  let (calendar, participant) ← board.records.locate token participantId
  let day ← board.openDay surroundings day
  let availability ← board.records.availabilityOf participant day
  pure (calendar, participant, availability)

def revise (surroundings : Surroundings) (board : Board) (token participantId day : String)
    (patch : AvailabilityPatch) : Except Failure (Calendar × Participant × Availability) := do
  let (calendar, participant, present) ← board.present surroundings token participantId day
  let start ← patched patch.start present.slot.start
  let stop ← patched patch.stop present.slot.stop
  let window ← calendar.window surroundings.holidays present.day
  let slot ← window.fit calendar.leastHours ⟨start, stop⟩
  pure (calendar, participant,
    { present with
      slot := slot
      note := patch.note.getD present.note
      updatedAt := board.now })

def updateAvailability (surroundings : Surroundings) (board : Board)
    (token participantId day : String) (patch : AvailabilityPatch) : Step Receipt :=
  match board.revise surroundings token participantId day patch with
  | .error failure => .fail board failure
  | .ok (calendar, participant, availability) =>
      let (previous, board) := board.countBefore calendar.id availability.day
      let records :=
        { board.records with availabilities := board.records.availabilities.put availability }
      publish surroundings { board with records := records }
        (.availabilityChanged calendar.id availability.day previous)
        (.of participant availability)

def deleteAvailability (surroundings : Surroundings) (board : Board)
    (token participantId day : String) : Step Unit :=
  match board.present surroundings token participantId day with
  | .error failure => .fail board failure
  | .ok (calendar, _, availability) =>
      let (previous, board) := board.countBefore calendar.id availability.day
      let records :=
        { board.records with
          availabilities := board.records.availabilities.erase availability.id }
      publish surroundings { board with records := records }
        (.availabilityChanged calendar.id availability.day previous) ()

def schedule (board : Board) (token participantId : String) (start stop : Option String) :
    Except Failure Schedule := do
  let (_, participant) ← board.records.locate token participantId
  let start ← Date.requestOptional start
  let stop ← Date.requestOptional stop
  pure ⟨.of participant,
    (board.records.availabilitiesOf participant.id start stop).map ScheduleEntry.of⟩

/-! ## Summaries -/

def dateSummary (board : Board) (token day : String) : Except Failure DaySummary := do
  let calendar ← board.records.calendarByToken token
  let day ← Date.request day
  board.records.checkSpan calendar.id day day
  DaySummary.of calendar day (board.records.contributionsOn calendar.id day)

/-- Who is there on the dates between two, leaving out those on which nobody is.  A
calendar that locks its participants hides the ids of all but the one who asks. -/
def rangeSummary (board : Board) (token start stop : String) (requester : Option String) :
    Except Failure (List DaySummary) := do
  let calendar ← board.records.calendarByToken token
  let start ← Date.request start
  let stop ← Date.request stop
  Refusal.unless (start ≤ stop) .datesReversed
  board.records.checkSpan calendar.id start stop
  let summaries ← (board.records.contributionsBetween calendar.id start stop).mapM
    fun dated => DaySummary.of calendar dated.1 dated.2
  let inhabited := summaries.filter fun summary => summary.total ≠ 0
  pure (if calendar.lockParticipants then inhabited.map (DaySummary.masked requester)
    else inhabited)

def busyTimes (board : Board) (token day : String) : Except Failure (List BusyTime) := do
  let calendar ← board.records.calendarByToken token
  let day ← Date.request day
  board.records.checkSpan calendar.id day day
  let slots := (board.records.contributionsOn calendar.id day).map Contribution.slot
  pure ((Sweep.busyPieces slots calendar.threshold).map BusyTime.of)

end Rendezvous.Board
