import Rendezvous.Contribution
import Rendezvous.Delivery.Message
import Rendezvous.Store.Fresh

/-!
# The board

The board is the whole state of the service: its records, the log, the clock, and how
many names it has given out.  A step leads from one board to the next, with an outcome,
the events that it published, the transitions that were classified on the way, and the
messages that were sent.
-/

namespace Rendezvous

structure Board where
  records : Records
  log : DeliveryLog
  now : Instant
  /-- The number of the last generated id. -/
  issued : Nat
  /-- The number of the last verification token. -/
  tokens : Nat
  /-- How many of the next counts of participants will fail. -/
  countOutages : Nat
deriving DecidableEq

inductive Event where
  | availabilityChanged (calendarId : String) (day : Date) (previous : Int)
  | verificationRequested (participantId email name locale token : String)
deriving DecidableEq

/-- A board, and what happened on the way to it. -/
structure Step (α : Type) where
  outcome : Except Failure α
  board : Board
  events : List Event
  transitions : List Transition
  attempts : List Attempt

namespace Step

variable {α β : Type}

def answer (board : Board) (value : α) : Step α := ⟨.ok value, board, [], [], []⟩

def fail (board : Board) (failure : Failure) : Step α := ⟨.error failure, board, [], [], []⟩

def look (board : Board) (outcome : Except Failure α) : Step α := ⟨outcome, board, [], [], []⟩

def map (f : α → β) (step : Step α) : Step β where
  outcome := step.outcome.map f
  board := step.board
  events := step.events
  transitions := step.transitions
  attempts := step.attempts

end Step

namespace Board

def empty (now : Instant) : Board := ⟨.empty, [], now, 0, 0, 0⟩

def advance (board : Board) (micros : Int) : Step Instant :=
  match (Instant.span? micros 1).bind board.now.shift? with
  | some now => .answer { board with now := now } now
  | none => .fail board .beyondCalendar

/-- The number of participants available at the same time of a date, unless the count
fails. -/
def count (board : Board) (calendarId : String) (day : Date) : Except Failure Nat × Board :=
  if board.countOutages = 0 then
    ((board.records.checkSpan calendarId day day).map fun _ =>
      board.records.simultaneous calendarId day, board)
  else (.error .outage, { board with countOutages := board.countOutages - 1 })

/-- The count before a change, or a negative number where it fails. -/
def countBefore (board : Board) (calendarId : String) (day : Date) : Int × Board :=
  match board.count calendarId day with
  | (.ok count, board) => (count, board)
  | (.error _, board) => (unknownCount, board)

end Board

end Rendezvous
