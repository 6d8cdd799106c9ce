import Rendezvous.Board.Address
import Rendezvous.Board.Recurrence

/-!
# Operations

Everything that can be asked of the board, and runs of such operations.  The surroundings
may differ from one operation of a run to the next.
-/

namespace Rendezvous

inductive Operation where
  | createAvailability (token participantId : String) (request : AvailabilityRequest)
  | updateAvailability (token participantId day : String) (patch : AvailabilityPatch)
  | deleteAvailability (token participantId day : String)
  | listAvailabilities (token participantId : String) (start stop : Option String)
  | dateSummary (token day : String)
  | rangeSummary (token start stop : String) (requester : Option String)
  | busyTimes (token day : String)
  | createRecurrence (token participantId : String) (request : RecurrenceRequest)
  | updateRecurrence (token participantId recurrenceId : String) (request : RecurrenceRequest)
  | deleteRecurrence (token participantId recurrenceId : String)
  | listRecurrences (token participantId : String)
  | createExclusion (token participantId recurrenceId : String) (request : ExclusionRequest)
  | deleteExclusion (token participantId recurrenceId day : String)
  | addEmail (token participantId address : String)
  | resendVerification (token participantId : String)
  | verifyEmail (token : String)
  | checkThreshold (calendarId : String) (day : Date) (previous : Int)
  | cleanup
  | advance (micros : Int)
deriving DecidableEq

inductive Answer where
  | done
  | receipt (receipt : Receipt)
  | schedule (schedule : Schedule)
  | summary (summary : DaySummary)
  | summaries (summaries : List DaySummary)
  | busyTimes (times : List BusyTime)
  | recurrence (recurrence : Recurrence)
  | recurrences (listings : List RecurrenceListing)
  | exclusion (exclusion : Exclusion)
  | participant (participant : Participant)
  | transition (transition : Option Transition)
  | number (number : Nat)
  | instant (instant : Instant)
deriving DecidableEq

namespace Board

def perform (surroundings : Surroundings) (board : Board) : Operation → Step Answer
  | .createAvailability token participantId request =>
      (board.createAvailability surroundings token participantId request).map .receipt
  | .updateAvailability token participantId day patch =>
      (board.updateAvailability surroundings token participantId day patch).map .receipt
  | .deleteAvailability token participantId day =>
      (board.deleteAvailability surroundings token participantId day).map fun _ => .done
  | .listAvailabilities token participantId start stop =>
      .look board ((board.schedule token participantId start stop).map .schedule)
  | .dateSummary token day => .look board ((board.dateSummary token day).map .summary)
  | .rangeSummary token start stop requester =>
      .look board ((board.rangeSummary token start stop requester).map .summaries)
  | .busyTimes token day => .look board ((board.busyTimes token day).map .busyTimes)
  | .createRecurrence token participantId request =>
      (board.createRecurrence token participantId request).map .recurrence
  | .updateRecurrence token participantId recurrenceId request =>
      (board.updateRecurrence token participantId recurrenceId request).map .recurrence
  | .deleteRecurrence token participantId recurrenceId =>
      (board.deleteRecurrence token participantId recurrenceId).map fun _ => .done
  | .listRecurrences token participantId =>
      .look board ((board.listRecurrences token participantId).map .recurrences)
  | .createExclusion token participantId recurrenceId request =>
      (board.createExclusion token participantId recurrenceId request).map .exclusion
  | .deleteExclusion token participantId recurrenceId day =>
      (board.deleteExclusion token participantId recurrenceId day).map fun _ => .done
  | .addEmail token participantId address =>
      (board.addEmail surroundings token participantId address).map .participant
  | .resendVerification token participantId =>
      (board.resendVerification surroundings token participantId).map .participant
  | .verifyEmail token => (board.verifyEmail token).map .participant
  | .checkThreshold calendarId day previous =>
      (board.checkThreshold surroundings calendarId day previous).map .transition
  | .cleanup => (board.cleanup surroundings).map .number
  | .advance micros => (board.advance micros).map .instant

def run (board : Board) : List (Surroundings × Operation) → List (Step Answer)
  | [] => []
  | (surroundings, operation) :: rest =>
      let step := board.perform surroundings operation
      step :: run step.board rest

def after (board : Board) : List (Surroundings × Operation) → Board
  | [] => board
  | (surroundings, operation) :: rest => after (board.perform surroundings operation).board rest

@[simp] theorem after_nil (board : Board) : board.after [] = board := rfl

@[simp] theorem after_cons (board : Board) (surroundings : Surroundings)
    (operation : Operation) (rest : List (Surroundings × Operation)) :
    board.after ((surroundings, operation) :: rest)
      = (board.perform surroundings operation).board.after rest := rfl

theorem after_append (board : Board) (first rest : List (Surroundings × Operation)) :
    board.after (first ++ rest) = (board.after first).after rest := by
  induction first generalizing board with
  | nil => rfl
  | cons head tail ih => simp [after, ih]

end Board

end Rendezvous
