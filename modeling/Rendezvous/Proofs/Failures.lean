import Rendezvous.Proofs.Uniqueness

/-!
# Failed operations leave no trace

An operation decides before it writes, and cannot fail once it has written: what its event
leads to is not reported back.  So where it fails the records, the log and the clock are as
they were, nothing was published, and nothing was sent.
-/

namespace Rendezvous

namespace Step

variable {α β : Type} {board : Board}

/-- A step that changes nothing that is stored and that nobody hears of. -/
structure Traceless (step : Step α) (board : Board) : Prop where
  records : step.board.records = board.records
  log : step.board.log = board.log
  now : step.board.now = board.now
  issued : step.board.issued = board.issued
  events : step.events = []
  transitions : step.transitions = []
  attempts : step.attempts = []

/-- A step that leaves no trace where it fails. -/
def AllOrNothing (step : Step α) (board : Board) : Prop :=
  ∀ failure, step.outcome = .error failure → step.Traceless board

theorem AllOrNothing.map {step : Step α} (whole : step.AllOrNothing board) (f : α → β) :
    (step.map f).AllOrNothing board := by
  intro failure failed
  cases told : step.outcome with
  | ok value =>
    rw [Step.map, told] at failed
    cases failed
  | error failure' =>
    obtain ⟨records, log, now, issued, events, transitions, attempts⟩ := whole failure' told
    exact ⟨records, log, now, issued, events, transitions, attempts⟩

/-- A token that was drawn, or a count that could not be taken, is no trace. -/
theorem allOrNothing_fail {after : Board} {tokens outages : Nat}
    (reached : after = { board with tokens := tokens, countOutages := outages })
    (failure : Failure) : (fail after failure : Step α).AllOrNothing board := by
  intro _ _
  subst reached
  exact ⟨rfl, rfl, rfl, rfl, rfl, rfl, rfl⟩

theorem allOrNothing_look (outcome : Except Failure α) :
    (look board outcome).AllOrNothing board :=
  fun _ _ => ⟨rfl, rfl, rfl, rfl, rfl, rfl, rfl⟩

theorem allOrNothing_answer (after : Board) (value : α) :
    (answer after value).AllOrNothing board := by
  intro failure failed
  cases failed

theorem allOrNothing_publish (surroundings : Surroundings) (after : Board) (event : Event)
    (value : α) : (Board.publish surroundings after event value).AllOrNothing board := by
  intro failure failed
  cases failed

end Step

namespace Board

open Step

variable (surroundings : Surroundings) (board : Board)

/-! ## Availabilities -/

theorem allOrNothing_createAvailability (token participantId : String)
    (request : AvailabilityRequest) :
    (board.createAvailability surroundings token participantId request).AllOrNothing board := by
  rw [createAvailability]
  split
  next failure _ => exact allOrNothing_fail rfl failure
  next booking _ =>
    -- the count is taken before the day turns out to be taken
    have before := board.board_countBefore booking.calendar.id booking.day
    dsimp only
    rw [before]
    split
    next => exact allOrNothing_fail rfl _
    next records _ => exact allOrNothing_publish surroundings _ _ _

theorem allOrNothing_updateAvailability (token participantId day : String)
    (patch : AvailabilityPatch) :
    (board.updateAvailability surroundings token participantId day patch).AllOrNothing board := by
  rw [updateAvailability]
  split
  next failure _ => exact allOrNothing_fail rfl failure
  next => exact allOrNothing_publish surroundings _ _ _

theorem allOrNothing_deleteAvailability (token participantId day : String) :
    (board.deleteAvailability surroundings token participantId day).AllOrNothing board := by
  rw [deleteAvailability]
  split
  next failure _ => exact allOrNothing_fail rfl failure
  next => exact allOrNothing_publish surroundings _ _ _

/-! ## Recurrences -/

theorem allOrNothing_createRecurrence (token participantId : String)
    (request : RecurrenceRequest) :
    (board.createRecurrence token participantId request).AllOrNothing board := by
  rw [createRecurrence]
  dsimp only
  split
  next failure _ => exact allOrNothing_fail rfl failure
  next => exact allOrNothing_answer _ _

theorem allOrNothing_updateRecurrence (token participantId recurrenceId : String)
    (request : RecurrenceRequest) :
    (board.updateRecurrence token participantId recurrenceId request).AllOrNothing board := by
  rw [updateRecurrence]
  dsimp only
  split
  next failure _ => exact allOrNothing_fail rfl failure
  next => exact allOrNothing_answer _ _

theorem allOrNothing_deleteRecurrence (token participantId recurrenceId : String) :
    (board.deleteRecurrence token participantId recurrenceId).AllOrNothing board := by
  rw [deleteRecurrence]
  split
  next failure _ => exact allOrNothing_fail rfl failure
  next => exact allOrNothing_answer _ _

theorem allOrNothing_createExclusion (token participantId recurrenceId : String)
    (request : ExclusionRequest) :
    (board.createExclusion token participantId recurrenceId request).AllOrNothing board := by
  rw [createExclusion]
  split
  next failure _ => exact allOrNothing_fail rfl failure
  next =>
    split
    next present _ => exact allOrNothing_answer _ present
    next => exact allOrNothing_answer _ _

theorem allOrNothing_deleteExclusion (token participantId recurrenceId day : String) :
    (board.deleteExclusion token participantId recurrenceId day).AllOrNothing board := by
  rw [deleteExclusion]
  split
  next failure _ => exact allOrNothing_fail rfl failure
  next => exact allOrNothing_answer _ _

/-! ## Addresses and the rest -/

/-- A token runs out beyond the calendar before the participant is written. -/
theorem allOrNothing_issueToken (participant : Participant) (address : String) :
    (board.issueToken surroundings participant address).AllOrNothing board := by
  rw [issueToken]
  dsimp only
  split
  next => exact allOrNothing_fail rfl _
  next => exact allOrNothing_publish surroundings _ _ _

theorem allOrNothing_addEmail (token participantId address : String) :
    (board.addEmail surroundings token participantId address).AllOrNothing board := by
  rw [addEmail]
  split
  next failure _ => exact allOrNothing_fail rfl failure
  next participant _ =>
    dsimp only
    split
    · exact allOrNothing_issueToken surroundings board participant _
    · exact allOrNothing_fail rfl _

theorem allOrNothing_resendVerification (token participantId : String) :
    (board.resendVerification surroundings token participantId).AllOrNothing board := by
  rw [resendVerification]
  split
  next failure _ => exact allOrNothing_fail rfl failure
  next participant _ =>
    split
    · exact allOrNothing_fail rfl _
    · split
      · exact allOrNothing_fail rfl _
      · exact allOrNothing_issueToken surroundings board participant _

theorem allOrNothing_verifyEmail (token : String) :
    (board.verifyEmail token).AllOrNothing board := by
  rw [verifyEmail]
  split
  next => exact allOrNothing_fail rfl _
  next participant _ =>
    split
    · exact allOrNothing_answer _ _
    · split
      next failure _ => exact allOrNothing_fail rfl failure
      next => exact allOrNothing_fail rfl _
      next => exact allOrNothing_answer _ _

theorem allOrNothing_advance (micros : Int) : (board.advance micros).AllOrNothing board := by
  rw [advance]
  split
  next => exact allOrNothing_answer _ _
  next => exact allOrNothing_fail rfl _

/-- An operation that fails leaves no trace, unless it is about announcements themselves. -/
theorem traceless_of_failure {operation : Operation} (plain : operation.isNotice = false)
    {failure : Failure}
    (failed : (board.perform surroundings operation).outcome = .error failure) :
    (board.perform surroundings operation).Traceless board := by
  refine (?_ : (board.perform surroundings operation).AllOrNothing board) failure failed
  cases operation with
  | createAvailability token participantId request =>
    exact (allOrNothing_createAvailability surroundings board token participantId request).map _
  | updateAvailability token participantId day patch =>
    exact (allOrNothing_updateAvailability surroundings board token participantId day patch).map _
  | deleteAvailability token participantId day =>
    exact (allOrNothing_deleteAvailability surroundings board token participantId day).map _
  | listAvailabilities => exact allOrNothing_look _
  | dateSummary => exact allOrNothing_look _
  | rangeSummary => exact allOrNothing_look _
  | busyTimes => exact allOrNothing_look _
  | createRecurrence token participantId request =>
    exact (allOrNothing_createRecurrence board token participantId request).map _
  | updateRecurrence token participantId recurrenceId request =>
    exact (allOrNothing_updateRecurrence board token participantId recurrenceId request).map _
  | deleteRecurrence token participantId recurrenceId =>
    exact (allOrNothing_deleteRecurrence board token participantId recurrenceId).map _
  | listRecurrences => exact allOrNothing_look _
  | createExclusion token participantId recurrenceId request =>
    exact (allOrNothing_createExclusion board token participantId recurrenceId request).map _
  | deleteExclusion token participantId recurrenceId day =>
    exact (allOrNothing_deleteExclusion board token participantId recurrenceId day).map _
  | addEmail token participantId address =>
    exact (allOrNothing_addEmail surroundings board token participantId address).map _
  | resendVerification token participantId =>
    exact (allOrNothing_resendVerification surroundings board token participantId).map _
  | verifyEmail token => exact (allOrNothing_verifyEmail board token).map _
  | checkThreshold => cases plain
  | cleanup => cases plain
  | advance micros => exact (allOrNothing_advance board micros).map _

/-- A day that is entered twice is refused, and the first entry and its announcement stand. -/
theorem traceless_of_failure_sample :
    let board := sample.after [(Surroundings.sample, Operation.sampleEntry "ann")]
    let step := board.perform Surroundings.sample (.sampleEntry "ann")
    (Operation.sampleEntry "ann").isNotice = false
      ∧ step.outcome = .error (.refused .availabilityExists)
      ∧ step.board.records.availabilities.rows.length = 1 ∧ step.board.log.length = 1
      ∧ step.board.records = board.records ∧ step.board.log = board.log
      ∧ step.events = [] ∧ step.attempts = [] := by
  intro board step
  have failed : step.outcome = .error (.refused .availabilityExists) := by decide +kernel
  have still := traceless_of_failure Surroundings.sample board rfl failed
  exact ⟨rfl, failed, by decide +kernel, by decide +kernel, still.records, still.log,
    still.events, still.attempts⟩

end Board

end Rendezvous
