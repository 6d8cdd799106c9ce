import Rendezvous.Proofs.Uniqueness

/-!
# Deliveries do not reach back

What is sent, how it is received and whether it is written down goes into the log and
nowhere else, and only announcements read the log.  So every step leads to the same as one
with an empty log and nothing to send with, apart from the log; two runs that differ only in
how messages fare then follow one and the same run.
-/

namespace Rendezvous

namespace Surroundings

/-- Surroundings that ask for the same decisions.  They may differ in how messages are
received and in whether the log can be read and written. -/
structure Alike (a b : Surroundings) : Prop where
  verificationHours : a.settings.verificationHours = b.settings.verificationHours
  holidays : a.holidays = b.holidays
  today : a.today = b.today

/-- The same surroundings with no mail, and with everything that only messages depend on as
it is by default. -/
def muted (surroundings : Surroundings) : Surroundings where
  settings :=
    { Settings.standard with verificationHours := surroundings.settings.verificationHours }
  holidays := surroundings.holidays
  today := surroundings.today
  outlets := .refusing false [] []
  lookupFails := .none
  writeFails := .none

theorem Alike.muted_eq {a b : Surroundings} (alike : a.Alike b) : a.muted = b.muted := by
  obtain ⟨sameHours, sameHolidays, sameToday⟩ := alike
  rw [muted, muted, sameHours, sameHolidays, sameToday]

end Surroundings

/-- The board as if nothing had been delivered. -/
def Board.unlogged (board : Board) : Board :=
  { board with log := [] }

namespace Step

variable {α β : Type}

/-- Steps that publish and classify the same and lead to the same board but for its log. -/
structure Parallels (step : Step α) (other : Step β) : Prop where
  board : step.board.unlogged = other.board.unlogged
  events : step.events = other.events
  transitions : step.transitions = other.transitions

/-- Such steps that have the same outcome as well. -/
structure Agrees (step other : Step α) : Prop extends step.Parallels other where
  outcome : step.outcome = other.outcome

theorem Parallels.symm {step : Step α} {other : Step β} (parallels : step.Parallels other) :
    other.Parallels step :=
  ⟨parallels.board.symm, parallels.events.symm, parallels.transitions.symm⟩

theorem Parallels.trans {step other another : Step α} (first : step.Parallels other)
    (second : other.Parallels another) : step.Parallels another :=
  ⟨first.board.trans second.board, first.events.trans second.events,
    first.transitions.trans second.transitions⟩

theorem Agrees.symm {step other : Step α} (agrees : step.Agrees other) : other.Agrees step :=
  ⟨agrees.toParallels.symm, agrees.outcome.symm⟩

theorem Agrees.trans {step other another : Step α} (first : step.Agrees other)
    (second : other.Agrees another) : step.Agrees another :=
  ⟨first.toParallels.trans second.toParallels, first.outcome.trans second.outcome⟩

theorem Parallels.map {step other : Step α} (parallels : step.Parallels other) (f : α → β) :
    (step.map f).Parallels (other.map f) :=
  ⟨parallels.board, parallels.events, parallels.transitions⟩

theorem Agrees.map {step other : Step α} (agrees : step.Agrees other) (f : α → β) :
    (step.map f).Agrees (other.map f) :=
  ⟨agrees.toParallels.map f, congrArg (Except.map f) agrees.outcome⟩

theorem agrees_fail (board : Board) (failure : Failure) :
    (fail board failure : Step α).Agrees (fail board.unlogged failure) :=
  ⟨⟨rfl, rfl, rfl⟩, rfl⟩

theorem agrees_answer (board : Board) (value : α) :
    (answer board value).Agrees (answer board.unlogged value) :=
  ⟨⟨rfl, rfl, rfl⟩, rfl⟩

theorem agrees_look (board : Board) (outcome : Except Failure α) :
    (look board outcome).Agrees (look board.unlogged outcome) :=
  ⟨⟨rfl, rfl, rfl⟩, rfl⟩

end Step

namespace Board

open Step

variable (surroundings : Surroundings) (board : Board)

/-! ## What events lead to -/

theorem count_unlogged (calendarId : String) (day : Date) :
    board.unlogged.count calendarId day
      = ((board.count calendarId day).1, (board.count calendarId day).2.unlogged) := by
  by_cases calm : board.countOutages = 0
  · have calm' : board.unlogged.countOutages = 0 := calm
    rw [count, count, if_pos calm, if_pos calm']
    rfl
  · have calm' : board.unlogged.countOutages ≠ 0 := calm
    rw [count, count, if_neg calm, if_neg calm']
    rfl

theorem countBefore_unlogged (calendarId : String) (day : Date) :
    board.unlogged.countBefore calendarId day
      = ((board.countBefore calendarId day).1,
        (board.countBefore calendarId day).2.unlogged) := by
  rw [countBefore, countBefore, count_unlogged]
  cases board.count calendarId day with
  | mk outcome after => cases outcome <;> rfl

theorem agrees_detect (calendarId : String) (day : Date) (threshold previous : Int) :
    (board.detect calendarId day threshold previous).Agrees
      (board.unlogged.detect calendarId day threshold previous) := by
  rw [detect, detect, count_unlogged]
  cases board.count calendarId day with
  | mk outcome after => cases outcome <;> exact ⟨⟨rfl, rfl, rfl⟩, rfl⟩

/-- Announcements differ at most in what they send, and in what the log is told of it. -/
theorem parallels_announce {board other : Board} (same : board.unlogged = other.unlogged)
    (surroundings' : Surroundings) (calendar : Calendar) (config : NotifyConfig)
    (transition : Transition) :
    (board.announce surroundings calendar config transition).Parallels
      (other.announce surroundings' calendar config transition) := by
  obtain ⟨log, reached⟩ := board_announce surroundings board calendar config transition
  obtain ⟨log', reached'⟩ := board_announce surroundings' other calendar config transition
  refine ⟨?_, ?_, ?_⟩
  · rw [reached, reached']
    exact same
  · rw [announce, announce]
    split <;> rfl
  · rw [transitions_announce, transitions_announce]

theorem parallels_checkThreshold (calendarId : String) (day : Date) (previous : Int) :
    (board.checkThreshold surroundings calendarId day previous).Parallels
      (board.unlogged.checkThreshold surroundings.muted calendarId day previous) := by
  have notified : board.unlogged.notified? calendarId = board.notified? calendarId := rfl
  rw [checkThreshold, checkThreshold, notified]
  cases board.notified? calendarId with
  | none => exact ⟨rfl, rfl, rfl⟩
  | some found =>
    obtain ⟨calendar, config⟩ := found
    have detected := agrees_detect board calendar.id day calendar.threshold previous
    dsimp only
    rw [← detected.outcome]
    cases (board.detect calendar.id day calendar.threshold previous).outcome with
    | error failure => exact ⟨detected.board, rfl, rfl⟩
    | ok transition =>
      exact parallels_announce surroundings detected.board _ calendar config transition

theorem parallels_react (event : Event) :
    (board.react surroundings event).Parallels
      (board.unlogged.react surroundings.muted event) := by
  cases event with
  | availabilityChanged calendarId day previous =>
    exact (parallels_checkThreshold surroundings board calendarId day previous).map _
  | verificationRequested participantId email name locale token =>
    rw [react, react, sendVerification, sendVerification]
    split <;> exact ⟨rfl, rfl, rfl⟩

theorem agrees_publish {α : Type} (event : Event) (value : α) :
    (publish surroundings board event value).Agrees
      (publish surroundings.muted board.unlogged event value) := by
  have reaction := parallels_react surroundings board event
  exact ⟨⟨reaction.board, rfl, reaction.transitions⟩, rfl⟩

/-! ## Availabilities -/

theorem agrees_createAvailability (token participantId : String)
    (request : AvailabilityRequest) :
    (board.createAvailability surroundings token participantId request).Agrees
      (board.unlogged.createAvailability surroundings.muted token participantId request) := by
  have decided : board.unlogged.book surroundings.muted token participantId request
      = board.book surroundings token participantId request := rfl
  rw [createAvailability, createAvailability, decided]
  split
  next failure _ => exact agrees_fail board failure
  next booking _ =>
    rw [countBefore_unlogged]
    cases board.countBefore booking.calendar.id booking.day with
    | mk previous after =>
      dsimp only [unlogged, availabilityIds]
      split
      next => exact agrees_fail after _
      next records _ =>
        exact agrees_publish surroundings { after with records := records, issued := _ } _ _

theorem agrees_updateAvailability (token participantId day : String)
    (patch : AvailabilityPatch) :
    (board.updateAvailability surroundings token participantId day patch).Agrees
      (board.unlogged.updateAvailability surroundings.muted token participantId day patch) := by
  have decided : board.unlogged.revise surroundings.muted token participantId day patch
      = board.revise surroundings token participantId day patch := rfl
  rw [updateAvailability, updateAvailability, decided]
  split
  next failure _ => exact agrees_fail board failure
  next calendar participant availability _ =>
    rw [countBefore_unlogged]
    cases board.countBefore calendar.id availability.day with
    | mk previous after => exact agrees_publish surroundings { after with records := _ } _ _

theorem agrees_deleteAvailability (token participantId day : String) :
    (board.deleteAvailability surroundings token participantId day).Agrees
      (board.unlogged.deleteAvailability surroundings.muted token participantId day) := by
  have decided : board.unlogged.present surroundings.muted token participantId day
      = board.present surroundings token participantId day := rfl
  rw [deleteAvailability, deleteAvailability, decided]
  split
  next failure _ => exact agrees_fail board failure
  next calendar participant availability _ =>
    rw [countBefore_unlogged]
    cases board.countBefore calendar.id availability.day with
    | mk previous after => exact agrees_publish surroundings { after with records := _ } _ _

/-! ## Recurrences -/

theorem agrees_createRecurrence (token participantId : String) (request : RecurrenceRequest) :
    (board.createRecurrence token participantId request).Agrees
      (board.unlogged.createRecurrence token participantId request) := by
  have records : board.unlogged.records = board.records := rfl
  have terms : board.unlogged.terms = board.terms := rfl
  rw [createRecurrence, createRecurrence, records, terms]
  dsimp only
  split
  next failure _ => exact agrees_fail board failure
  next => exact agrees_answer { board.putRecurrence _ with issued := _ } _

theorem agrees_updateRecurrence (token participantId recurrenceId : String)
    (request : RecurrenceRequest) :
    (board.updateRecurrence token participantId recurrenceId request).Agrees
      (board.unlogged.updateRecurrence token participantId recurrenceId request) := by
  have owned : board.unlogged.owned = board.owned := rfl
  have terms : board.unlogged.terms = board.terms := rfl
  rw [updateRecurrence, updateRecurrence, owned, terms]
  dsimp only
  split
  next failure _ => exact agrees_fail board failure
  next recurrence _ => exact agrees_answer (board.putRecurrence recurrence) _

theorem agrees_deleteRecurrence (token participantId recurrenceId : String) :
    (board.deleteRecurrence token participantId recurrenceId).Agrees
      (board.unlogged.deleteRecurrence token participantId recurrenceId) := by
  have owned : board.unlogged.owned = board.owned := rfl
  rw [deleteRecurrence, deleteRecurrence, owned]
  split
  next failure _ => exact agrees_fail board failure
  next => exact agrees_answer { board with records := _ } _

theorem agrees_createExclusion (token participantId recurrenceId : String)
    (request : ExclusionRequest) :
    (board.createExclusion token participantId recurrenceId request).Agrees
      (board.unlogged.createExclusion token participantId recurrenceId request) := by
  have excludable : board.unlogged.excludable = board.excludable := rfl
  have records : board.unlogged.records = board.records := rfl
  rw [createExclusion, createExclusion, excludable, records]
  split
  next failure _ => exact agrees_fail board failure
  next =>
    split
    next present _ => exact agrees_answer board present
    next => exact agrees_answer { board with records := _, issued := _ } _

theorem agrees_deleteExclusion (token participantId recurrenceId day : String) :
    (board.deleteExclusion token participantId recurrenceId day).Agrees
      (board.unlogged.deleteExclusion token participantId recurrenceId day) := by
  have excludable : board.unlogged.excludable = board.excludable := rfl
  rw [deleteExclusion, deleteExclusion, excludable]
  split
  next failure _ => exact agrees_fail board failure
  next => exact agrees_answer { board with records := _ } _

/-! ## Addresses and the rest -/

theorem agrees_issueToken (participant : Participant) (address : String) :
    (board.issueToken surroundings participant address).Agrees
      (board.unlogged.issueToken surroundings.muted participant address) := by
  have expiry : ({ board.unlogged with tokens := board.unlogged.tokens + 1 }).expiry?
      surroundings.muted
        = ({ board with tokens := board.tokens + 1 }).expiry? surroundings := rfl
  rw [issueToken, issueToken]
  dsimp only
  rw [expiry]
  split
  next => exact agrees_fail { board with tokens := _ } _
  next =>
    exact agrees_publish surroundings
      ({ board with tokens := board.tokens + 1 }.putParticipant _) _ _

theorem agrees_addEmail (token participantId address : String) :
    (board.addEmail surroundings token participantId address).Agrees
      (board.unlogged.addEmail surroundings.muted token participantId address) := by
  have records : board.unlogged.records = board.records := rfl
  rw [addEmail, addEmail, records]
  split
  next failure _ => exact agrees_fail board failure
  next participant _ =>
    dsimp only
    split
    · exact agrees_issueToken surroundings board participant _
    · exact agrees_fail board _

theorem agrees_resendVerification (token participantId : String) :
    (board.resendVerification surroundings token participantId).Agrees
      (board.unlogged.resendVerification surroundings.muted token participantId) := by
  have records : board.unlogged.records = board.records := rfl
  rw [resendVerification, resendVerification, records]
  split
  next failure _ => exact agrees_fail board failure
  next participant _ =>
    split
    · exact agrees_fail board _
    · split
      · exact agrees_fail board _
      · exact agrees_issueToken surroundings board participant _

theorem agrees_verifyEmail (token : String) :
    (board.verifyEmail token).Agrees (board.unlogged.verifyEmail token) := by
  have records : board.unlogged.records = board.records := rfl
  have expired : board.unlogged.expired = board.expired := rfl
  rw [verifyEmail, verifyEmail, records, expired]
  split
  next => exact agrees_fail board _
  next participant _ =>
    split
    · exact agrees_answer board participant
    · split
      next failure _ => exact agrees_fail board failure
      next => exact agrees_fail board _
      next => exact agrees_answer (board.putParticipant _) _

theorem agrees_advance (micros : Int) :
    (board.advance micros).Agrees (board.unlogged.advance micros) := by
  have now : board.unlogged.now = board.now := rfl
  rw [advance, advance, now]
  split
  next now _ => exact agrees_answer { board with now := now } _
  next => exact agrees_fail board _

theorem parallels_cleanup :
    (board.cleanup surroundings).Parallels (board.unlogged.cleanup surroundings.muted) := by
  rw [cleanup, cleanup]
  split <;> split <;> exact ⟨rfl, rfl, rfl⟩

/-! ## Runs -/

/-- An operation has the same outcome and leaves the same behind as without any delivery,
unless it is about announcements themselves. -/
theorem agrees_perform {operation : Operation} (plain : operation.isNotice = false) :
    (board.perform surroundings operation).Agrees
      (board.unlogged.perform surroundings.muted operation) := by
  cases operation with
  | createAvailability token participantId request =>
    exact (agrees_createAvailability surroundings board token participantId request).map _
  | updateAvailability token participantId day patch =>
    exact (agrees_updateAvailability surroundings board token participantId day patch).map _
  | deleteAvailability token participantId day =>
    exact (agrees_deleteAvailability surroundings board token participantId day).map _
  | listAvailabilities => exact agrees_look board _
  | dateSummary => exact agrees_look board _
  | rangeSummary => exact agrees_look board _
  | busyTimes => exact agrees_look board _
  | createRecurrence token participantId request =>
    exact (agrees_createRecurrence board token participantId request).map _
  | updateRecurrence token participantId recurrenceId request =>
    exact (agrees_updateRecurrence board token participantId recurrenceId request).map _
  | deleteRecurrence token participantId recurrenceId =>
    exact (agrees_deleteRecurrence board token participantId recurrenceId).map _
  | listRecurrences => exact agrees_look board _
  | createExclusion token participantId recurrenceId request =>
    exact (agrees_createExclusion board token participantId recurrenceId request).map _
  | deleteExclusion token participantId recurrenceId day =>
    exact (agrees_deleteExclusion board token participantId recurrenceId day).map _
  | addEmail token participantId address =>
    exact (agrees_addEmail surroundings board token participantId address).map _
  | resendVerification token participantId =>
    exact (agrees_resendVerification surroundings board token participantId).map _
  | verifyEmail token => exact (agrees_verifyEmail board token).map _
  | checkThreshold => cases plain
  | cleanup => cases plain
  | advance micros => exact (agrees_advance board micros).map _

/-- Any operation leaves the same behind as without any delivery. -/
theorem parallels_perform (operation : Operation) :
    (board.perform surroundings operation).Parallels
      (board.unlogged.perform surroundings.muted operation) := by
  cases notice : operation.isNotice with
  | false => exact (agrees_perform surroundings board notice).toParallels
  | true =>
    cases operation with
    | checkThreshold calendarId day previous =>
      exact (parallels_checkThreshold surroundings board calendarId day previous).map _
    | cleanup => exact (parallels_cleanup surroundings board).map _
    | _ => cases notice

/-- What was asked in a run, with the step that came of it. -/
def account (run : List (Surroundings × Operation)) : List (Operation × Step Answer) :=
  (run.map Prod.snd).zip (board.run run)

/-- A run of the same operations in surroundings that may differ in how messages fare. -/
def Repeats (run rerun : List (Surroundings × Operation)) : Prop :=
  List.Forall₂ (fun entry again => entry.1.Alike again.1 ∧ entry.2 = again.2) run rerun

variable {board} {other : Board} {run rerun : List (Surroundings × Operation)}

/-- Boards that differ in their logs alone stay so along a run and its repetition. -/
theorem parallels_account (same : board.unlogged = other.unlogged) (repeated : Repeats run rerun) :
    List.Forall₂ (fun entry again => entry.1 = again.1 ∧ entry.2.Parallels again.2
      ∧ (entry.1.isNotice = false → entry.2.Agrees again.2))
      (board.account run) (other.account rerun) := by
  induction repeated generalizing board other with
  | nil => exact .nil
  | @cons entry again _ _ alike _ ih =>
    obtain ⟨surroundings, operation⟩ := entry
    obtain ⟨surroundings', operation'⟩ := again
    obtain ⟨alike, rfl⟩ := alike
    -- both steps are told by the one without deliveries
    have muted := parallels_perform surroundings' other operation
    rw [← same, ← alike.muted_eq] at muted
    have parallels := (parallels_perform surroundings board operation).trans muted.symm
    refine .cons ⟨rfl, parallels, fun plain => ?_⟩ (ih parallels.board)
    have agreed := agrees_perform surroundings' other plain
    rw [← same, ← alike.muted_eq] at agreed
    exact (agrees_perform surroundings board plain).trans agreed.symm

/-- However messages fare, the records after every operation are the same, the same events
are published, and every operation that is not about announcements has the same outcome. -/
theorem account_indifferent (board : Board) (repeated : Repeats run rerun) :
    List.Forall₂ (fun entry again => entry.1 = again.1
      ∧ entry.2.board.records = again.2.board.records
      ∧ entry.2.events = again.2.events ∧ entry.2.transitions = again.2.transitions
      ∧ (entry.1.isNotice = false → entry.2.outcome = again.2.outcome))
      (board.account run) (board.account rerun) := by
  refine (parallels_account rfl repeated).imp ?_
  rintro entry again ⟨sameOperation, parallels, agrees⟩
  have records := congrArg Board.records parallels.board
  exact ⟨sameOperation, records, parallels.events, parallels.transitions,
    fun plain => (agrees plain).outcome⟩

/-- The owner is told of a reached threshold, or sending crashes and the log is out of order;
the availability stands either way. -/
theorem account_indifferent_sample :
    let stormy : Surroundings :=
      { Surroundings.sample with
        outlets := ⟨true, fun _ => .crashed .noHost⟩
        lookupFails := ⟨fun _ => true⟩
        writeFails := ⟨fun _ => true⟩ }
    let run := [(Surroundings.sample, Operation.sampleEntry "ann"),
      (Surroundings.sample, .dateSummary "open" "2025-06-05")]
    let rerun := [(stormy, Operation.sampleEntry "ann"), (stormy, .dateSummary "open" "2025-06-05")]
    Repeats run rerun
      ∧ (sample.after run).log.length = 1 ∧ (sample.after rerun).log.length = 0
      ∧ (sample.after rerun).records.availabilities.rows.length = 1
      ∧ List.Forall₂ (fun entry again => entry.1 = again.1
        ∧ entry.2.board.records = again.2.board.records
        ∧ entry.2.events = again.2.events ∧ entry.2.transitions = again.2.transitions
        ∧ (entry.1.isNotice = false → entry.2.outcome = again.2.outcome))
        (sample.account run) (sample.account rerun) := by
  intro stormy run rerun
  have alike : Surroundings.sample.Alike stormy := ⟨rfl, rfl, rfl⟩
  have repeated : Repeats run rerun := .cons ⟨alike, rfl⟩ (.cons ⟨alike, rfl⟩ .nil)
  exact ⟨repeated, by decide +kernel, by decide +kernel, by decide +kernel,
    account_indifferent sample repeated⟩

end Board

end Rendezvous
