import Rendezvous.Board.Operation
import Rendezvous.Proofs.Decisions

/-!
# What is decided and then stored

An operation stores nothing, or exactly what it decided on, and publishes one event for a
changed availability or a requested verification.  `perform_change` says which decision led
to what, so that whatever holds of every decision holds of every row.
-/

namespace Rendezvous

/-! ## What a step tells -/

namespace Step

variable {α β γ : Type}

/-- A step that classifies nothing and sends nothing. -/
structure Silent (step : Step α) : Prop where
  transitions : step.transitions = []
  attempts : step.attempts = []

/-- A step that ends, classifies and sends as another does. -/
structure Follows (step : Step α) (other : Step β) : Prop where
  board : step.board = other.board
  transitions : step.transitions = other.transitions
  attempts : step.attempts = other.attempts

theorem Silent.not_mem_transitions {step : Step α} (silent : step.Silent)
    {transition : Transition} : transition ∉ step.transitions := by
  rw [silent.transitions]
  exact List.not_mem_nil

theorem Silent.map {step : Step α} (silent : step.Silent) (f : α → β) : (step.map f).Silent :=
  ⟨silent.transitions, silent.attempts⟩

theorem Follows.trans {step : Step α} {other : Step β} {another : Step γ}
    (first : step.Follows other) (second : other.Follows another) : step.Follows another :=
  ⟨first.board.trans second.board, first.transitions.trans second.transitions,
    first.attempts.trans second.attempts⟩

theorem Follows.map {step : Step α} {other : Step β} (follows : step.Follows other)
    (f : α → γ) : (step.map f).Follows other :=
  ⟨follows.board, follows.transitions, follows.attempts⟩

end Step

namespace Board

variable (surroundings : Surroundings) (board : Board)

/-! ## What looking and reacting leave alone -/

theorem board_count (calendarId : String) (day : Date) :
    (board.count calendarId day).2 = { board with countOutages := board.countOutages - 1 } := by
  rw [count]
  split
  next calm =>
    rw [calm]
    cases board
    cases calm
    rfl
  next => rfl

theorem board_countBefore (calendarId : String) (day : Date) :
    (board.countBefore calendarId day).2
      = { board with countOutages := board.countOutages - 1 } := by
  rw [← board_count board calendarId day, countBefore]
  split
  next counted => rw [counted]
  next counted => rw [counted]

theorem board_announce (calendar : Calendar) (config : NotifyConfig) (transition : Transition) :
    ∃ log, (board.announce surroundings calendar config transition).board
      = { board with log := log } := by
  rw [announce]
  split
  · exact ⟨board.log, rfl⟩
  · exact ⟨_, rfl⟩

theorem notified?_eq_some_iff {calendarId : String} {calendar : Calendar}
    {config : NotifyConfig} :
    board.notified? calendarId = some (calendar, config)
      ↔ board.records.calendars.get? calendarId = some calendar
        ∧ calendar.notifyConfig = some config ∧ config.enabled := by
  simp only [notified?, Option.bind_eq_some_iff, Option.map_eq_some_iff, Option.filter_eq_some_iff,
    Prod.mk.injEq]
  constructor
  · rintro ⟨calendar, found, config, ⟨configured, enabled⟩, rfl, rfl⟩
    exact ⟨found, configured, enabled⟩
  · rintro ⟨found, configured, enabled⟩
    exact ⟨calendar, found, config, ⟨configured, enabled⟩, rfl, rfl⟩

theorem notified?_eq_some {calendarId : String} {calendar : Calendar} {config : NotifyConfig}
    (found : board.notified? calendarId = some (calendar, config)) : calendar.id = calendarId :=
  (Table.mem_of_get? ((notified?_eq_some_iff board).mp found).1).2

theorem checkThreshold_of_unnotified {calendarId : String}
    (silent : board.notified? calendarId = none) (day : Date) (previous : Int) :
    board.checkThreshold surroundings calendarId day previous = .answer board none := by
  rw [checkThreshold, silent]

/-- A check fails with the count, or announces what it comes to. -/
theorem checkThreshold_of_notified {calendarId : String} {calendar : Calendar}
    {config : NotifyConfig} (notified : board.notified? calendarId = some (calendar, config))
    (day : Date) (previous : Int) :
    board.checkThreshold surroundings calendarId day previous
      = let counted := { board with countOutages := board.countOutages - 1 }
        match (board.count calendar.id day).1 with
        | .error failure => .fail counted failure
        | .ok total =>
            announce surroundings counted calendar config
              ⟨calendar.id, day, previous, total, calendar.threshold,
                .classify previous total calendar.threshold⟩ := by
  have left := board.board_count calendar.id day
  rw [checkThreshold, notified]
  dsimp only
  rw [detect]
  cases found : board.count calendar.id day with
  | mk outcome after =>
    rw [found] at left
    have left : after = { board with countOutages := board.countOutages - 1 } := left
    rw [left]
    cases outcome <;> rfl

theorem board_checkThreshold (calendarId : String) (day : Date) (previous : Int) :
    ∃ log outages, outages ≤ board.countOutages
      ∧ (board.checkThreshold surroundings calendarId day previous).board
        = { board with log := log, countOutages := outages } := by
  cases notified : board.notified? calendarId with
  | none =>
    rw [checkThreshold_of_unnotified surroundings board notified]
    exact ⟨board.log, board.countOutages, Nat.le_refl _, rfl⟩
  | some found =>
    rw [checkThreshold_of_notified surroundings board notified]
    dsimp only
    split
    next => exact ⟨board.log, board.countOutages - 1, Nat.sub_le _ _, rfl⟩
    next =>
      obtain ⟨log, announced⟩ := board_announce surroundings
        { board with countOutages := board.countOutages - 1 } found.1 found.2 _
      exact ⟨log, board.countOutages - 1, Nat.sub_le _ _, announced⟩

/-- A check tells nothing, or announces what it classified. -/
theorem checkThreshold_cases (calendarId : String) (day : Date) (previous : Int) :
    ((board.checkThreshold surroundings calendarId day previous).Silent
      ∧ (board.checkThreshold surroundings calendarId day previous).board.log = board.log)
    ∨ ∃ calendar config, ∃ current : Nat, board.notified? calendarId = some (calendar, config)
      ∧ board.checkThreshold surroundings calendarId day previous
        = announce surroundings { board with countOutages := board.countOutages - 1 } calendar
          config ⟨calendarId, day, previous, current, calendar.threshold,
            .classify previous current calendar.threshold⟩ := by
  cases notified : board.notified? calendarId with
  | none =>
    rw [checkThreshold_of_unnotified surroundings board notified]
    exact .inl ⟨⟨rfl, rfl⟩, rfl⟩
  | some found =>
    obtain ⟨calendar, config⟩ := found
    have same := notified?_eq_some board notified
    rw [checkThreshold_of_notified surroundings board notified, same]
    dsimp only
    split
    next => exact .inl ⟨⟨rfl, rfl⟩, rfl⟩
    next current _ => exact .inr ⟨calendar, config, current, rfl, rfl⟩

theorem transitions_announce (calendar : Calendar) (config : NotifyConfig)
    (transition : Transition) :
    (board.announce surroundings calendar config transition).transitions = [transition] := by
  rw [announce]
  split <;> rfl

theorem board_sendVerification (email name locale token : String) :
    (board.sendVerification surroundings email name locale token).board = board := by
  rw [sendVerification]
  split <;> rfl

/-- A reaction leaves everything alone but the log and the outages that it uses up. -/
theorem board_react (event : Event) :
    ∃ log outages, outages ≤ board.countOutages
      ∧ (board.react surroundings event).board
        = { board with log := log, countOutages := outages } := by
  cases event with
  | availabilityChanged calendarId day previous =>
    exact board.board_checkThreshold surroundings calendarId day previous
  | verificationRequested participantId email name locale token =>
    refine ⟨board.log, board.countOutages, Nat.le_refl _, ?_⟩
    exact board.board_sendVerification surroundings email name locale token

theorem transitions_sendVerification (email name locale token : String) :
    (board.sendVerification surroundings email name locale token).transitions = [] := by
  rw [sendVerification]
  split <;> rfl

end Board

/-! ## Rows that are made -/

/-- The availability that a booking comes to. -/
def Board.Booking.availability (booking : Board.Booking) (note : Option String) (id : String)
    (now : Instant) : Availability where
  id := id
  participantId := booking.participant.id
  day := booking.day
  slot := booking.slot
  note := note
  source := .manual
  recurrenceId := none
  createdAt := now
  updatedAt := now

/-- The recurrence that terms come to. -/
def Terms.recurrence (terms : Terms) (participantId id : String) (now : Instant) : Recurrence where
  id := id
  participantId := participantId
  weekday := terms.weekday
  slot := terms.slot
  note := terms.note
  firstDate := terms.firstDate
  lastDate := terms.lastDate
  createdAt := now

/-- A participant who is to confirm an address. -/
def Participant.asked (participant : Participant) (address token : String) (expiry : Instant) :
    Participant :=
  { participant with
    email := some address
    emailVerified := false
    verificationToken := some token
    verificationExpiresAt := some expiry }

/-- A participant whose address is confirmed. -/
def Participant.confirmed (participant : Participant) : Participant :=
  { participant with emailVerified := true }

/-! ## Changes -/

/-- How a participant is asked to confirm an address: it is given, and blanks around it do not
count, or it is there and not confirmed yet. -/
inductive Operation.Asks (participant : Participant) (address : String) : Operation → Prop where
  | add {token given : String} (trims : address = Board.trimmed given)
      (legible : '@' ∈ address.toList) :
      Asks participant address (.addEmail token participant.id given)
  | resend {token : String} (unverified : participant.emailVerified = false)
      (present : participant.email = some address) :
      Asks participant address (.resendVerification token participant.id)

/-- A step that ends at a board and tells nothing. -/
structure Step.Reaches {α : Type} (step : Step α) (board : Board) : Prop where
  board : step.board = board
  events : step.events = []
  silent : step.Silent

/-- A step that publishes an event from a board on which its change is stored. -/
structure Step.Publishes {α : Type} (surroundings : Surroundings) (step : Step α)
    (changed : Board) (event : Event) : Prop where
  events : step.events = [event]
  follows : step.Follows (changed.react surroundings event)

theorem Step.Reaches.map {α β : Type} {step : Step α} {board : Board}
    (reaches : step.Reaches board) (f : α → β) : (step.map f).Reaches board :=
  ⟨reaches.board, reaches.events, reaches.silent.map f⟩

theorem Step.Publishes.map {α β : Type} {surroundings : Surroundings} {step : Step α}
    {changed : Board} {event : Event} (publishes : step.Publishes surroundings changed event)
    (f : α → β) : (step.map f).Publishes surroundings changed event :=
  ⟨publishes.events, publishes.follows.map f⟩

theorem Step.Publishes.follows_checkThreshold {α : Type} {surroundings : Surroundings}
    {step : Step α} {changed : Board} {calendarId : String} {day : Date} {previous : Int}
    (publishes : step.Publishes surroundings changed
      (.availabilityChanged calendarId day previous)) :
    step.Follows (changed.checkThreshold surroundings calendarId day previous) :=
  ⟨publishes.follows.board, publishes.follows.transitions, publishes.follows.attempts⟩

/-- What is stored before an event is published stays as it is. -/
theorem Step.Publishes.board {α : Type} {surroundings : Surroundings} {step : Step α}
    {changed : Board} {event : Event} (publishes : step.Publishes surroundings changed event) :
    ∃ log outages, outages ≤ changed.countOutages
      ∧ step.board = { changed with log := log, countOutages := outages } := by
  obtain ⟨log, outages, fewer, reached⟩ := changed.board_react surroundings event
  exact ⟨log, outages, fewer, publishes.follows.board.trans reached⟩

theorem Step.Publishes.records {α : Type} {surroundings : Surroundings} {step : Step α}
    {changed : Board} {event : Event} (publishes : step.Publishes surroundings changed event) :
    step.board.records = changed.records := by
  obtain ⟨log, outages, -, reached⟩ := publishes.board
  rw [reached]

theorem Board.publishes_publish {α : Type} (surroundings : Surroundings) (changed : Board)
    (event : Event) (value : α) :
    (publish surroundings changed event value).Publishes surroundings changed event :=
  ⟨rfl, rfl, rfl, rfl⟩

namespace Board

/-- The board with other records, after a count that may have used up an outage. -/
def counted (board : Board) (records : Records) : Board :=
  { board with records := records, countOutages := board.countOutages - 1 }

/-- What an operation stores, and what it decided on before. -/
inductive Change {α : Type} (surroundings : Surroundings) (board : Board)
    (operation : Operation) (step : Step α) : Prop where
  | nothing (tokens outages : Nat) (more : board.tokens ≤ tokens)
      (fewer : outages ≤ board.countOutages)
      (reaches : step.Reaches { board with tokens := tokens, countOutages := outages })
  | enter {token participantId : String} {request : AvailabilityRequest} {booking : Booking}
      (number : Nat) (asked : operation = .createAvailability token participantId request)
      (decided : board.book surroundings token participantId request = .ok booking)
      (absent : board.records.availabilityOn? booking.participant.id booking.day = none)
      (next : number = Fresh.next board.availabilityIds board.issued)
      (publishes : step.Publishes surroundings
        { board.counted
            { board.records with
              availabilities := board.records.availabilities.put
                (booking.availability request.note (Fresh.name number) board.now) } with
          issued := number }
        (.availabilityChanged booking.calendar.id booking.day
          (board.countBefore booking.calendar.id booking.day).1))
  | revise {token participantId day : String} {patch : AvailabilityPatch} {calendar : Calendar}
      {participant : Participant} {revised : Availability}
      (asked : operation = .updateAvailability token participantId day patch)
      (decided : board.revise surroundings token participantId day patch
        = .ok (calendar, participant, revised))
      (publishes : step.Publishes surroundings
        (board.counted
          { board.records with availabilities := board.records.availabilities.put revised })
        (.availabilityChanged calendar.id revised.day
          (board.countBefore calendar.id revised.day).1))
  | withdraw {token participantId day : String} {calendar : Calendar} {participant : Participant}
      {present : Availability} (asked : operation = .deleteAvailability token participantId day)
      (decided : board.present surroundings token participantId day
        = .ok (calendar, participant, present))
      (publishes : step.Publishes surroundings
        (board.counted
          { board.records with
            availabilities := board.records.availabilities.erase present.id })
        (.availabilityChanged calendar.id present.day
          (board.countBefore calendar.id present.day).1))
  | agree {token participantId : String} {request : RecurrenceRequest} {calendar : Calendar}
      {participant : Participant} {terms : Terms} (number : Nat)
      (asked : operation = .createRecurrence token participantId request)
      (located : board.records.locate token participantId = .ok (calendar, participant))
      (decided : board.terms calendar participant request none = .ok terms)
      (next : number = Fresh.next board.recurrenceIds board.issued)
      (reaches : step.Reaches
        { board.putRecurrence (terms.recurrence participant.id (Fresh.name number) board.now) with
          issued := number })
  | amend {token participantId recurrenceId : String} {request : RecurrenceRequest}
      {calendar : Calendar} {participant : Participant} {present : Recurrence} {terms : Terms}
      (asked : operation = .updateRecurrence token participantId recurrenceId request)
      (owned : board.owned token participantId recurrenceId = .ok (calendar, participant, present))
      (decided : board.terms calendar participant request (some present.id) = .ok terms)
      (reaches : step.Reaches (board.putRecurrence (terms.apply present)))
  | drop {token participantId recurrenceId : String} {calendar : Calendar}
      {participant : Participant} {present : Recurrence}
      (asked : operation = .deleteRecurrence token participantId recurrenceId)
      (owned : board.owned token participantId recurrenceId = .ok (calendar, participant, present))
      (reaches : step.Reaches
        { board with records := board.records.removeRecurrence present.id })
  | exclude {token participantId recurrenceId : String} {request : ExclusionRequest}
      {recurrence : Recurrence} {day : Date} (number : Nat)
      (asked : operation = .createExclusion token participantId recurrenceId request)
      (decided : board.excludable token participantId recurrenceId request.day
        = .ok (recurrence, day))
      (absent : board.records.exclusionOn? recurrence.id day = none)
      (next : number = Fresh.next board.exclusionIds board.issued)
      (reaches : step.Reaches
        { board with
          records :=
            { board.records with
              exclusions := board.records.exclusions.put
                ⟨Fresh.name number, recurrence.id, day, board.now⟩ }
          issued := number })
  | restore {token participantId recurrenceId text : String} {recurrence : Recurrence}
      {day : Date} (asked : operation = .deleteExclusion token participantId recurrenceId text)
      (decided : board.excludable token participantId recurrenceId text = .ok (recurrence, day))
      (reaches : step.Reaches
        { board with records := board.records.removeExclusion recurrence.id day })
  | request {participant : Participant} {address : String} {expiry : Instant}
      (asked : operation.Asks participant address)
      (stored : participant ∈ board.records.participants.rows)
      (lasts : { board with tokens := board.tokens + 1 }.expiry? surroundings = some expiry)
      (publishes : step.Publishes surroundings
        ({ board with tokens := board.tokens + 1 }.putParticipant
          (participant.asked address (Fresh.token (board.tokens + 1)) expiry))
        (.verificationRequested participant.id address participant.name participant.locale
          (Fresh.token (board.tokens + 1))))
  | confirm {token : String} {participant : Participant} (asked : operation = .verifyEmail token)
      (found : board.records.participantVerifying? token = some participant)
      (unverified : participant.emailVerified = false)
      (timely : board.expired participant = .ok false)
      (reaches : step.Reaches (board.putParticipant participant.confirmed))
  | check {calendarId : String} {day : Date} {previous : Int}
      (asked : operation = .checkThreshold calendarId day previous) (events : step.events = [])
      (follows : step.Follows (board.checkThreshold surroundings calendarId day previous))
  | clean {kept : DeliveryLog} (asked : operation = .cleanup)
      (retained : board.log.retain board.now surroundings.settings.retentionDays = .ok kept)
      (reaches : step.Reaches { board with log := kept })
  | advance {micros : Int} {now : Instant} (asked : operation = .advance micros)
      (moved : (Instant.span? micros 1).bind board.now.shift? = some now)
      (reaches : step.Reaches { board with now := now })

variable {α β : Type} {surroundings : Surroundings} {board : Board} {operation : Operation}

theorem Change.map {step : Step α} (change : board.Change surroundings operation step)
    (f : α → β) : board.Change surroundings operation (step.map f) := by
  cases change with
  | nothing tokens outages more fewer reaches =>
    exact .nothing tokens outages more fewer (reaches.map f)
  | enter number asked decided absent next publishes =>
    exact .enter number asked decided absent next (publishes.map f)
  | revise asked decided publishes => exact .revise asked decided (publishes.map f)
  | withdraw asked decided publishes => exact .withdraw asked decided (publishes.map f)
  | agree number asked located decided next reaches =>
    exact .agree number asked located decided next (reaches.map f)
  | amend asked owned decided reaches => exact .amend asked owned decided (reaches.map f)
  | drop asked owned reaches => exact .drop asked owned (reaches.map f)
  | exclude number asked decided absent next reaches =>
    exact .exclude number asked decided absent next (reaches.map f)
  | restore asked decided reaches => exact .restore asked decided (reaches.map f)
  | request asked stored lasts publishes => exact .request asked stored lasts (publishes.map f)
  | confirm asked found unverified timely reaches =>
    exact .confirm asked found unverified timely (reaches.map f)
  | check asked events follows => exact .check asked events (follows.map f)
  | clean asked retained reaches => exact .clean asked retained (reaches.map f)
  | advance asked moved reaches => exact .advance asked moved (reaches.map f)

theorem change_fail (failure : Failure) :
    board.Change surroundings operation (.fail board failure : Step α) :=
  .nothing board.tokens board.countOutages (Nat.le_refl _) (Nat.le_refl _) ⟨rfl, rfl, rfl, rfl⟩

theorem change_look (outcome : Except Failure α) :
    board.Change surroundings operation (.look board outcome) :=
  .nothing board.tokens board.countOutages (Nat.le_refl _) (Nat.le_refl _) ⟨rfl, rfl, rfl, rfl⟩

theorem change_answer (value : α) : board.Change surroundings operation (.answer board value) :=
  .nothing board.tokens board.countOutages (Nat.le_refl _) (Nat.le_refl _) ⟨rfl, rfl, rfl, rfl⟩

/-! ## Availabilities -/

section

variable {token participantId : String} {calendar : Calendar}
  {participant : Participant}

theorem createAvailability_of_some {request : AvailabilityRequest} {booking : Booking}
    (decided : board.book surroundings token participantId request = .ok booking)
    {present : Availability}
    (taken : board.records.availabilityOn? booking.participant.id booking.day = some present) :
    board.createAvailability surroundings token participantId request
      = .fail (board.counted board.records) (.refused .availabilityExists) := by
  rw [createAvailability, decided]
  dsimp only
  rw [board_countBefore, Records.addAvailability, taken]
  rfl

theorem createAvailability_of_none {request : AvailabilityRequest} {booking : Booking}
    (decided : board.book surroundings token participantId request = .ok booking)
    (free : board.records.availabilityOn? booking.participant.id booking.day = none) :
    let number := Fresh.next board.availabilityIds board.issued
    let availability := booking.availability request.note (Fresh.name number) board.now
    board.createAvailability surroundings token participantId request
      = publish surroundings
        { board.counted
            { board.records with
              availabilities := board.records.availabilities.put availability } with
          issued := number }
        (.availabilityChanged booking.calendar.id booking.day
          (board.countBefore booking.calendar.id booking.day).1)
        (.of booking.participant availability) := by
  rw [createAvailability, decided]
  dsimp only
  rw [board_countBefore, Records.addAvailability, free]
  rfl

theorem updateAvailability_of_revise {day : String} {patch : AvailabilityPatch}
    {revised : Availability}
    (decided : board.revise surroundings token participantId day patch
      = .ok (calendar, participant, revised)) :
    board.updateAvailability surroundings token participantId day patch
      = publish surroundings
        (board.counted
          { board.records with availabilities := board.records.availabilities.put revised })
        (.availabilityChanged calendar.id revised.day
          (board.countBefore calendar.id revised.day).1)
        (.of participant revised) := by
  rw [updateAvailability, decided]
  dsimp only
  rw [board_countBefore]
  rfl

theorem deleteAvailability_of_present {day : String} {present : Availability}
    (decided : board.present surroundings token participantId day
      = .ok (calendar, participant, present)) :
    board.deleteAvailability surroundings token participantId day
      = publish surroundings
        (board.counted
          { board.records with
            availabilities := board.records.availabilities.erase present.id })
        (.availabilityChanged calendar.id present.day
          (board.countBefore calendar.id present.day).1) () := by
  rw [deleteAvailability, decided]
  dsimp only
  rw [board_countBefore]
  rfl

end

theorem change_createAvailability (token participantId : String)
    (request : AvailabilityRequest) :
    board.Change surroundings (.createAvailability token participantId request)
      (board.createAvailability surroundings token participantId request) := by
  cases decided : board.book surroundings token participantId request with
  | error failure =>
    rw [createAvailability, decided]
    exact change_fail failure
  | ok booking =>
    cases found : board.records.availabilityOn? booking.participant.id booking.day with
    | some present =>
      rw [createAvailability_of_some decided found]
      exact .nothing board.tokens _ (Nat.le_refl _) (Nat.sub_le _ _) ⟨rfl, rfl, rfl, rfl⟩
    | none =>
      rw [createAvailability_of_none decided found]
      exact .enter _ rfl decided found rfl (publishes_publish _ _ _ _)

theorem change_updateAvailability (token participantId day : String)
    (patch : AvailabilityPatch) :
    board.Change surroundings (.updateAvailability token participantId day patch)
      (board.updateAvailability surroundings token participantId day patch) := by
  cases decided : board.revise surroundings token participantId day patch with
  | error failure =>
    rw [updateAvailability, decided]
    exact change_fail failure
  | ok found =>
    rw [updateAvailability_of_revise decided]
    exact .revise rfl decided (publishes_publish _ _ _ _)

theorem change_deleteAvailability (token participantId day : String) :
    board.Change surroundings (.deleteAvailability token participantId day)
      (board.deleteAvailability surroundings token participantId day) := by
  cases decided : board.present surroundings token participantId day with
  | error failure =>
    rw [deleteAvailability, decided]
    exact change_fail failure
  | ok found =>
    rw [deleteAvailability_of_present decided]
    exact .withdraw rfl decided (publishes_publish _ _ _ _)

/-! ## Recurrences -/

theorem change_createRecurrence (token participantId : String) (request : RecurrenceRequest) :
    board.Change surroundings (.createRecurrence token participantId request)
      (board.createRecurrence token participantId request) := by
  rw [createRecurrence]
  dsimp only
  split
  next failure _ => exact change_fail failure
  next participant terms decided =>
    simp only [Except.bind_eq_ok_iff] at decided
    obtain ⟨⟨calendar, participant'⟩, located, terms', agreed, decided⟩ := decided
    cases decided
    exact .agree _ rfl located agreed rfl ⟨rfl, rfl, rfl, rfl⟩

theorem change_updateRecurrence (token participantId recurrenceId : String)
    (request : RecurrenceRequest) :
    board.Change surroundings (.updateRecurrence token participantId recurrenceId request)
      (board.updateRecurrence token participantId recurrenceId request) := by
  rw [updateRecurrence]
  dsimp only
  split
  next failure _ => exact change_fail failure
  next revised decided =>
    simp only [Except.bind_eq_ok_iff] at decided
    obtain ⟨⟨calendar, participant, present⟩, owned, terms, agreed, decided⟩ := decided
    cases decided
    exact .amend rfl owned agreed ⟨rfl, rfl, rfl, rfl⟩

theorem change_deleteRecurrence (token participantId recurrenceId : String) :
    board.Change surroundings (.deleteRecurrence token participantId recurrenceId)
      (board.deleteRecurrence token participantId recurrenceId) := by
  rw [deleteRecurrence]
  split
  next failure _ => exact change_fail failure
  next calendar participant recurrence owned => exact .drop rfl owned ⟨rfl, rfl, rfl, rfl⟩

theorem change_createExclusion (token participantId recurrenceId : String)
    (request : ExclusionRequest) :
    board.Change surroundings (.createExclusion token participantId recurrenceId request)
      (board.createExclusion token participantId recurrenceId request) := by
  rw [createExclusion]
  split
  next failure _ => exact change_fail failure
  next recurrence day decided =>
    split
    next present _ => exact change_answer present
    next absent =>
      simp only [Records.addExclusion, absent]
      exact .exclude _ rfl decided absent rfl ⟨rfl, rfl, rfl, rfl⟩

theorem change_deleteExclusion (token participantId recurrenceId day : String) :
    board.Change surroundings (.deleteExclusion token participantId recurrenceId day)
      (board.deleteExclusion token participantId recurrenceId day) := by
  rw [deleteExclusion]
  split
  next failure _ => exact change_fail failure
  next recurrence day' decided => exact .restore rfl decided ⟨rfl, rfl, rfl, rfl⟩

/-! ## Addresses -/

theorem change_issueToken {participant : Participant} {address : String}
    (asked : operation.Asks participant address)
    (stored : participant ∈ board.records.participants.rows) :
    board.Change surroundings operation (board.issueToken surroundings participant address) := by
  rw [issueToken]
  dsimp only
  split
  next =>
    exact .nothing (board.tokens + 1) board.countOutages (Nat.le_succ _) (Nat.le_refl _)
      ⟨rfl, rfl, rfl, rfl⟩
  next expiry lasts => exact .request asked stored lasts (publishes_publish _ _ _ _)

theorem change_addEmail (token participantId given : String) :
    board.Change surroundings (.addEmail token participantId given)
      (board.addEmail surroundings token participantId given) := by
  rw [addEmail]
  split
  next failure _ => exact change_fail failure
  next calendar participant located =>
    obtain ⟨-, stored, same, -⟩ := Records.locate_eq_ok located
    cases same
    dsimp only
    split
    next legible =>
      exact change_issueToken (.add rfl (List.contains_iff_mem.mp legible)) stored
    next => exact change_fail _

theorem change_resendVerification (token participantId : String) :
    board.Change surroundings (.resendVerification token participantId)
      (board.resendVerification surroundings token participantId) := by
  rw [resendVerification]
  split
  next failure _ => exact change_fail failure
  next calendar participant located =>
    obtain ⟨-, stored, same, -⟩ := Records.locate_eq_ok located
    cases same
    split
    next => exact change_fail _
    next unverified =>
      split
      next => exact change_fail _
      next address present =>
        have given := (Option.filter_eq_some_iff.mp present).1
        exact change_issueToken (.resend (Bool.eq_false_iff.mpr unverified) given) stored

theorem change_verifyEmail (token : String) :
    board.Change surroundings (.verifyEmail token) (board.verifyEmail token) := by
  rw [verifyEmail]
  split
  next => exact change_fail _
  next participant found =>
    by_cases verified : participant.emailVerified
    · rw [if_pos verified]
      exact change_answer participant
    · rw [if_neg verified]
      split
      next failure _ => exact change_fail failure
      next => exact change_fail _
      next timely =>
        exact .confirm rfl found (Bool.eq_false_iff.mpr verified) timely ⟨rfl, rfl, rfl, rfl⟩

/-! ## Operations -/

theorem change_cleanup :
    board.Change surroundings .cleanup (board.cleanup surroundings) := by
  rw [cleanup]
  split
  next failure _ => exact change_fail failure
  next kept retained => exact .clean rfl retained ⟨rfl, rfl, rfl, rfl⟩

theorem change_advance (micros : Int) :
    board.Change surroundings (.advance micros) (board.advance micros) := by
  rw [advance]
  split
  next now moved => exact .advance rfl moved ⟨rfl, rfl, rfl, rfl⟩
  next => exact change_fail _

theorem events_announce (calendar : Calendar) (config : NotifyConfig) (transition : Transition) :
    (board.announce surroundings calendar config transition).events = [] := by
  rw [announce]
  split <;> rfl

theorem events_checkThreshold (calendarId : String) (day : Date) (previous : Int) :
    (board.checkThreshold surroundings calendarId day previous).events = [] := by
  rw [checkThreshold]
  split
  · rfl
  · dsimp only
    split
    · rfl
    · exact events_announce _ _ _

/-- Every operation stores what it decided on. -/
theorem perform_change (surroundings : Surroundings) (board : Board) (operation : Operation) :
    board.Change surroundings operation (board.perform surroundings operation) := by
  cases operation with
  | createAvailability token participantId request =>
    exact (change_createAvailability token participantId request).map _
  | updateAvailability token participantId day patch =>
    exact (change_updateAvailability token participantId day patch).map _
  | deleteAvailability token participantId day =>
    exact (change_deleteAvailability token participantId day).map _
  | listAvailabilities => exact change_look _
  | dateSummary => exact change_look _
  | rangeSummary => exact change_look _
  | busyTimes => exact change_look _
  | createRecurrence token participantId request =>
    exact (change_createRecurrence token participantId request).map _
  | updateRecurrence token participantId recurrenceId request =>
    exact (change_updateRecurrence token participantId recurrenceId request).map _
  | deleteRecurrence token participantId recurrenceId =>
    exact (change_deleteRecurrence token participantId recurrenceId).map _
  | listRecurrences => exact change_look _
  | createExclusion token participantId recurrenceId request =>
    exact (change_createExclusion token participantId recurrenceId request).map _
  | deleteExclusion token participantId recurrenceId day =>
    exact (change_deleteExclusion token participantId recurrenceId day).map _
  | addEmail token participantId address =>
    exact (change_addEmail token participantId address).map _
  | resendVerification token participantId =>
    exact (change_resendVerification token participantId).map _
  | verifyEmail token => exact (change_verifyEmail token).map _
  | checkThreshold calendarId day previous =>
    exact .check rfl (events_checkThreshold calendarId day previous) ⟨rfl, rfl, rfl⟩
  | cleanup => exact change_cleanup.map _
  | advance micros => exact (change_advance micros).map _

end Board

end Rendezvous
