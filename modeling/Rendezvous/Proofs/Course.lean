import Rendezvous.Proofs.Changes
import Rendezvous.Proofs.Names

/-!
# The course of an operation

Whatever is asked of the board, it does one of eight things, and `perform_course` says
which.  What an invariant needs to know of an operation is told by its case there.
-/

namespace Rendezvous

/-! ## Changes of the records -/

/-- What becomes of the availability of a participant on a day. -/
inductive Records.Edit (records : Records) (now : Instant) (participantId : String)
    (day : Date) : Records → Prop where
  | enter (availability : Availability) (own : availability.participantId = participantId)
      (on : availability.day = day) (made : availability.createdAt = now)
      (absent : records.availabilityOn? participantId day = none)
      (fresh : ∀ other ∈ records.availabilities.rows, other.id ≠ availability.id) :
      Edit records now participantId day
        { records with availabilities := records.availabilities.put availability }
  | revise (present revised : Availability)
      (found : records.availabilityOn? participantId day = some present)
      (sameId : revised.id = present.id)
      (sameParticipant : revised.participantId = present.participantId)
      (sameDay : revised.day = present.day) (sameMade : revised.createdAt = present.createdAt) :
      Edit records now participantId day
        { records with availabilities := records.availabilities.put revised }
  | withdraw (present : Availability)
      (found : records.availabilityOn? participantId day = some present) :
      Edit records now participantId day
        { records with availabilities := records.availabilities.erase present.id }

/-- A recurrence begins before it ends. -/
def Recurrence.Ordered (recurrence : Recurrence) : Prop :=
  recurrence.lastDate.all (recurrence.firstDate ≤ ·)

/-- Two recurrences that are not of one participant and one weekday, or have no date in
common. -/
def Recurrence.Apart (a b : Recurrence) : Prop :=
  a.participantId = b.participantId → a.weekday = b.weekday →
    Date.rangesOverlap a.firstDate a.lastDate b.firstDate b.lastDate = false

/-- What becomes of the recurrences and of the days excluded from them. -/
inductive Records.Rearrangement (records : Records) : Records → Prop where
  | enter (recurrence : Recurrence) (ordered : recurrence.Ordered)
      (fresh : ∀ other ∈ records.recurrences.rows, other.id ≠ recurrence.id)
      (apart : ∀ other ∈ records.recurrences.rows, recurrence.Apart other) :
      Rearrangement records
        { records with recurrences := records.recurrences.put recurrence }
  | revise (present revised : Recurrence) (inside : present ∈ records.recurrences.rows)
      (sameId : revised.id = present.id)
      (sameParticipant : revised.participantId = present.participantId)
      (ordered : revised.Ordered)
      (apart : ∀ other ∈ records.recurrences.rows, other.id ≠ revised.id → revised.Apart other) :
      Rearrangement records
        { records with recurrences := records.recurrences.put revised }
  | withdraw (recurrence : Recurrence) (inside : recurrence ∈ records.recurrences.rows) :
      Rearrangement records (records.removeRecurrence recurrence.id)
  | exclude (exclusion : Exclusion)
      (known : ∃ recurrence ∈ records.recurrences.rows, recurrence.id = exclusion.recurrenceId)
      (absent : records.exclusionOn? exclusion.recurrenceId exclusion.day = none)
      (fresh : ∀ other ∈ records.exclusions.rows, other.id ≠ exclusion.id) :
      Rearrangement records { records with exclusions := records.exclusions.put exclusion }
  | restore (recurrenceId : String) (day : Date) :
      Rearrangement records (records.removeExclusion recurrenceId day)

/-! ## Operations -/

/-- A step that classifies nothing, and sends nothing about a crossing. -/
structure Step.Unannounced {α : Type} (step : Step α) : Prop where
  transitions : step.transitions = []
  about : ∀ attempt ∈ step.attempts, attempt.about = none

theorem Step.Silent.unannounced {α : Type} {step : Step α} (silent : step.Silent) :
    step.Unannounced := by
  refine ⟨silent.transitions, fun attempt inside => ?_⟩
  rw [silent.attempts] at inside
  cases inside

theorem Step.Unannounced.of_follows {α β : Type} {step : Step α} {other : Step β}
    (unannounced : other.Unannounced) (follows : step.Follows other) : step.Unannounced := by
  obtain ⟨transitions, about⟩ := unannounced
  exact ⟨follows.transitions.trans transitions, follows.attempts ▸ about⟩

/-- Whether an operation is about recurrences or the days excluded from them. -/
def Operation.rearranges : Operation → Bool
  | .createRecurrence .. => true
  | .updateRecurrence .. => true
  | .deleteRecurrence .. => true
  | .createExclusion .. => true
  | .deleteExclusion .. => true
  | _ => false

/-- Whether an operation is about announcements: a check without a change, or a cleanup of
the log. -/
def Operation.isNotice : Operation → Bool
  | .checkThreshold .. => true
  | .cleanup => true
  | _ => false

/-- Two states of a participant who keeps name and calendar. -/
structure Participant.Alike (a b : Participant) : Prop where
  id : a.id = b.id
  calendarId : a.calendarId = b.calendarId
  name : a.name = b.name

theorem Participant.alike_asked (participant : Participant) (address token : String)
    (expiry : Instant) : (participant.asked address token expiry).Alike participant :=
  ⟨rfl, rfl, rfl⟩

theorem Participant.alike_confirmed (participant : Participant) :
    participant.confirmed.Alike participant :=
  ⟨rfl, rfl, rfl⟩

/-- What an operation does. -/
inductive Board.Course {α : Type} (surroundings : Surroundings) (board : Board)
    (operation : Operation) (step : Step α) : Prop where
  | idle (tokens outages : Nat) (fewer : outages ≤ board.countOutages)
      (reached : step.board = { board with tokens := tokens, countOutages := outages })
      (silent : step.Silent)
  | edit (calendar : Calendar) (participant : Participant) (day : Date) (records : Records)
      (issued : Nat) (member : participant ∈ board.records.participants.rows)
      (belongs : participant.calendarId = calendar.id)
      (edited : board.records.Edit board.now participant.id day records)
      (follows : step.Follows
        (checkThreshold surroundings
          { board with
            records := records
            issued := issued
            countOutages := board.countOutages - 1 }
          calendar.id day (board.countBefore calendar.id day).1))
  | rearrange (records : Records) (issued : Nat) (kind : operation.rearranges)
      (rearranged : board.records.Rearrangement records)
      (reached : step.board = { board with records := records, issued := issued })
      (silent : step.Silent)
  | address (present updated : Participant) (email token : String)
      (stored : present ∈ board.records.participants.rows) (alike : updated.Alike present)
      (follows : step.Follows
        (({ board with tokens := board.tokens + 1 }.putParticipant updated).sendVerification
          surroundings email updated.name updated.locale token))
  | confirm (present updated : Participant)
      (stored : present ∈ board.records.participants.rows) (alike : updated.Alike present)
      (reached : step.board = board.putParticipant updated) (silent : step.Silent)
  | check (calendarId : String) (day : Date) (previous : Int)
      (asked : operation = .checkThreshold calendarId day previous)
      (follows : step.Follows (board.checkThreshold surroundings calendarId day previous))
  | clean (kept : DeliveryLog) (asked : operation = .cleanup)
      (retained : board.log.retain board.now surroundings.settings.retentionDays = .ok kept)
      (reached : step.board = { board with log := kept }) (silent : step.Silent)
  | advance (micros : Int) (now : Instant) (asked : operation = .advance micros)
      (moved : (Instant.span? micros 1).bind board.now.shift? = some now)
      (reached : step.board = { board with now := now }) (silent : step.Silent)

namespace Board

variable {α : Type} {surroundings : Surroundings} {board : Board} {operation : Operation}

/-- What is put on terms that do not overlap a recurrence is apart from it. -/
theorem apart_of_overlaps {agreed : Terms} {recurrence other : Recurrence}
    (sameWeekday : recurrence.weekday = agreed.weekday)
    (sameFirst : recurrence.firstDate = agreed.firstDate)
    (sameLast : recurrence.lastDate = agreed.lastDate)
    (free : agreed.overlaps other = false) (shared : recurrence.weekday = other.weekday) :
    Date.rangesOverlap recurrence.firstDate recurrence.lastDate other.firstDate other.lastDate
      = false := by
  rw [Terms.overlaps, ← sameWeekday, ← sameFirst, ← sameLast] at free
  simpa [shared] using free

/-- Records in which what a participant of a calendar shows on a day is edited. -/
structure Edits (board : Board) (calendar : Calendar) (participant : Participant) (day : Date)
    (records : Records) : Prop where
  member : participant ∈ board.records.participants.rows
  belongs : participant.calendarId = calendar.id
  edited : board.records.Edit board.now participant.id day records

section

variable {token participantId : String} {calendar : Calendar} {participant : Participant}

theorem edits_of_book {request : AvailabilityRequest} {booking : Booking} {number : Nat}
    (decided : board.book surroundings token participantId request = .ok booking)
    (absent : board.records.availabilityOn? booking.participant.id booking.day = none)
    (next : number = Fresh.next board.availabilityIds board.issued) :
    board.Edits booking.calendar booking.participant booking.day
      { board.records with
        availabilities := board.records.availabilities.put
          (booking.availability request.note (Fresh.name number) board.now) } := by
  obtain ⟨located, -⟩ := book_eq_ok decided
  obtain ⟨-, member, -, belongs⟩ := Records.locate_eq_ok located
  have fresh := Fresh.ne_name_next Availability.id board.records.availabilities.rows board.issued
  exact ⟨member, belongs, .enter _ rfl rfl rfl absent (next ▸ fresh)⟩

theorem edits_of_revise {text : String} {patch : AvailabilityPatch} {revised : Availability}
    (decided : board.revise surroundings token participantId text patch
      = .ok (calendar, participant, revised)) :
    board.Edits calendar participant revised.day
      { board.records with availabilities := board.records.availabilities.put revised } := by
  obtain ⟨present, -, -, -, slot, known, -, -, -, -, same⟩ := revise_eq_ok decided
  obtain ⟨located, -, found⟩ := present_eq_ok known
  obtain ⟨-, member, -, belongs⟩ := Records.locate_eq_ok located
  have sameDay : revised.day = present.day := by rw [same]
  exact ⟨member, belongs, .revise present revised (sameDay ▸ found) (by rw [same]) (by rw [same])
    sameDay (by rw [same])⟩

theorem edits_of_present {text : String} {present : Availability}
    (decided : board.present surroundings token participantId text
      = .ok (calendar, participant, present)) :
    board.Edits calendar participant present.day
      { board.records with
        availabilities := board.records.availabilities.erase present.id } := by
  obtain ⟨located, -, found⟩ := present_eq_ok decided
  obtain ⟨-, member, -, belongs⟩ := Records.locate_eq_ok located
  exact ⟨member, belongs, .withdraw _ found⟩

end

/-- A recurrence that is made goes by an id that no other has and no exclusion refers to. -/
theorem ne_nextRecurrenceId (board : Board) :
    (∀ recurrence ∈ board.records.recurrences.rows,
      recurrence.id ≠ Fresh.name (Fresh.next board.recurrenceIds board.issued))
    ∧ ∀ exclusion ∈ board.records.exclusions.rows,
      exclusion.recurrenceId ≠ Fresh.name (Fresh.next board.recurrenceIds board.issued) := by
  have fresh : ∀ id ∈ board.recurrenceIds,
      id ≠ Fresh.name (Fresh.next board.recurrenceIds board.issued) :=
    fun _ known => ne_of_mem_of_not_mem known (Fresh.name_next_not_mem _ _)
  constructor
  · intro recurrence inside
    exact fresh _ (List.mem_append_left _ (List.mem_map_of_mem inside))
  · intro exclusion inside
    exact fresh _ (List.mem_append_right _ (List.mem_map_of_mem inside))

/-- A change takes one of the courses. -/
theorem Change.course {step : Step α} (change : board.Change surroundings operation step) :
    board.Course surroundings operation step := by
  cases change with
  | nothing tokens outages more fewer reaches =>
    exact .idle tokens outages fewer reaches.board reaches.silent
  | enter number asked decided absent next publishes =>
    obtain ⟨member, belongs, edited⟩ := edits_of_book decided absent next
    exact .edit _ _ _ _ _ member belongs edited publishes.follows_checkThreshold
  | revise asked decided publishes =>
    obtain ⟨member, belongs, edited⟩ := edits_of_revise decided
    exact .edit _ _ _ _ board.issued member belongs edited publishes.follows_checkThreshold
  | withdraw asked decided publishes =>
    obtain ⟨member, belongs, edited⟩ := edits_of_present decided
    exact .edit _ _ _ _ board.issued member belongs edited publishes.follows_checkThreshold
  | agree number asked located decided next reaches =>
    obtain ⟨-, -, -, ordered, -, -, apart⟩ := terms_eq_ok decided
    rw [next] at reaches
    refine .rearrange _ _ (asked ▸ rfl) ?_ reaches.board reaches.silent
    refine .enter _ ordered board.ne_nextRecurrenceId.1 ?_
    intro other inside own shared
    exact apart_of_overlaps rfl rfl rfl (apart other inside own.symm (by simp)) shared
  | amend asked owned decided reaches =>
    obtain ⟨-, inside, -, own⟩ := owned_eq_ok owned
    obtain ⟨-, -, -, ordered, -, -, apart⟩ := terms_eq_ok decided
    refine .rearrange _ board.issued (asked ▸ rfl) ?_ reaches.board reaches.silent
    refine .revise _ _ inside rfl rfl ordered ?_
    intro other among different shared same
    have free := apart other among (shared.symm.trans own) fun same =>
      different (Option.some.inj same)
    exact apart_of_overlaps rfl rfl rfl free same
  | drop asked owned reaches =>
    obtain ⟨-, inside, -, -⟩ := owned_eq_ok owned
    exact .rearrange _ board.issued (asked ▸ rfl) (.withdraw _ inside) reaches.board
      reaches.silent
  | exclude number asked decided absent next reaches =>
    obtain ⟨⟨calendar, participant, stored⟩, -⟩ := excludable_eq_ok decided
    obtain ⟨-, inside, -, -⟩ := owned_eq_ok stored
    rw [next] at reaches
    refine .rearrange _ _ (asked ▸ rfl) ?_ reaches.board reaches.silent
    exact .exclude _ ⟨_, inside, rfl⟩ absent (Fresh.ne_name_next Exclusion.id _ _)
  | restore asked decided reaches =>
    exact .rearrange _ board.issued (asked ▸ rfl) (.restore _ _) reaches.board reaches.silent
  | request asked stored lasts publishes =>
    exact .address _ _ _ _ stored (Participant.alike_asked _ _ _ _) publishes.follows
  | confirm asked found unverified timely reaches =>
    exact .confirm _ _ (List.mem_of_find?_eq_some found)
      (Participant.alike_confirmed _) reaches.board reaches.silent
  | check asked events follows => exact .check _ _ _ asked follows
  | clean asked retained reaches => exact .clean _ asked retained reaches.board reaches.silent
  | advance asked moved reaches =>
    exact .advance _ _ asked moved reaches.board reaches.silent

/-- Every operation takes its course. -/
theorem perform_course (surroundings : Surroundings) (board : Board) (operation : Operation) :
    board.Course surroundings operation (board.perform surroundings operation) :=
  (perform_change surroundings board operation).course

/-- An operation leaves the recurrences and the days excluded from them alone, or rearranges
them. -/
theorem rearrangement_of_perform (surroundings : Surroundings) (board : Board)
    (operation : Operation) :
    ((board.perform surroundings operation).board.records.recurrences = board.records.recurrences
        ∧ (board.perform surroundings operation).board.records.exclusions
          = board.records.exclusions)
      ∨ board.records.Rearrangement (board.perform surroundings operation).board.records := by
  cases perform_course surroundings board operation with
  | idle tokens outages fewer reached silent =>
    rw [reached]
    exact .inl ⟨rfl, rfl⟩
  | edit calendar participant day records issued member belongs edited follows =>
    obtain ⟨log, outages, -, after⟩ := board_checkThreshold surroundings _ _ _ _
    rw [follows.board, after]
    cases edited <;> exact .inl ⟨rfl, rfl⟩
  | rearrange records issued kind rearranged reached silent =>
    rw [reached]
    exact .inr rearranged
  | address present updated email token stored alike follows =>
    rw [follows.board, board_sendVerification]
    exact .inl ⟨rfl, rfl⟩
  | confirm present updated stored alike reached silent =>
    rw [reached]
    exact .inl ⟨rfl, rfl⟩
  | check calendarId day previous asked follows =>
    obtain ⟨log, outages, -, after⟩ := board_checkThreshold surroundings board _ _ _
    rw [follows.board, after]
    exact .inl ⟨rfl, rfl⟩
  | clean kept asked retained reached silent =>
    rw [reached]
    exact .inl ⟨rfl, rfl⟩
  | advance micros now asked moved reached silent =>
    rw [reached]
    exact .inl ⟨rfl, rfl⟩

/-! ## Announcements -/

/-- A step that ends, classifies and sends as an announcement does, with the log and the time of
a board. -/
def Announces {α : Type} (surroundings : Surroundings) (board : Board) (step : Step α)
    (transition : Transition) : Prop :=
  ∃ (changed : Board) (calendar : Calendar) (config : NotifyConfig),
    changed.log = board.log ∧ changed.now = board.now
    ∧ changed.notified? transition.calendarId = some (calendar, config)
    ∧ step.Follows (changed.announce surroundings calendar config transition)

theorem Announces.of_follows {α β : Type} {step : Step α} {other : Step β}
    {transition : Transition} (announces : board.Announces surroundings other transition)
    (follows : step.Follows other) : board.Announces surroundings step transition := by
  obtain ⟨changed, calendar, config, log, now, notified, announced⟩ := announces
  exact ⟨changed, calendar, config, log, now, notified, follows.trans announced⟩

theorem unannounced_sendVerification (email name locale token : String) :
    (board.sendVerification surroundings email name locale token).Unannounced := by
  rw [sendVerification]
  split
  · refine ⟨rfl, fun attempt inside => ?_⟩
    rw [List.mem_singleton.mp inside]
  · exact Step.Silent.unannounced ⟨rfl, rfl⟩

theorem checkThreshold_announces (calendarId : String) (day : Date) (previous : Int) :
    (board.checkThreshold surroundings calendarId day previous).Unannounced
    ∨ ∃ transition, board.Announces surroundings
        (board.checkThreshold surroundings calendarId day previous) transition := by
  rcases board.checkThreshold_cases surroundings calendarId day previous with
    ⟨silent, -⟩ | ⟨calendar, config, current, notified, announced⟩
  · exact .inl silent.unannounced
  · rw [announced]
    let transition : Transition := ⟨calendarId, day, previous, current, calendar.threshold,
      .classify previous current calendar.threshold⟩
    exact .inr ⟨transition, { board with countOutages := board.countOutages - 1 }, calendar,
      config, rfl, rfl, notified, ⟨rfl, rfl, rfl⟩⟩

/-- Whatever an operation sends about a crossing it sends in one announcement, with the log and
the time that it found. -/
theorem perform_announces (surroundings : Surroundings) (board : Board)
    (operation : Operation) :
    (board.perform surroundings operation).Unannounced
    ∨ ∃ transition,
        board.Announces surroundings (board.perform surroundings operation) transition := by
  cases perform_course surroundings board operation with
  | idle tokens outages fewer reached silent => exact .inl silent.unannounced
  | edit calendar participant day records issued member belongs edited follows =>
    rcases checkThreshold_announces calendar.id day _ with unannounced | ⟨transition, announces⟩
    · exact .inl (unannounced.of_follows follows)
    · exact .inr ⟨transition, announces.of_follows follows⟩
  | rearrange records issued kind rearranged reached silent => exact .inl silent.unannounced
  | address present updated email token stored alike follows =>
    exact .inl ((unannounced_sendVerification ..).of_follows follows)
  | confirm present updated stored alike reached silent => exact .inl silent.unannounced
  | check calendarId day previous asked follows =>
    rcases checkThreshold_announces calendarId day previous with
      unannounced | ⟨transition, announces⟩
    · exact .inl (unannounced.of_follows follows)
    · exact .inr ⟨transition, announces.of_follows follows⟩
  | clean kept asked retained reached silent => exact .inl silent.unannounced
  | advance micros now asked moved reached silent => exact .inl silent.unannounced

/-- Whatever an operation classifies it announces. -/
theorem follows_announce_of_mem_perform {transition : Transition}
    (inside : transition ∈ (board.perform surroundings operation).transitions) :
    board.Announces surroundings (board.perform surroundings operation) transition := by
  rcases perform_announces surroundings board operation with unannounced | ⟨other, announces⟩
  · rw [unannounced.transitions] at inside
    cases inside
  · obtain ⟨changed, calendar, config, log, now, notified, follows⟩ := announces
    rw [follows.transitions, transitions_announce, List.mem_singleton] at inside
    subst inside
    exact ⟨changed, calendar, config, log, now, notified, follows⟩

end Board

end Rendezvous
