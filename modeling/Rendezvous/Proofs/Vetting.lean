import Rendezvous.Proofs.Changes
import Rendezvous.Proofs.Merge

/-!
# What was checked when it was stored

Availabilities and recurrences are stored by the operations alone, and every operation decides
on them first.  What each decision makes sure of therefore holds of all of them in the end.
-/

namespace Rendezvous

/-! ## Members -/

/-- A calendar that is stored, and the id of a participant of it who is stored too. -/
def Records.Member (records : Records) (calendar : Calendar) (participantId : String) : Prop :=
  calendar ∈ records.calendars.rows
    ∧ ∃ participant ∈ records.participants.rows,
      participant.id = participantId ∧ participant.calendarId = calendar.id

namespace Records

variable {records records' : Records} {calendar : Calendar} {participant : Participant}

/-- By the token of a calendar every member of it is located. -/
theorem exists_locate {token participantId : String}
    (opens : records.calendarByToken token = .ok calendar)
    (member : (records.member? calendar.id participantId).isSome) :
    ∃ participant, participant.id = participantId
      ∧ records.locate token participantId = .ok (calendar, participant) := by
  obtain ⟨participant, found⟩ := Option.isSome_iff_exists.mp member
  obtain ⟨inside, of⟩ := mem_of_member? found
  have same := id_of_member? found
  have stored : (records.participants.get? participantId).filter
      (fun participant => participant.calendarId = calendar.id) = some participant :=
    Option.filter_eq_some_iff.mpr
      ⟨Table.get?_eq_some_iff.mpr ⟨inside, same⟩, decide_eq_true of⟩
  refine ⟨participant, same, ?_⟩
  rw [locate, opens, Except.ok_bind, participantIn, stored]
  rfl

theorem member_of_isSome_member? {participantId : String}
    (stored : calendar ∈ records.calendars.rows)
    (found : (records.member? calendar.id participantId).isSome) :
    records.Member calendar participantId := by
  obtain ⟨participant, found⟩ := Option.isSome_iff_exists.mp found
  obtain ⟨inside, belongs⟩ := mem_of_member? found
  exact ⟨stored, participant, inside, id_of_member? found, belongs⟩

/-- A participant who is located is a member of the calendar of the token, and of no other. -/
theorem Member.eq_of_locate {other : Calendar} {token participantId : String}
    (located : records.locate token participantId = .ok (calendar, participant))
    (member : records.Member other participant.id) : other = calendar := by
  obtain ⟨⟨stored, -⟩, inside, -, belongs⟩ := locate_eq_ok located
  obtain ⟨stored', participant', inside', same, belongs'⟩ := member
  have one : participant' = participant := Table.eq_of_key inside' inside same
  rw [one] at belongs'
  exact Table.eq_of_key stored' stored (belongs'.symm.trans belongs)

/-- Whoever takes the place of a participant belongs to the same calendar. -/
theorem Member.of_put {present updated : Participant} {participantId : String}
    (stored : present ∈ records.participants.rows) (sameId : updated.id = present.id)
    (sameCalendar : updated.calendarId = present.calendarId)
    (member : Member { records with participants := records.participants.put updated } calendar
      participantId) :
    records.Member calendar participantId := by
  obtain ⟨known, participant, inside, same, belongs⟩ := member
  refine ⟨known, ?_⟩
  rcases Table.mem_put.mp inside with rfl | ⟨inside, -⟩
  · exact ⟨present, stored, sameId.symm.trans same, sameCalendar.symm.trans belongs⟩
  · exact ⟨participant, inside, same, belongs⟩

end Records

/-! ## Conditions on rows -/

variable {entry : Calendar → Availability → Prop} {repetition : Calendar → Recurrence → Prop}

/-- Every availability of a member of a calendar meets a condition of the calendar, and every
recurrence another one. -/
structure Records.Vetted (records : Records) (entry : Calendar → Availability → Prop)
    (repetition : Calendar → Recurrence → Prop) : Prop where
  entries : ∀ availability ∈ records.availabilities.rows, ∀ calendar,
    records.Member calendar availability.participantId → entry calendar availability
  repetitions : ∀ recurrence ∈ records.recurrences.rows, ∀ calendar,
    records.Member calendar recurrence.participantId → repetition calendar recurrence

/-- Nothing is decided on in some surroundings that does not meet the conditions. -/
structure Surroundings.Vets (surroundings : Surroundings)
    (entry : Calendar → Availability → Prop) (repetition : Calendar → Recurrence → Prop) :
    Prop where
  book : ∀ {board : Board} {token participantId : String} {request : AvailabilityRequest}
    {booking : Board.Booking},
    board.book surroundings token participantId request = .ok booking →
    ∀ id, entry booking.calendar (booking.availability request.note id board.now)
  revise : ∀ {board : Board} {token participantId day : String} {patch : AvailabilityPatch}
    {calendar : Calendar} {participant : Participant} {present revised : Availability},
    board.present surroundings token participantId day = .ok (calendar, participant, present) →
    board.revise surroundings token participantId day patch
      = .ok (calendar, participant, revised) →
    entry calendar present → entry calendar revised
  terms : ∀ {board : Board} {calendar : Calendar} {participant : Participant}
    {request : RecurrenceRequest} {replaced : Option String} {terms : Terms},
    board.terms calendar participant request replaced = .ok terms →
    ∀ present, repetition calendar (terms.apply present)

/-- What holds of agreed terms wherever they apply holds of the recurrence made of them. -/
theorem Surroundings.Vets.recurrence {surroundings : Surroundings}
    (vets : surroundings.Vets entry repetition) {board : Board} {calendar : Calendar}
    {participant : Participant} {request : RecurrenceRequest} {replaced : Option String}
    {terms : Terms} (decided : board.terms calendar participant request replaced = .ok terms)
    (participantId id : String) (now : Instant) :
    repetition calendar (terms.recurrence participantId id now) :=
  vets.terms decided (terms.recurrence participantId id now)

namespace Records.Vetted

variable {records records' : Records}

/-- Rows that are new have to meet the conditions, where no participant changes calendars. -/
theorem mono (vetted : records.Vetted entry repetition)
    (members : ∀ calendar participantId, records'.Member calendar participantId →
      records.Member calendar participantId)
    (entries : ∀ availability ∈ records'.availabilities.rows,
      availability ∈ records.availabilities.rows
        ∨ ∀ calendar, records.Member calendar availability.participantId →
          entry calendar availability)
    (repetitions : ∀ recurrence ∈ records'.recurrences.rows,
      recurrence ∈ records.recurrences.rows
        ∨ ∀ calendar, records.Member calendar recurrence.participantId →
          repetition calendar recurrence) :
    records'.Vetted entry repetition := by
  refine ⟨?_, ?_⟩
  · intro availability inside calendar member
    have member' := members calendar _ member
    rcases entries availability inside with before | meets
    · exact vetted.entries availability before calendar member'
    · exact meets calendar member'
  · intro recurrence inside calendar member
    have member' := members calendar _ member
    rcases repetitions recurrence inside with before | meets
    · exact vetted.repetitions recurrence before calendar member'
    · exact meets calendar member'

theorem putAvailability (vetted : records.Vetted entry repetition) {availability : Availability}
    (meets : ∀ calendar, records.Member calendar availability.participantId →
      entry calendar availability) :
    Vetted { records with availabilities := records.availabilities.put availability } entry
      repetition := by
  refine vetted.mono (fun _ _ member => member) ?_ fun _ inside => .inl inside
  intro other inside
  rcases Table.mem_put.mp inside with rfl | ⟨before, -⟩
  · exact .inr meets
  · exact .inl before

theorem putRecurrence (vetted : records.Vetted entry repetition) {recurrence : Recurrence}
    (meets : ∀ calendar, records.Member calendar recurrence.participantId →
      repetition calendar recurrence) :
    Vetted { records with recurrences := records.recurrences.put recurrence } entry
      repetition := by
  refine vetted.mono (fun _ _ member => member) (fun _ inside => .inl inside) ?_
  intro other inside
  rcases Table.mem_put.mp inside with rfl | ⟨before, -⟩
  · exact .inr meets
  · exact .inl before

theorem putParticipant (vetted : records.Vetted entry repetition)
    {present updated : Participant} (stored : present ∈ records.participants.rows)
    (sameId : updated.id = present.id) (sameCalendar : updated.calendarId = present.calendarId) :
    Vetted { records with participants := records.participants.put updated } entry
      repetition := by
  refine vetted.mono ?_ (fun _ inside => .inl inside) fun _ inside => .inl inside
  intro calendar participantId member
  exact member.of_put stored sameId sameCalendar

end Records.Vetted

/-! ## Steps and runs -/

namespace Board

theorem calendars_perform (surroundings : Surroundings) (board : Board) (operation : Operation) :
    (board.perform surroundings operation).board.records.calendars = board.records.calendars := by
  cases perform_change surroundings board operation with
  | nothing tokens outages more fewer reaches => rw [reaches.board]
  | enter number asked decided absent next publishes => rw [publishes.records]; rfl
  | revise asked decided publishes => rw [publishes.records]; rfl
  | withdraw asked decided publishes => rw [publishes.records]; rfl
  | agree number asked located decided next reaches => rw [reaches.board]; rfl
  | amend asked owned decided reaches => rw [reaches.board]; rfl
  | drop asked owned reaches => rw [reaches.board]; rfl
  | exclude number asked decided absent next reaches => rw [reaches.board]
  | restore asked decided reaches =>
    rw [reaches.board, Records.removeExclusion]
    split <;> rfl
  | request asked stored lasts publishes => rw [publishes.records]; rfl
  | confirm asked found unverified timely reaches => rw [reaches.board]; rfl
  | check asked events follows =>
    obtain ⟨log, outages, -, after⟩ := board_checkThreshold surroundings board _ _ _
    rw [follows.board, after]
  | clean asked retained reaches => rw [reaches.board]
  | advance asked moved reaches => rw [reaches.board]

theorem calendars_after (board : Board) (run : List (Surroundings × Operation)) :
    (board.after run).records.calendars = board.records.calendars := by
  induction run generalizing board with
  | nil => rfl
  | cons head rest ih => rw [after, ih, calendars_perform]

/-- An operation stores nothing that does not meet the conditions. -/
theorem vetted_perform (surroundings : Surroundings) (board : Board) (operation : Operation)
    (vets : surroundings.Vets entry repetition)
    (vetted : board.records.Vetted entry repetition) :
    (board.perform surroundings operation).board.records.Vetted entry repetition := by
  cases perform_change surroundings board operation with
  | nothing tokens outages more fewer reaches => exact reaches.board ▸ vetted
  | enter number asked decided absent next publishes =>
    rw [publishes.records]
    refine vetted.putAvailability fun calendar member => ?_
    rw [member.eq_of_locate (book_eq_ok decided).1]
    exact vets.book decided _
  | @revise token participantId day patch calendar participant revised asked decided publishes =>
    rw [publishes.records]
    refine vetted.putAvailability fun other member => ?_
    obtain ⟨present, -, -, -, slot, known, -, -, -, -, same⟩ := revise_eq_ok decided
    obtain ⟨located, -, found⟩ := present_eq_ok known
    obtain ⟨inside, own, -⟩ := Records.mem_of_availabilityOn? found
    have kept : revised.participantId = present.participantId := by rw [same]
    rw [kept] at member
    have before := vetted.entries present inside other member
    rw [own] at member
    rw [member.eq_of_locate located] at before ⊢
    exact vets.revise known decided before
  | withdraw asked decided publishes =>
    rw [publishes.records]
    refine vetted.mono (fun _ _ member => member) ?_ fun _ inside => .inl inside
    exact fun _ inside => .inl (Table.mem_erase.mp inside).1
  | agree number asked located decided next reaches =>
    rw [reaches.board]
    refine vetted.putRecurrence fun calendar member => ?_
    rw [member.eq_of_locate located]
    exact vets.recurrence decided _ _ _
  | amend asked owned decided reaches =>
    rw [reaches.board]
    obtain ⟨located, -, -, own⟩ := owned_eq_ok owned
    refine vetted.putRecurrence fun calendar member => ?_
    rw [(own ▸ member : board.records.Member calendar _).eq_of_locate located]
    exact vets.terms decided _
  | drop asked owned reaches =>
    rw [reaches.board]
    refine vetted.mono (fun _ _ member => member) (fun _ inside => .inl inside) ?_
    exact fun _ inside => .inl (Table.mem_erase.mp inside).1
  | exclude number asked decided absent next reaches =>
    rw [reaches.board]
    exact ⟨vetted.entries, vetted.repetitions⟩
  | restore asked decided reaches =>
    rw [reaches.board, Records.removeExclusion]
    split
    · exact ⟨vetted.entries, vetted.repetitions⟩
    · exact vetted
  | request asked stored lasts publishes =>
    rw [publishes.records]
    exact vetted.putParticipant stored rfl rfl
  | confirm asked found unverified timely reaches =>
    rw [reaches.board]
    exact vetted.putParticipant (List.mem_of_find?_eq_some found) rfl rfl
  | check asked events follows =>
    obtain ⟨log, outages, -, after⟩ := board_checkThreshold surroundings board _ _ _
    rw [follows.board, after]
    exact vetted
  | clean asked retained reaches => exact reaches.board ▸ vetted
  | advance asked moved reaches => exact reaches.board ▸ vetted

theorem vetted_after (board : Board) (run : List (Surroundings × Operation))
    (vets : ∀ surrounded ∈ run, surrounded.1.Vets entry repetition)
    (vetted : board.records.Vetted entry repetition) :
    (board.after run).records.Vetted entry repetition := by
  induction run generalizing board with
  | nil => exact vetted
  | cons head rest ih =>
    obtain ⟨surroundings, operation⟩ := head
    refine ih _ (fun other inside => vets other (List.mem_cons_of_mem _ inside)) ?_
    exact vetted_perform surroundings board operation (vets _ List.mem_cons_self) vetted

end Board

end Rendezvous
