import Rendezvous.Proofs.Excerpts

/-!
# Boards that agree on a calendar

Two boards may hold the same of one calendar and differ in everything else.  Whatever is decided
on a request by the calendar's token is then decided alike, since nothing but the rows of the
calendar is looked at.
-/

namespace Rendezvous

/-- The next steps have to agree only where the first one gets there. -/
theorem Except.bind_congr {α β : Type} {first : Except Failure α}
    {next next' : α → Except Failure β}
    (same : ∀ value, first = .ok value → next value = next' value) :
    (first >>= next) = (first >>= next') := by
  cases first with
  | error failure => rfl
  | ok value => exact same value rfl

namespace Board

/-- Boards with the same clock that hold the same of a calendar, which alone its token opens. -/
structure AgreesOn (calendar : Calendar) (board other : Board) : Prop where
  opens : board.records.OpensOnly calendar
  opens' : other.records.OpensOnly calendar
  records : other.records.only calendar.id = board.records.only calendar.id
  now : other.now = board.now

namespace AgreesOn

variable {calendar : Calendar} {board other : Board} {participantId : String}

/-! ## Records -/

theorem member? (agrees : AgreesOn calendar board other) (participantId : String) :
    other.records.member? calendar.id participantId
      = board.records.member? calendar.id participantId := by
  rw [← Records.member?_only, agrees.records, Records.member?_only]

theorem locate (agrees : AgreesOn calendar board other) (participantId : String) :
    other.records.locate calendar.publicToken participantId
      = board.records.locate calendar.publicToken participantId := by
  rw [← agrees.opens'.locate_only, agrees.records, agrees.opens.locate_only]

variable {participant : Participant}

theorem availabilityOn? (agrees : AgreesOn calendar board other)
    (member : (board.records.member? calendar.id participantId).isSome) (day : Date) :
    other.records.availabilityOn? participantId day
      = board.records.availabilityOn? participantId day := by
  have member' := agrees.member? participantId ▸ member
  rw [← Records.availabilityOn?_only member', agrees.records, Records.availabilityOn?_only member]

theorem availabilitiesOf (agrees : AgreesOn calendar board other)
    (member : (board.records.member? calendar.id participantId).isSome)
    (start stop : Option Date) :
    other.records.availabilitiesOf participantId start stop
      = board.records.availabilitiesOf participantId start stop := by
  have member' := agrees.member? participantId ▸ member
  rw [← Records.availabilitiesOf_only member', agrees.records,
    Records.availabilitiesOf_only member]

theorem recurrencesOf (agrees : AgreesOn calendar board other)
    (member : (board.records.member? calendar.id participantId).isSome) :
    other.records.recurrencesOf participantId = board.records.recurrencesOf participantId := by
  have member' := agrees.member? participantId ▸ member
  rw [← Records.recurrencesOf_only member', agrees.records, Records.recurrencesOf_only member]

theorem recurrenceOf (agrees : AgreesOn calendar board other)
    (member : (board.records.member? calendar.id participant.id).isSome) (recurrenceId : String) :
    other.records.recurrenceOf participant recurrenceId
      = board.records.recurrenceOf participant recurrenceId := by
  have member' := agrees.member? participant.id ▸ member
  rw [← Records.recurrenceOf_only member', agrees.records, Records.recurrenceOf_only member]

/-- What a recurrence of a member is called is called so on both boards. -/
theorem belongs (agrees : AgreesOn calendar board other) {recurrence : Recurrence}
    (inside : recurrence ∈ board.records.recurrences.rows)
    (member : (board.records.member? calendar.id recurrence.participantId).isSome) :
    other.records.belongs calendar.id recurrence.id := by
  have kept : recurrence ∈ (board.records.only calendar.id).recurrences.rows :=
    List.mem_filter.mpr ⟨inside, member⟩
  rw [← agrees.records] at kept
  obtain ⟨stored, member'⟩ := List.mem_filter.mp kept
  exact Records.belongs_of_mem stored member'

theorem exclusionOn? (agrees : AgreesOn calendar board other) {recurrence : Recurrence}
    (inside : recurrence ∈ board.records.recurrences.rows)
    (member : (board.records.member? calendar.id recurrence.participantId).isSome) (day : Date) :
    other.records.exclusionOn? recurrence.id day
      = board.records.exclusionOn? recurrence.id day := by
  rw [← Records.exclusionOn?_only (agrees.belongs inside member), agrees.records,
    Records.exclusionOn?_only (Records.belongs_of_mem inside member)]

theorem exclusionsOf (agrees : AgreesOn calendar board other) {recurrence : Recurrence}
    (inside : recurrence ∈ board.records.recurrences.rows)
    (member : (board.records.member? calendar.id recurrence.participantId).isSome) :
    other.records.exclusionsOf recurrence.id = board.records.exclusionsOf recurrence.id := by
  rw [← Records.exclusionsOf_only (agrees.belongs inside member), agrees.records,
    Records.exclusionsOf_only (Records.belongs_of_mem inside member)]

theorem checkSpan (agrees : AgreesOn calendar board other) (start stop : Date) :
    other.records.checkSpan calendar.id start stop
      = board.records.checkSpan calendar.id start stop := by
  rw [← Records.checkSpan_only, agrees.records, Records.checkSpan_only]

theorem contributionsBetween (agrees : AgreesOn calendar board other) (start stop : Date) :
    other.records.contributionsBetween calendar.id start stop
      = board.records.contributionsBetween calendar.id start stop := by
  rw [← Records.contributionsBetween_only, agrees.records, Records.contributionsBetween_only]

theorem contributionsOn (agrees : AgreesOn calendar board other) (day : Date) :
    other.records.contributionsOn calendar.id day
      = board.records.contributionsOn calendar.id day := by
  rw [← Records.contributionsOn_only, agrees.records, Records.contributionsOn_only]

/-! ## Decisions -/

theorem openDay (agrees : AgreesOn calendar board other) (surroundings : Surroundings)
    (text : String) :
    other.openDay surroundings text = board.openDay surroundings text := by
  unfold Board.openDay today
  rw [agrees.now]

theorem book (agrees : AgreesOn calendar board other) (surroundings : Surroundings)
    (participantId : String) (request : AvailabilityRequest) :
    other.book surroundings calendar.publicToken participantId request
      = board.book surroundings calendar.publicToken participantId request := by
  unfold Board.book
  simp only [agrees.locate, agrees.openDay]

theorem present (agrees : AgreesOn calendar board other) (surroundings : Surroundings)
    (participantId day : String) :
    other.present surroundings calendar.publicToken participantId day
      = board.present surroundings calendar.publicToken participantId day := by
  unfold Board.present
  rw [agrees.locate]
  apply Except.bind_congr
  rintro ⟨found, participant⟩ located
  obtain ⟨-, member⟩ := agrees.opens.located located
  simp only [agrees.openDay, Records.availabilityOf, agrees.availabilityOn? member]

theorem revise (agrees : AgreesOn calendar board other) (surroundings : Surroundings)
    (participantId day : String) (patch : AvailabilityPatch) :
    other.revise surroundings calendar.publicToken participantId day patch
      = board.revise surroundings calendar.publicToken participantId day patch := by
  unfold Board.revise
  rw [agrees.present, agrees.now]

theorem schedule (agrees : AgreesOn calendar board other) (participantId : String)
    (start stop : Option String) :
    other.schedule calendar.publicToken participantId start stop
      = board.schedule calendar.publicToken participantId start stop := by
  unfold Board.schedule
  rw [agrees.locate]
  apply Except.bind_congr
  rintro ⟨found, participant⟩ located
  obtain ⟨-, member⟩ := agrees.opens.located located
  simp only [agrees.availabilitiesOf member]

theorem terms (agrees : AgreesOn calendar board other)
    (member : (board.records.member? calendar.id participant.id).isSome) (found : Calendar)
    (request : RecurrenceRequest) (replaced : Option String) :
    other.terms found participant request replaced
      = board.terms found participant request replaced := by
  unfold Board.terms
  rw [agrees.recurrencesOf member]

theorem owned (agrees : AgreesOn calendar board other) (participantId recurrenceId : String) :
    other.owned calendar.publicToken participantId recurrenceId
      = board.owned calendar.publicToken participantId recurrenceId := by
  unfold Board.owned
  rw [agrees.locate]
  apply Except.bind_congr
  rintro ⟨found, participant⟩ located
  obtain ⟨-, member⟩ := agrees.opens.located located
  simp only [agrees.recurrenceOf member]

theorem excludable (agrees : AgreesOn calendar board other)
    (participantId recurrenceId day : String) :
    other.excludable calendar.publicToken participantId recurrenceId day
      = board.excludable calendar.publicToken participantId recurrenceId day := by
  unfold Board.excludable
  rw [agrees.owned]

theorem listRecurrences (agrees : AgreesOn calendar board other) (participantId : String) :
    other.listRecurrences calendar.publicToken participantId
      = board.listRecurrences calendar.publicToken participantId := by
  unfold Board.listRecurrences
  rw [agrees.locate]
  apply Except.bind_congr
  rintro ⟨found, participant⟩ located
  obtain ⟨-, member⟩ := agrees.opens.located located
  simp only [agrees.recurrencesOf member]
  refine congrArg Except.ok (List.map_congr_left fun recurrence inside => ?_)
  have member' := Records.isSome_member?_of_mem inside member
  rw [agrees.exclusionsOf (Records.mem_recurrencesOf.mp inside).1 member']

/-! ## Summaries -/

theorem dateSummary (agrees : AgreesOn calendar board other) (day : String) :
    other.dateSummary calendar.publicToken day = board.dateSummary calendar.publicToken day := by
  unfold Board.dateSummary
  rw [agrees.opens.calendarByToken, agrees.opens'.calendarByToken]
  simp only [Except.ok_bind, agrees.checkSpan, agrees.contributionsOn]

theorem rangeSummary (agrees : AgreesOn calendar board other) (start stop : String)
    (requester : Option String) :
    other.rangeSummary calendar.publicToken start stop requester
      = board.rangeSummary calendar.publicToken start stop requester := by
  unfold Board.rangeSummary
  rw [agrees.opens.calendarByToken, agrees.opens'.calendarByToken]
  simp only [Except.ok_bind, agrees.checkSpan, agrees.contributionsBetween]

theorem busyTimes (agrees : AgreesOn calendar board other) (day : String) :
    other.busyTimes calendar.publicToken day = board.busyTimes calendar.publicToken day := by
  unfold Board.busyTimes
  rw [agrees.opens.calendarByToken, agrees.opens'.calendarByToken]
  simp only [Except.ok_bind, agrees.checkSpan, agrees.contributionsOn]

end AgreesOn

end Board

end Rendezvous
