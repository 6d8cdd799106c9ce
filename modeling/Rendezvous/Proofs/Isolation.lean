import Rendezvous.Proofs.Agreement
import Rendezvous.Proofs.Holdings
import Rendezvous.Proofs.Renaming

/-!
# Calendars do not reach each other

Boards that agree on a calendar answer every request by its token alike and agree on it
afterwards, whatever else they hold.  Only a row that is made may go by another name, since it
is given one that no row of its table has, of whichever calendar.
-/

namespace Rendezvous

/-! ## Steps -/

/-- Steps with the same outcome, to boards that hold the same of a calendar. -/
structure Step.Coincides {α : Type} (calendarId : String) (step next : Step α) : Prop where
  outcome : next.outcome = step.outcome
  records : next.board.records.only calendarId = step.board.records.only calendarId

theorem Step.Coincides.map {α β : Type} {calendarId : String} {step next : Step α}
    (coincides : step.Coincides calendarId next) (f : α → β) :
    (step.map f).Coincides calendarId (next.map f) :=
  ⟨congrArg (Except.map f) coincides.outcome, coincides.records⟩

namespace Board

/-- Steps from two boards that answer the same and leave the same of a calendar behind, up to the
ids that they generate. -/
structure Mirrors (names : Renaming) (calendar : Calendar) (board : Board)
    (step next : Step Answer) : Prop where
  keeps : names.Keeps (board.records.only calendar.id)
  outcome : next.outcome = step.outcome.map (Answer.renamed names)
  records : (step.board.records.only calendar.id).Renamed names
    (next.board.records.only calendar.id)

variable {calendar : Calendar} {board other changed changed' : Board} {surroundings : Surroundings}

@[simp] theorem records_publish {α : Type} (event : Event) (value : α) :
    (publish surroundings changed event value).board.records = changed.records :=
  (publishes_publish surroundings changed event value).records

theorem coincides_publish {α : Type} {calendarId : String}
    (same : changed'.records.only calendarId = changed.records.only calendarId)
    (event event' : Event) (value : α) :
    (publish surroundings changed event value).Coincides calendarId
      (publish surroundings changed' event' value) := by
  refine ⟨rfl, ?_⟩
  rw [records_publish, records_publish, same]

theorem mirrors_of_coincides {step next : Step Answer}
    (coincides : step.Coincides calendar.id next) :
    ∃ names, Mirrors names calendar board step next := by
  refine ⟨.refl, Renaming.keeps_refl _, ?_, ?_⟩
  · rw [coincides.outcome, Renaming.answer_renamed_refl]
    cases step.outcome <;> rfl
  · rw [coincides.records]
    exact (Renaming.keeps_refl _).renamed

/-! ## Availabilities -/

theorem only_enter {availability : Availability}
    (member : (board.records.member? calendar.id availability.participantId).isSome)
    (made : availability.id = Fresh.name (Fresh.next board.availabilityIds board.issued)) :
    Records.only
        { board.records with availabilities := board.records.availabilities.put availability }
        calendar.id
      = { board.records.only calendar.id with
        availabilities := (board.records.only calendar.id).availabilities.put availability } := by
  refine Records.only_putAvailability member fun other inside same => ?_
  exact absurd (same.trans made) (Fresh.ne_name_next _ _ _ other inside)

theorem only_revise (opens : board.records.OpensOnly calendar) {participantId day : String}
    {patch : AvailabilityPatch} {found : Calendar} {participant : Participant}
    {revised : Availability}
    (decided : board.revise surroundings calendar.publicToken participantId day patch
      = .ok (found, participant, revised)) :
    Records.only
        { board.records with availabilities := board.records.availabilities.put revised }
        calendar.id
      = { board.records.only calendar.id with
        availabilities := (board.records.only calendar.id).availabilities.put revised } := by
  obtain ⟨present, _, _, _, _, known, -, -, -, -, rfl⟩ := revise_eq_ok decided
  obtain ⟨located, -, found⟩ := present_eq_ok known
  obtain ⟨inside, own, -⟩ := Records.mem_of_availabilityOn? found
  refine Records.only_putAvailability (own ▸ (opens.located located).2) ?_
  intro other inside' same
  rw [Table.eq_of_key inside' inside same]

/-! ## Recurrences -/

theorem createRecurrence_of_agreed {token participantId : String} {request : RecurrenceRequest}
    {found : Calendar} {participant : Participant} {terms : Terms}
    (located : board.records.locate token participantId = .ok (found, participant))
    (agreed : board.terms found participant request none = .ok terms) :
    let number := Fresh.next board.recurrenceIds board.issued
    let recurrence := terms.recurrence participant.id (Fresh.name number) board.now
    board.createRecurrence token participantId request
      = .answer { board.putRecurrence recurrence with issued := number } recurrence := by
  rw [createRecurrence, located]
  simp only [Except.ok_bind, agreed]
  rfl

theorem only_amend (opens : board.records.OpensOnly calendar)
    {participantId recurrenceId : String} {found : Calendar} {participant : Participant}
    {present : Recurrence} (terms : Terms)
    (owned : board.owned calendar.publicToken participantId recurrenceId
      = .ok (found, participant, present)) :
    (board.putRecurrence (terms.apply present)).records.only calendar.id
      = { board.records.only calendar.id with
        recurrences := (board.records.only calendar.id).recurrences.put
          (terms.apply present) } := by
  obtain ⟨located, inside, -, own⟩ := owned_eq_ok owned
  have member := own ▸ (opens.located located).2
  refine Records.only_putRecurrence member ?_ ?_
  · intro other inside' same
    rw [Table.eq_of_key inside' inside same]
    rfl
  · have known := Records.belongs_of_mem inside member
    intro _ _ _
    exact known

/-- The recurrence that is made has no exclusion yet. -/
theorem only_agree {recurrence : Recurrence}
    (member : (board.records.member? calendar.id recurrence.participantId).isSome)
    (made : recurrence.id = Fresh.name (Fresh.next board.recurrenceIds board.issued)) :
    Records.only
        { board.records with recurrences := board.records.recurrences.put recurrence } calendar.id
      = { board.records.only calendar.id with
        recurrences := (board.records.only calendar.id).recurrences.put recurrence } := by
  obtain ⟨new, unnamed⟩ := board.ne_nextRecurrenceId
  refine Records.only_putRecurrence member ?_ ?_
  · intro other inside same
    exact absurd (same.trans made) (new other inside)
  · intro exclusion inside same
    exact absurd (same.trans made) (unnamed exclusion inside)

theorem only_exclude {exclusion : Exclusion}
    (belongs : board.records.belongs calendar.id exclusion.recurrenceId)
    (made : exclusion.id = Fresh.name (Fresh.next board.exclusionIds board.issued)) :
    Records.only
        { board.records with exclusions := board.records.exclusions.put exclusion } calendar.id
      = { board.records.only calendar.id with
        exclusions := (board.records.only calendar.id).exclusions.put exclusion } := by
  refine Records.only_putExclusion belongs fun other inside same => ?_
  exact absurd (same.trans made) (Fresh.ne_name_next _ _ _ other inside)

theorem belongs_of_excludable (opens : board.records.OpensOnly calendar)
    {participantId recurrenceId text : String} {recurrence : Recurrence} {day : Date}
    (decided : board.excludable calendar.publicToken participantId recurrenceId text
      = .ok (recurrence, day)) :
    recurrence ∈ board.records.recurrences.rows
      ∧ (board.records.member? calendar.id recurrence.participantId).isSome := by
  obtain ⟨⟨found, participant, owned⟩, -⟩ := excludable_eq_ok decided
  obtain ⟨located, inside, -, own⟩ := owned_eq_ok owned
  exact ⟨inside, own ▸ (opens.located located).2⟩

namespace AgreesOn

variable (agrees : AgreesOn calendar board other)

include agrees

/-! ## Rows that are made -/

/-- No row that both boards hold of the calendar has an id that either makes. -/
theorem new_row {α : Type} [Keyed α] (table : Records → Table α)
    (kept : ∀ records : Records, (table (records.only calendar.id)).rows ⊆ (table records).rows) :
    ∀ row ∈ (table (board.records.only calendar.id)).rows,
      Keyed.key row
          ≠ Fresh.name (Fresh.next ((table board.records).rows.map Keyed.key) board.issued)
        ∧ Keyed.key row
          ≠ Fresh.name (Fresh.next ((table other.records).rows.map Keyed.key) other.issued) := by
  intro row inside
  have inside' := agrees.records ▸ inside
  exact ⟨Fresh.ne_name_next _ _ _ row (kept _ inside),
    Fresh.ne_name_next _ _ _ row (kept _ inside')⟩

theorem new_availability :
    ∀ availability ∈ (board.records.only calendar.id).availabilities.rows,
      availability.id ≠ Fresh.name (Fresh.next board.availabilityIds board.issued)
        ∧ availability.id ≠ Fresh.name (Fresh.next other.availabilityIds other.issued) :=
  agrees.new_row Records.availabilities fun _ _ => List.mem_of_mem_filter

theorem new_recurrence :
    ∀ recurrence ∈ (board.records.only calendar.id).recurrences.rows,
      recurrence.id ≠ Fresh.name (Fresh.next board.recurrenceIds board.issued)
        ∧ recurrence.id ≠ Fresh.name (Fresh.next other.recurrenceIds other.issued) := by
  intro recurrence inside
  have inside' := agrees.records ▸ inside
  exact ⟨board.ne_nextRecurrenceId.1 recurrence (List.mem_of_mem_filter inside),
    other.ne_nextRecurrenceId.1 recurrence (List.mem_of_mem_filter inside')⟩

theorem new_exclusion :
    ∀ exclusion ∈ (board.records.only calendar.id).exclusions.rows,
      exclusion.id ≠ Fresh.name (Fresh.next board.exclusionIds board.issued)
        ∧ exclusion.id ≠ Fresh.name (Fresh.next other.exclusionIds other.issued) :=
  agrees.new_row Records.exclusions fun _ _ => List.mem_of_mem_filter

theorem mirrors_createAvailability (participantId : String) (request : AvailabilityRequest) :
    ∃ names, Mirrors names calendar board
      ((board.createAvailability surroundings calendar.publicToken participantId request).map
        .receipt)
      ((other.createAvailability surroundings calendar.publicToken participantId request).map
        .receipt) := by
  have decided' := agrees.book surroundings participantId request
  cases decided : board.book surroundings calendar.publicToken participantId request with
  | error failure =>
    rw [createAvailability, createAvailability, decided', decided]
    exact mirrors_of_coincides ⟨rfl, agrees.records⟩
  | ok booking =>
    rw [decided] at decided'
    obtain ⟨-, member⟩ := agrees.opens.located (book_eq_ok decided).1
    have found' := agrees.availabilityOn? member booking.day
    cases found : board.records.availabilityOn? booking.participant.id booking.day with
    | some present =>
      rw [createAvailability_of_some decided found,
        createAvailability_of_some decided' (found'.trans found)]
      exact mirrors_of_coincides ⟨rfl, agrees.records⟩
    | none =>
      rw [createAvailability_of_none decided found,
        createAvailability_of_none decided' (found'.trans found)]
      have keeps := Renaming.keeps_ofAvailability agrees.new_availability
      refine ⟨_, keeps, ?_, ?_⟩
      · simp [Step.map, publish, Except.map, Answer.renamed, Receipt.renamed, Receipt.of,
          Renaming.ofAvailability, agrees.now, Booking.availability]
      · have member' := agrees.member? booking.participant.id ▸ member
        simp only [Step.map, records_publish, counted]
        rw [only_enter member rfl, only_enter member' rfl, agrees.records]
        refine { keeps.renamed with availabilities := ?_ }
        apply Table.rows_put_renamed _ _ agrees.new_availability
        · intro availability inside
          exact keeps.availability_renamed inside
        · simp [Booking.availability, Availability.renamed, Renaming.ofAvailability, agrees.now]

theorem coincides_updateAvailability (participantId day : String) (patch : AvailabilityPatch) :
    (board.updateAvailability surroundings calendar.publicToken participantId day patch).Coincides
      calendar.id
      (other.updateAvailability surroundings calendar.publicToken participantId day patch) := by
  have decided' := agrees.revise surroundings participantId day patch
  rw [updateAvailability, updateAvailability, decided']
  cases decided : board.revise surroundings calendar.publicToken participantId day patch with
  | error failure => exact ⟨rfl, agrees.records⟩
  | ok found =>
    obtain ⟨found, participant, revised⟩ := found
    dsimp only
    rw [board_countBefore, board_countBefore]
    apply coincides_publish
    dsimp only
    rw [only_revise agrees.opens decided, only_revise agrees.opens' (decided'.trans decided),
      agrees.records]

theorem coincides_deleteAvailability (participantId day : String) :
    (board.deleteAvailability surroundings calendar.publicToken participantId day).Coincides
      calendar.id
      (other.deleteAvailability surroundings calendar.publicToken participantId day) := by
  rw [deleteAvailability, deleteAvailability, agrees.present]
  cases board.present surroundings calendar.publicToken participantId day with
  | error failure => exact ⟨rfl, agrees.records⟩
  | ok found =>
    dsimp only
    rw [board_countBefore, board_countBefore]
    apply coincides_publish
    dsimp only
    rw [Records.only_eraseAvailability, Records.only_eraseAvailability, agrees.records]

theorem mirrors_createRecurrence (participantId : String) (request : RecurrenceRequest) :
    ∃ names, Mirrors names calendar board
      ((board.createRecurrence calendar.publicToken participantId request).map .recurrence)
      ((other.createRecurrence calendar.publicToken participantId request).map .recurrence) := by
  have located' := agrees.locate participantId
  cases located : board.records.locate calendar.publicToken participantId with
  | error failure =>
    rw [createRecurrence, createRecurrence, located', located]
    exact mirrors_of_coincides ⟨rfl, agrees.records⟩
  | ok found =>
    obtain ⟨found, participant⟩ := found
    rw [located] at located'
    obtain ⟨-, member⟩ := agrees.opens.located located
    have agreed' := agrees.terms member found request none
    cases agreed : board.terms found participant request none with
    | error failure =>
      rw [createRecurrence, createRecurrence, located', located]
      simp only [Except.ok_bind, agreed', agreed]
      exact mirrors_of_coincides ⟨rfl, agrees.records⟩
    | ok terms =>
      rw [createRecurrence_of_agreed located agreed,
        createRecurrence_of_agreed located' (agreed'.trans agreed)]
      have keeps := Renaming.keeps_ofRecurrence agrees.new_recurrence
      refine ⟨_, keeps, ?_, ?_⟩
      · simp [Step.map, Step.answer, Except.map, Answer.renamed, Recurrence.renamed,
          Renaming.ofRecurrence, Terms.recurrence, agrees.now]
      · have member' := agrees.member? participant.id ▸ member
        dsimp only [Step.map, Step.answer, putRecurrence]
        rw [only_agree member rfl, only_agree member' rfl, agrees.records]
        refine { keeps.renamed with recurrences := ?_ }
        apply Table.rows_put_renamed _ _ agrees.new_recurrence
        · intro recurrence inside
          exact keeps.recurrence_renamed inside
        · simp [Recurrence.renamed, Renaming.ofRecurrence, Terms.recurrence, agrees.now]

theorem coincides_updateRecurrence (participantId recurrenceId : String)
    (request : RecurrenceRequest) :
    (board.updateRecurrence calendar.publicToken participantId recurrenceId request).Coincides
      calendar.id
      (other.updateRecurrence calendar.publicToken participantId recurrenceId request) := by
  have owned' := agrees.owned participantId recurrenceId
  rw [updateRecurrence, updateRecurrence, owned']
  cases owned : board.owned calendar.publicToken participantId recurrenceId with
  | error failure => exact ⟨rfl, agrees.records⟩
  | ok found =>
    obtain ⟨found, participant, present⟩ := found
    obtain ⟨-, member⟩ := agrees.opens.located (owned_eq_ok owned).1
    simp only [Except.ok_bind, agrees.terms member]
    cases board.terms found participant request (some present.id) with
    | error failure => exact ⟨rfl, agrees.records⟩
    | ok terms =>
      refine ⟨rfl, ?_⟩
      refine (only_amend agrees.opens' terms (owned'.trans owned)).trans ?_
      rw [agrees.records]
      exact (only_amend agrees.opens terms owned).symm

theorem coincides_deleteRecurrence (participantId recurrenceId : String) :
    (board.deleteRecurrence calendar.publicToken participantId recurrenceId).Coincides
      calendar.id (other.deleteRecurrence calendar.publicToken participantId recurrenceId) := by
  rw [deleteRecurrence, deleteRecurrence, agrees.owned]
  cases board.owned calendar.publicToken participantId recurrenceId with
  | error failure => exact ⟨rfl, agrees.records⟩
  | ok found =>
    refine ⟨rfl, ?_⟩
    dsimp only [Step.answer]
    rw [Records.only_removeRecurrence, Records.only_removeRecurrence, agrees.records]

theorem mirrors_createExclusion (participantId recurrenceId : String)
    (request : ExclusionRequest) :
    ∃ names, Mirrors names calendar board
      ((board.createExclusion calendar.publicToken participantId recurrenceId request).map
        .exclusion)
      ((other.createExclusion calendar.publicToken participantId recurrenceId request).map
        .exclusion) := by
  have decided' := agrees.excludable participantId recurrenceId request.day
  cases decided : board.excludable calendar.publicToken participantId recurrenceId request.day with
  | error failure =>
    rw [createExclusion, createExclusion, decided', decided]
    exact mirrors_of_coincides ⟨rfl, agrees.records⟩
  | ok found =>
    obtain ⟨recurrence, day⟩ := found
    rw [decided] at decided'
    obtain ⟨inside, member⟩ := belongs_of_excludable agrees.opens decided
    have found' := agrees.exclusionOn? inside member day
    cases found : board.records.exclusionOn? recurrence.id day with
    | some present =>
      rw [createExclusion, createExclusion, decided', decided]
      dsimp only
      rw [found', found]
      exact mirrors_of_coincides ⟨rfl, agrees.records⟩
    | none =>
      rw [createExclusion_of_none decided found,
        createExclusion_of_none decided' (found'.trans found)]
      have keeps := Renaming.keeps_ofExclusion agrees.new_exclusion
      refine ⟨_, keeps, ?_, ?_⟩
      · simp [Step.map, Step.answer, Except.map, Answer.renamed, Exclusion.renamed,
          Renaming.ofExclusion, agrees.now]
      · have belongs := Records.belongs_of_mem inside member
        dsimp only [Step.map, Step.answer]
        rw [only_exclude belongs rfl, only_exclude (agrees.belongs inside member) rfl,
          agrees.records]
        refine { keeps.renamed with exclusions := ?_ }
        apply Table.rows_put_renamed _ _ agrees.new_exclusion
        · intro exclusion inside
          exact keeps.exclusion_renamed inside
        · simp [Exclusion.renamed, Renaming.ofExclusion, agrees.now]

theorem coincides_deleteExclusion (participantId recurrenceId day : String) :
    (board.deleteExclusion calendar.publicToken participantId recurrenceId day).Coincides
      calendar.id
      (other.deleteExclusion calendar.publicToken participantId recurrenceId day) := by
  rw [deleteExclusion, deleteExclusion, agrees.excludable]
  cases decided : board.excludable calendar.publicToken participantId recurrenceId day with
  | error failure => exact ⟨rfl, agrees.records⟩
  | ok found =>
    obtain ⟨recurrence, day⟩ := found
    obtain ⟨inside, member⟩ := belongs_of_excludable agrees.opens decided
    refine ⟨rfl, ?_⟩
    dsimp only [Step.answer]
    rw [Records.only_removeExclusion (Records.belongs_of_mem inside member),
      Records.only_removeExclusion (agrees.belongs inside member), agrees.records]

theorem coincides_look {α : Type} {outcome outcome' : Except Failure α}
    (same : outcome' = outcome) (f : α → Answer) :
    (Step.look board (outcome.map f)).Coincides calendar.id (.look other (outcome'.map f)) :=
  ⟨congrArg (Except.map f) same, agrees.records⟩

/-- Boards that agree on a calendar mirror every operation by its token. -/
theorem mirrors_perform {operation : Operation}
    (addressed : operation.token? = some calendar.publicToken) :
    ∃ names, Mirrors names calendar board (board.perform surroundings operation)
      (other.perform surroundings operation) := by
  cases operation <;> cases addressed
  case createAvailability => exact agrees.mirrors_createAvailability _ _
  case updateAvailability =>
    exact mirrors_of_coincides ((agrees.coincides_updateAvailability _ _ _).map _)
  case deleteAvailability =>
    exact mirrors_of_coincides ((agrees.coincides_deleteAvailability _ _).map _)
  case listAvailabilities =>
    exact mirrors_of_coincides (agrees.coincides_look (agrees.schedule _ _ _) _)
  case dateSummary =>
    exact mirrors_of_coincides (agrees.coincides_look (agrees.dateSummary _) _)
  case rangeSummary =>
    exact mirrors_of_coincides (agrees.coincides_look (agrees.rangeSummary _ _ _) _)
  case busyTimes =>
    exact mirrors_of_coincides (agrees.coincides_look (agrees.busyTimes _) _)
  case createRecurrence => exact agrees.mirrors_createRecurrence _ _
  case updateRecurrence =>
    exact mirrors_of_coincides ((agrees.coincides_updateRecurrence _ _ _).map _)
  case deleteRecurrence =>
    exact mirrors_of_coincides ((agrees.coincides_deleteRecurrence _ _).map _)
  case listRecurrences =>
    exact mirrors_of_coincides (agrees.coincides_look (agrees.listRecurrences _) _)
  case createExclusion => exact agrees.mirrors_createExclusion _ _ _
  case deleteExclusion =>
    exact mirrors_of_coincides ((agrees.coincides_deleteExclusion _ _ _).map _)

end AgreesOn

/-! ## Isolation -/

section

variable {participantId recurrenceId : String}

theorem locate_of_stranger (opens : board.records.OpensOnly calendar)
    (stranger : board.records.member? calendar.id participantId = none) :
    board.records.locate calendar.publicToken participantId
      = .error (.refused .participantNotFound) := by
  rw [Records.locate, opens.calendarByToken, Except.ok_bind]
  cases found : board.records.participantIn calendar participantId with
  | ok participant =>
    obtain ⟨inside, rfl, of⟩ := Records.participantIn_eq_ok found
    have known := Records.isSome_member? inside
    rw [of, stranger] at known
    cases known
  | error failure =>
    rw [Records.participantIn] at found
    split at found <;> cases found
    rfl

theorem owned_of_foreign (opens : board.records.OpensOnly calendar)
    (member : (board.records.member? calendar.id participantId).isSome)
    (foreign : ∀ recurrence ∈ board.records.recurrences.rows, recurrence.id = recurrenceId →
      recurrence.participantId ≠ participantId) :
    board.owned calendar.publicToken participantId recurrenceId
      = .error (.refused .recurrenceNotFound) := by
  obtain ⟨participant, rfl, located⟩ := Records.exists_locate opens.calendarByToken member
  rw [owned, located, Except.ok_bind]
  dsimp only
  cases found : board.records.recurrenceOf participant recurrenceId with
  | ok recurrence =>
    obtain ⟨inside, same, own⟩ := Records.recurrenceOf_eq_ok found
    exact absurd own (foreign recurrence inside same)
  | error failure =>
    rw [Records.recurrenceOf] at found
    split at found <;> cases found
    rfl

end

/-- A calendar is isolated from whatever else is stored.  By its token every operation is answered
alike on boards that agree on it, they agree on it afterwards, and nobody has anything else than
before but the participant of the calendar for whom it is asked.  A participant of another
calendar, or a recurrence of another participant, is as good as none. -/
theorem isolated (surroundings : Surroundings) (operation : Operation)
    (agrees : AgreesOn calendar board other)
    (addressed : operation.token? = some calendar.publicToken) :
    (∃ names, Mirrors names calendar board (board.perform surroundings operation)
      (other.perform surroundings operation))
    ∧ ∀ start ∈ [board, other],
      (∀ participantId, operation.participant? ≠ some participantId
          ∨ start.records.member? calendar.id participantId = none →
        start.records.Spares (start.perform surroundings operation).board.records participantId)
      ∧ (∀ participantId, operation.participant? = some participantId →
        start.records.member? calendar.id participantId = none →
        start.perform surroundings operation = .fail start (.refused .participantNotFound))
      ∧ (∀ participantId recurrenceId, operation.participant? = some participantId →
        operation.recurrence? = some recurrenceId →
        (start.records.member? calendar.id participantId).isSome →
        (∀ recurrence ∈ start.records.recurrences.rows, recurrence.id = recurrenceId →
          recurrence.participantId ≠ participantId) →
        start.perform surroundings operation = .fail start (.refused .recurrenceNotFound)) := by
  refine ⟨agrees.mirrors_perform addressed, ?_⟩
  intro start among
  have opens : start.records.OpensOnly calendar := by
    simp only [List.mem_cons, List.not_mem_nil, or_false] at among
    rcases among with rfl | rfl
    · exact agrees.opens
    · exact agrees.opens'
  refine ⟨?_, ?_, ?_⟩
  · intro participantId unnamed
    refine spares_perform addressed fun located asks found => ?_
    rcases unnamed with unnamed | stranger
    · exact unnamed asks
    · rw [locate_of_stranger opens stranger] at found
      cases found
  · intro participantId asks stranger
    exact perform_of_not_located addressed asks (locate_of_stranger opens stranger)
  · intro participantId recurrenceId asks about member foreign
    exact perform_of_not_owned addressed asks about (owned_of_foreign opens member foreign)

/-- The sample calendar beside another, a participant of which took the id that is generated
next, and an exclusion from no recurrence that refers to it. -/
def sampleBeside : Board :=
  { sample with
    records :=
      { sample.records with
        calendars := ⟨[{ Calendar.sample with id := "den", publicToken := "shut" }, .sample],
          by decide⟩
        participants :=
          ⟨[.sample "ann" "Ann", { Participant.sample "eve" "Eve" with calendarId := "den" },
            .sample "bob" "Bob"], by decide⟩
        availabilities := ⟨[.sample (Fresh.name 1) "eve" ⟨0, some 0⟩], by decide⟩
        exclusions :=
          ⟨[⟨"stray", Fresh.name 1, .sample, sample.now⟩], Table.nodup_single _⟩ } }

/-- A recurrence goes by another name beside the other calendar, and is the same but for that;
whoever is a participant of the other calendar alone is nobody here, and keeps what they have. -/
theorem isolated_sample :
    let agreed := Operation.createRecurrence "open" "ann"
      ⟨some 4, none, none, none, "2025-06-19", none⟩
    AgreesOn .sample sample sampleBeside
      ∧ agreed.token? = some Calendar.sample.publicToken
      ∧ (sampleBeside.perform .sample agreed).outcome ≠ (sample.perform .sample agreed).outcome
      ∧ (∃ names, Mirrors names .sample sample (sample.perform .sample agreed)
        (sampleBeside.perform .sample agreed))
      ∧ (sampleBeside.records.holdings "eve").availabilities.length = 1
      ∧ sampleBeside.records.Spares (sampleBeside.perform .sample agreed).board.records "eve"
      ∧ sampleBeside.perform .sample (.sampleEntry "eve")
        = .fail sampleBeside (.refused .participantNotFound) := by
  intro agreed
  have agrees : AgreesOn .sample sample sampleBeside := by
    refine ⟨⟨by decide, ?_⟩, ⟨by decide, ?_⟩, by decide +kernel, rfl⟩
    · intro other inside same
      simpa [sample] using inside
    · intro other inside same
      simp only [sampleBeside, List.mem_cons, List.not_mem_nil, or_false] at inside
      rcases inside with rfl | rfl
      · exact absurd same (by decide)
      · rfl
  obtain ⟨mirrored, each⟩ := isolated .sample agreed agrees rfl
  obtain ⟨-, each'⟩ := isolated .sample (.sampleEntry "eve") agrees rfl
  obtain ⟨spared, -, -⟩ := each sampleBeside (by simp)
  obtain ⟨-, refused, -⟩ := each' sampleBeside (by simp)
  exact ⟨agrees, rfl, by decide +kernel, mirrored, by decide +kernel,
    spared "eve" (.inl (by decide)), refused "eve" rfl (by decide +kernel)⟩

end Board

end Rendezvous
