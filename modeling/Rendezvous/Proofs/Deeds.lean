import Rendezvous.Proofs.Course

/-!
# Deeds

An operation on an availability is decided on before anything is written.  `deed?` is the
decision: to refuse, to enter, to revise or to withdraw.  What is answered and what is stored
follows from the deed, from the clock, and from the id that a new row is given, and the deed
follows from what is stored for the participant on the day.
-/

namespace Rendezvous

/-- The participant and the day of the availability that an operation enters, changes or
withdraws. -/
def Operation.place? : Operation → Option (String × Except Failure Date)
  | .createAvailability _ participantId request => some (participantId, Date.request request.day)
  | .updateAvailability _ participantId day _ => some (participantId, Date.request day)
  | .deleteAvailability _ participantId day => some (participantId, Date.request day)
  | _ => none

namespace Board

/-- What an operation on an availability comes to. -/
inductive Deed where
  | refuse (failure : Failure)
  | enter (booking : Booking) (note : Option String)
  | revise (participant : Participant) (revised : Availability)
  | withdraw (present : Availability)

namespace Deed

/-- The id that a deed gives to a new row is told by whoever knows the names that are taken. -/
def answer (made : String) (now : Instant) : Deed → Except Failure Answer
  | .refuse failure => .error failure
  | .enter booking note =>
      .ok (.receipt (.of booking.participant (booking.availability note made now)))
  | .revise participant revised => .ok (.receipt (.of participant revised))
  | .withdraw _ => .ok .done

def write (made : String) (now : Instant) (table : Table Availability) :
    Deed → Table Availability
  | .refuse _ => table
  | .enter booking note => table.put (booking.availability note made now)
  | .revise _ revised => table.put revised
  | .withdraw present => table.erase present.id

/-- Whether a deed makes a new row. -/
def isEntry : Deed → Bool
  | .enter .. => true
  | _ => false

end Deed

/-- The number of the next availability that is made. -/
def nextNumber (board : Board) : Nat := Fresh.next board.availabilityIds board.issued

def nextId (board : Board) : String := Fresh.name board.nextNumber

theorem nextId_congr {board other : Board} (ids : board.availabilityIds = other.availabilityIds)
    (issued : board.issued = other.issued) : board.nextId = other.nextId := by
  unfold nextId nextNumber
  rw [ids, issued]

theorem nextId_not_mem (board : Board) : board.nextId ∉ board.availabilityIds :=
  Fresh.name_next_not_mem _ _

theorem ne_nextId (board : Board) :
    ∀ availability ∈ board.records.availabilities.rows, availability.id ≠ board.nextId :=
  Fresh.ne_name_next Availability.id _ _

def deed? (surroundings : Surroundings) (board : Board) : Operation → Option Deed
  | .createAvailability token participantId request =>
      match board.book surroundings token participantId request with
      | .error failure => some (.refuse failure)
      | .ok booking =>
          match board.records.availabilityOn? booking.participant.id booking.day with
          | some _ => some (.refuse (.refused .availabilityExists))
          | none => some (.enter booking request.note)
  | .updateAvailability token participantId day patch =>
      match board.revise surroundings token participantId day patch with
      | .error failure => some (.refuse failure)
      | .ok (_, participant, revised) => some (.revise participant revised)
  | .deleteAvailability token participantId day =>
      match board.present surroundings token participantId day with
      | .error failure => some (.refuse failure)
      | .ok (_, _, present) => some (.withdraw present)
  | _ => none

/-- A step that answers and stores what a deed comes to. -/
structure Does (board : Board) (deed : Deed) (step : Step Answer) : Prop where
  outcome : step.outcome = deed.answer board.nextId board.now
  records : step.board.records =
    { board.records with
      availabilities := deed.write board.nextId board.now board.records.availabilities }
  now : step.board.now = board.now
  issued : step.board.issued = if deed.isEntry then board.nextNumber else board.issued

variable {surroundings : Surroundings} {board : Board} {operation : Operation} {deed : Deed}

theorem does_fail (failure : Failure) (outages : Nat) :
    board.Does (.refuse failure) (.fail { board with countOutages := outages } failure) :=
  ⟨rfl, rfl, rfl, rfl⟩

/-- What is published after a change answers and stores what the change is. -/
theorem does_publish {α : Type} {changed : Board} {event : Event} {told : α} {f : α → Answer}
    (answered : deed.answer board.nextId board.now = .ok (f told))
    (written : changed.records =
      { board.records with
        availabilities := deed.write board.nextId board.now board.records.availabilities })
    (now : changed.now = board.now)
    (issued : changed.issued = if deed.isEntry then board.nextNumber else board.issued) :
    board.Does deed ((publish surroundings changed event told).map f) := by
  obtain ⟨log, outages, -, reached⟩ := (publishes_publish surroundings changed event told).board
  have reached' : ((publish surroundings changed event told).map f).board
      = { changed with log := log, countOutages := outages } := reached
  refine ⟨answered.symm, ?_, ?_, ?_⟩ <;> rw [reached']
  · exact written
  · exact now
  · exact issued

/-- An operation on an availability does what it was decided to. -/
theorem perform_deed (decided : board.deed? surroundings operation = some deed) :
    board.Does deed (board.perform surroundings operation) := by
  cases operation with
  | createAvailability token participantId request =>
    unfold deed? at decided
    dsimp only [perform]
    cases booked : board.book surroundings token participantId request with
    | error failure =>
      rw [createAvailability, booked]
      simp only [booked, Option.some.injEq] at decided
      exact decided ▸ does_fail failure board.countOutages
    | ok booking =>
      simp only [booked] at decided
      cases found : board.records.availabilityOn? booking.participant.id booking.day with
      | some present =>
        rw [createAvailability_of_some booked found]
        simp only [found, Option.some.injEq] at decided
        exact decided ▸ does_fail _ (board.countOutages - 1)
      | none =>
        rw [createAvailability_of_none booked found]
        simp only [found, Option.some.injEq] at decided
        exact decided ▸ does_publish rfl rfl rfl rfl
  | updateAvailability token participantId day patch =>
    unfold deed? at decided
    dsimp only [perform]
    cases revised : board.revise surroundings token participantId day patch with
    | error failure =>
      rw [updateAvailability, revised]
      simp only [revised, Option.some.injEq] at decided
      exact decided ▸ does_fail failure board.countOutages
    | ok found =>
      rw [updateAvailability_of_revise revised]
      simp only [revised, Option.some.injEq] at decided
      exact decided ▸ does_publish rfl rfl rfl rfl
  | deleteAvailability token participantId day =>
    unfold deed? at decided
    dsimp only [perform]
    cases known : board.present surroundings token participantId day with
    | error failure =>
      rw [deleteAvailability, known]
      simp only [known, Option.some.injEq] at decided
      exact decided ▸ does_fail failure board.countOutages
    | ok found =>
      rw [deleteAvailability_of_present known]
      simp only [known, Option.some.injEq] at decided
      exact decided ▸ does_publish rfl rfl rfl rfl
  | _ => cases decided

/-- Why a deed was decided on, where it was not to refuse. -/
inductive Decided (surroundings : Surroundings) (board : Board) : Operation → Deed → Prop where
  | refuse {operation : Operation} (failure : Failure) :
      Decided surroundings board operation (.refuse failure)
  | enter {token participantId : String} {request : AvailabilityRequest} {booking : Booking}
      (booked : board.book surroundings token participantId request = .ok booking)
      (absent : board.records.availabilityOn? booking.participant.id booking.day = none) :
      Decided surroundings board (.createAvailability token participantId request)
        (.enter booking request.note)
  | revise {token participantId day : String} {patch : AvailabilityPatch} {calendar : Calendar}
      {participant : Participant} {revised : Availability}
      (changed : board.revise surroundings token participantId day patch
        = .ok (calendar, participant, revised)) :
      Decided surroundings board (.updateAvailability token participantId day patch)
        (.revise participant revised)
  | withdraw {token participantId day : String} {calendar : Calendar} {participant : Participant}
      {present : Availability}
      (known : board.present surroundings token participantId day
        = .ok (calendar, participant, present)) :
      Decided surroundings board (.deleteAvailability token participantId day) (.withdraw present)

theorem decided_of_deed? (found : board.deed? surroundings operation = some deed) :
    board.Decided surroundings operation deed := by
  cases operation with
  | createAvailability token participantId request =>
    unfold deed? at found
    cases booked : board.book surroundings token participantId request with
    | error failure =>
      simp only [booked, Option.some.injEq] at found
      exact found ▸ .refuse failure
    | ok booking =>
      simp only [booked] at found
      cases stored : board.records.availabilityOn? booking.participant.id booking.day with
      | some present =>
        simp only [stored, Option.some.injEq] at found
        exact found ▸ .refuse _
      | none =>
        simp only [stored, Option.some.injEq] at found
        exact found ▸ .enter booked stored
  | updateAvailability token participantId day patch =>
    unfold deed? at found
    cases changed : board.revise surroundings token participantId day patch with
    | error failure =>
      simp only [changed, Option.some.injEq] at found
      exact found ▸ .refuse failure
    | ok revision =>
      simp only [changed, Option.some.injEq] at found
      exact found ▸ .revise changed
  | deleteAvailability token participantId day =>
    unfold deed? at found
    cases known : board.present surroundings token participantId day with
    | error failure =>
      simp only [known, Option.some.injEq] at found
      exact found ▸ .refuse failure
    | ok present =>
      simp only [known, Option.some.injEq] at found
      exact found ▸ .withdraw known
  | _ => cases found

/-! ## What a deed is about -/

/-- A deed on the availability of a participant on a day.  What it enters was not there, and what
it revises or withdraws was. -/
inductive Deed.Fits (records : Records) (participantId : String) (day : Date) : Deed → Prop where
  | enter {booking : Booking} {note : Option String}
      (own : booking.participant.id = participantId) (on : booking.day = day)
      (absent : records.availabilityOn? participantId day = none) :
      Fits records participantId day (.enter booking note)
  | revise {participant : Participant} {present revised : Availability}
      (own : participant.id = participantId)
      (found : records.availabilityOn? participantId day = some present)
      (same : ∃ slot note updatedAt,
        revised = { present with slot := slot, note := note, updatedAt := updatedAt }) :
      Fits records participantId day (.revise participant revised)
  | withdraw {present : Availability}
      (found : records.availabilityOn? participantId day = some present) :
      Fits records participantId day (.withdraw present)

theorem openDay_eq_ok {text : String} {day : Date}
    (opened : board.openDay surroundings text = .ok day) :
    Date.request text = .ok day ∧ board.today surroundings ≤ day := by
  simp only [openDay, Except.bind_eq_ok_iff, Refusal.unless_eq_ok_iff, decide_eq_true_eq] at opened
  obtain ⟨read, requested, -, late, same⟩ := opened
  cases same
  exact ⟨requested, late⟩

/-- What is not refused is about the participant and the day that the operation names. -/
theorem Decided.fits {participantId : String} {named : Except Failure Date}
    (decided : board.Decided surroundings operation deed)
    (asks : operation.place? = some (participantId, named)) :
    (∃ failure, deed = .refuse failure)
      ∨ ∃ day, named = .ok day ∧ deed.Fits board.records participantId day := by
  cases decided with
  | refuse failure => exact .inl ⟨failure, rfl⟩
  | enter booked absent =>
    cases asks
    obtain ⟨located, opened, -⟩ := book_eq_ok booked
    obtain ⟨-, -, own, -⟩ := Records.locate_eq_ok located
    exact .inr ⟨_, (openDay_eq_ok opened).1, .enter own rfl (own ▸ absent)⟩
  | revise changed =>
    cases asks
    obtain ⟨present, _, _, _, slot, known, -, -, -, -, same⟩ := revise_eq_ok changed
    obtain ⟨located, opened, stored⟩ := present_eq_ok known
    obtain ⟨-, -, own, -⟩ := Records.locate_eq_ok located
    exact .inr ⟨_, (openDay_eq_ok opened).1, .revise own (own ▸ stored) ⟨slot, _, _, same⟩⟩
  | withdraw known =>
    cases asks
    obtain ⟨located, opened, stored⟩ := present_eq_ok known
    obtain ⟨-, -, own, -⟩ := Records.locate_eq_ok located
    exact .inr ⟨_, (openDay_eq_ok opened).1, .withdraw (own ▸ stored)⟩

/-- A deed that fits is an edit, by whatever new id. -/
theorem Deed.Fits.edit {participantId : String} {day : Date}
    (fits : deed.Fits board.records participantId day) (made : String) (now : Instant)
    (fresh : ∀ other ∈ board.records.availabilities.rows, other.id ≠ made) :
    board.records.Edit now participantId day
      { board.records with
        availabilities := deed.write made now board.records.availabilities } := by
  cases fits with
  | enter own on absent => exact .enter _ own on rfl absent fresh
  | revise own found same =>
    obtain ⟨slot, note, updatedAt, rfl⟩ := same
    exact .revise _ _ found rfl rfl rfl rfl
  | withdraw found => exact .withdraw _ found

theorem exists_deed {place : String × Except Failure Date} (surroundings : Surroundings)
    (board : Board) (asks : operation.place? = some place) :
    ∃ deed, board.deed? surroundings operation = some deed := by
  cases operation with
  | createAvailability token participantId request =>
    unfold deed?
    dsimp only
    repeat' split
    all_goals exact ⟨_, rfl⟩
  | updateAvailability token participantId day patch =>
    unfold deed?
    dsimp only
    split <;> exact ⟨_, rfl⟩
  | deleteAvailability token participantId day =>
    unfold deed?
    dsimp only
    split <;> exact ⟨_, rfl⟩
  | _ => cases asks

/-- An operation on an availability leaves the records alone, or edits what it names. -/
theorem edit_of_place {participantId : String} {named : Except Failure Date} (board : Board)
    (surroundings : Surroundings) (asks : operation.place? = some (participantId, named)) :
    (board.perform surroundings operation).board.records = board.records
      ∨ ∃ day, named = .ok day ∧ board.records.Edit board.now participantId day
        (board.perform surroundings operation).board.records := by
  obtain ⟨deed, decided⟩ := exists_deed surroundings board asks
  rw [(perform_deed decided).records]
  rcases (decided_of_deed? decided).fits asks with ⟨failure, rfl⟩ | ⟨day, read, fits⟩
  · exact .inl rfl
  · exact .inr ⟨day, read, fits.edit board.nextId board.now board.ne_nextId⟩

/-- Any other operation leaves the availabilities alone. -/
theorem availabilities_of_placeless (surroundings : Surroundings) (board : Board)
    (elsewhere : operation.place? = none) :
    (board.perform surroundings operation).board.records.availabilities
      = board.records.availabilities := by
  cases perform_change surroundings board operation with
  | nothing tokens outages more fewer reaches => rw [reaches.board]
  | enter number asked =>
    rw [asked] at elsewhere
    cases elsewhere
  | revise asked =>
    rw [asked] at elsewhere
    cases elsewhere
  | withdraw asked =>
    rw [asked] at elsewhere
    cases elsewhere
  | agree number asked located decided next reaches =>
    rw [reaches.board]
    rfl
  | amend asked owned decided reaches =>
    rw [reaches.board]
    rfl
  | drop asked owned reaches =>
    rw [reaches.board]
    rfl
  | exclude number asked decided absent next reaches => rw [reaches.board]
  | restore asked decided reaches =>
    rw [reaches.board, Records.removeExclusion]
    split <;> rfl
  | request asked stored lasts publishes =>
    rw [publishes.records]
    rfl
  | confirm asked found unverified timely reaches =>
    rw [reaches.board]
    rfl
  | check asked events follows =>
    obtain ⟨log, outages, -, reached⟩ := board_checkThreshold surroundings board _ _ _
    rw [follows.board, reached]
  | clean asked retained reaches => rw [reaches.board]
  | advance asked moved reaches => rw [reaches.board]

end Board

end Rendezvous
