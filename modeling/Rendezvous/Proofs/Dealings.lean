import Rendezvous.Proofs.Deeds
import Rendezvous.Proofs.Views

/-!
# The availabilities as a map

The availabilities stand in a table under ids that are made up, and are looked for by participant
and day.  To a caller they are a map all the same: what is stored for a participant on a day is
told by the dealings with that day alone, which are the successful operations on it and what they
answered.
-/

namespace Rendezvous

/-- What a successful operation on an availability answered. -/
inductive Dealing where
  | entered (receipt : Receipt)
  | revised (receipt : Receipt)
  | withdrawn

/-- What an operation dealt, wherever it was. -/
def Operation.dealt? : Operation → Except Failure Answer → Option Dealing
  | .createAvailability .., .ok (.receipt receipt) => some (.entered receipt)
  | .updateAvailability .., .ok (.receipt receipt) => some (.revised receipt)
  | .deleteAvailability .., .ok _ => some .withdrawn
  | _, _ => none

/-- What an operation dealt with a participant on a day. -/
def Operation.dealing? (operation : Operation) (participantId : String) (day : Date)
    (outcome : Except Failure Answer) : Option Dealing :=
  if operation.place? = some (participantId, .ok day) then operation.dealt? outcome else none

/-- The dealings of a run with a participant on a day, in their order. -/
def Board.dealings (board : Board) (run : List (Surroundings × Operation))
    (participantId : String) (day : Date) : List Dealing :=
  (run.zip (board.run run)).filterMap fun entry =>
    entry.1.2.dealing? participantId day entry.2.outcome

namespace Dealing

def receipt? : Dealing → Option Receipt
  | .entered receipt => some receipt
  | .revised receipt => some receipt
  | .withdrawn => none

def entered? : Dealing → Option Receipt
  | .entered receipt => some receipt
  | _ => none

/-- The receipt of the last dealing, unless that was a withdrawal. -/
def last? (dealings : List Dealing) : Option Receipt := dealings.getLast?.bind receipt?

/-- The receipt of the last time that something was entered. -/
def made? (dealings : List Dealing) : Option Receipt := (dealings.filterMap entered?).getLast?

/-- An entry has the id and the time of making that it was entered with, and the rest as it was
told last. -/
structure Tells (made last : Receipt) (entry : ScheduleEntry) : Prop where
  id : entry.id = made.id
  createdAt : entry.createdAt = made.createdAt
  slot : entry.slot = last.slot
  note : entry.note = last.note
  updatedAt : entry.updatedAt = last.updatedAt

/-! ## One dealing -/

variable {dealings : List Dealing} {dealing : Option Dealing}
  {found found' : Option Availability}

/-- What dealings leave. -/
inductive Leaves (dealings : List Dealing) : Option Availability → Prop where
  | nothing (gone : last? dealings = none) : Leaves dealings none
  | stored {made last : Receipt} {availability : Availability}
      (entered : made? dealings = some made) (told : last? dealings = some last)
      (tells : Tells made last (.of availability)) : Leaves dealings (some availability)

/-- What one more dealing makes of what is found. -/
inductive Turns : Option Dealing → Option Availability → Option Availability → Prop where
  | stay (found : Option Availability) : Turns none found found
  | enter (participant : Participant) (availability : Availability) :
      Turns (some (.entered (.of participant availability))) none (some availability)
  | revise (participant : Participant) {present revised : Availability}
      (sameId : revised.id = present.id) (sameMade : revised.createdAt = present.createdAt) :
      Turns (some (.revised (.of participant revised))) (some present) (some revised)
  | withdraw (present : Availability) : Turns (some .withdrawn) (some present) none

theorem last?_concat (dealing : Dealing) : last? (dealings ++ [dealing]) = dealing.receipt? := by
  simp [last?]

theorem made?_concat (dealing : Dealing) :
    made? (dealings ++ [dealing]) = dealing.entered?.or (made? dealings) := by
  unfold made?
  rw [List.filterMap_append]
  cases entered : dealing.entered? <;> simp [entered]

theorem Leaves.isSome_last? (leaves : Leaves dealings found) :
    (last? dealings).isSome = found.isSome := by
  cases leaves with
  | nothing gone => rw [gone]; rfl
  | stored entered told tells => rw [told]; rfl

theorem Leaves.turn (leaves : Leaves dealings found) (turns : Turns dealing found found') :
    Leaves (dealings ++ dealing.toList) found' := by
  cases turns with
  | stay => simpa using leaves
  | enter participant availability =>
    apply Leaves.stored (made?_concat _) (last?_concat _)
    exact ⟨rfl, rfl, rfl, rfl, rfl⟩
  | revise participant sameId sameMade =>
    cases leaves with
    | @stored made _ _ entered told tells =>
      refine .stored (?_ : _ = some made) (last?_concat _)
        ⟨sameId.trans tells.id, sameMade.trans tells.createdAt, rfl, rfl, rfl⟩
      exact (made?_concat _).trans entered
  | withdraw present => exact .nothing (last?_concat _)

end Dealing

namespace Records

variable {records : Records} {participantId : String} {day : Date} {start stop : Option Date}

theorem mem_availabilitiesOf {availability : Availability} :
    availability ∈ records.availabilitiesOf participantId start stop
      ↔ availability ∈ records.availabilities.rows ∧ availability.participantId = participantId
        ∧ start.all (· ≤ availability.day) ∧ stop.all (availability.day ≤ ·) := by
  simp [availabilitiesOf, List.mem_mergeSort, and_assoc]

theorem EnteredOnce.pairwise_availabilitiesOf (once : records.EnteredOnce)
    (participantId : String) (start stop : Option Date) :
    (records.availabilitiesOf participantId start stop).Pairwise fun a b => a.day < b.day := by
  apply Date.pairwise_lt_mergeSort Availability.day
  have rows := List.Nodup.of_map _ records.availabilities.nodup
  apply (rows.filter _).pairwise_of_forall_ne
  intro a insideA b insideB different same
  simp only [List.mem_filter, Bool.and_eq_true, decide_eq_true_eq] at insideA insideB
  obtain ⟨storedA, ⟨ownA, -⟩, -⟩ := insideA
  obtain ⟨storedB, ⟨ownB, -⟩, -⟩ := insideB
  exact different (once a storedA b storedB (ownA.trans ownB.symm) same)

/-- Where there is one row for a day at most, nothing is found after it is erased. -/
theorem EnteredOnce.availabilityOn?_erase {present : Availability} (once : records.EnteredOnce)
    (found : records.availabilityOn? participantId day = some present) :
    availabilityOn? { records with availabilities := records.availabilities.erase present.id }
      participantId day = none := by
  obtain ⟨inside, own, on⟩ := mem_of_availabilityOn? found
  apply availabilityOn?_eq_none_iff.mpr
  intro other among own' on'
  obtain ⟨stored, different⟩ := Table.mem_erase.mp among
  have one := once other stored present inside (own'.trans own.symm) (on'.trans on.symm)
  exact different (congrArg Availability.id one)

end Records

namespace Board

variable {board : Board} {participantId : String} {day : Date}

/-- A deed makes of what is found what is dealt. -/
theorem Decided.turns {surroundings : Surroundings} {operation : Operation} {deed : Deed}
    (decided : board.Decided surroundings operation deed) (once : board.records.EnteredOnce)
    (asks : operation.place? = some (participantId, .ok day)) :
    Dealing.Turns (operation.dealt? (deed.answer board.nextId board.now))
      (board.records.availabilityOn? participantId day)
      (Records.availabilityOn?
        { board.records with
          availabilities := deed.write board.nextId board.now board.records.availabilities }
        participantId day) := by
  rcases decided.fits asks with ⟨failure, rfl⟩ | ⟨day', same, fits⟩
  · have undealt : operation.dealt? (.error failure) = none := by cases operation <;> rfl
    exact undealt.symm ▸ .stay _
  · cases same
    have once' := (fits.edit board.nextId board.now board.ne_nextId).enteredOnce once
    cases decided with
    | refuse failure => cases fits
    | enter booked absent =>
      cases fits with
      | enter own on absent =>
        rw [absent, once'.availabilityOn?_eq_some_iff.mpr ⟨Table.mem_put.mpr (.inl rfl), own, on⟩]
        exact .enter _ _
    | revise changed =>
      cases fits with
      | revise own found same =>
        obtain ⟨slot, note, updatedAt, rfl⟩ := same
        obtain ⟨-, own', on⟩ := Records.mem_of_availabilityOn? found
        rw [found,
          once'.availabilityOn?_eq_some_iff.mpr ⟨Table.mem_put.mpr (.inl rfl), own', on⟩]
        exact .revise _ rfl rfl
    | withdraw known =>
      cases fits with
      | withdraw found =>
        have gone := once.availabilityOn?_erase found
        dsimp only [Deed.write]
        rw [found, gone]
        exact .withdraw _

/-- An operation leaves what is found for a participant on a day alone, or deals with it. -/
theorem turns_perform (once : board.records.EnteredOnce) (surroundings : Surroundings)
    (operation : Operation) (participantId : String) (day : Date) :
    Dealing.Turns
      (operation.dealing? participantId day (board.perform surroundings operation).outcome)
      (board.records.availabilityOn? participantId day)
      ((board.perform surroundings operation).board.records.availabilityOn? participantId day) := by
  unfold Operation.dealing?
  cases asks : operation.place? with
  | none =>
    rw [if_neg nofun, Records.availabilityOn?, Records.availabilityOn?,
      availabilities_of_placeless surroundings board asks]
    exact .stay _
  | some place =>
    obtain ⟨participantId', named⟩ := place
    by_cases here : participantId' = participantId ∧ named = .ok day
    · obtain ⟨rfl, rfl⟩ := here
      obtain ⟨deed, known⟩ := exists_deed surroundings board asks
      rw [if_pos rfl, (perform_deed known).outcome, (perform_deed known).records]
      exact (decided_of_deed? known).turns once asks
    · -- what is dealt with is elsewhere
      rw [if_neg (by simpa using here)]
      rcases board.edit_of_place surroundings asks with same | ⟨day', read, edit⟩
      · rw [same]
        exact .stay _
      · rw [edit.availabilityOn?_of_ne]
        · exact .stay _
        · rintro rfl rfl
          exact here ⟨rfl, read⟩

/-! ## Runs -/

variable {history : String → Date → List Dealing}

/-- A board on which is found, for everyone and every day, what a history of dealings leaves. -/
structure Reflects (board : Board) (history : String → Date → List Dealing) : Prop where
  once : board.records.EnteredOnce
  leaves : ∀ participantId day, Dealing.Leaves (history participantId day)
    (board.records.availabilityOn? participantId day)

theorem dealings_cons (board : Board) (surroundings : Surroundings) (operation : Operation)
    (rest : List (Surroundings × Operation)) (participantId : String) (day : Date) :
    board.dealings ((surroundings, operation) :: rest) participantId day
      = (operation.dealing? participantId day
          (board.perform surroundings operation).outcome).toList
        ++ (board.perform surroundings operation).board.dealings rest participantId day := by
  rw [dealings, Board.run, List.zip_cons_cons, List.filterMap_cons]
  cases operation.dealing? participantId day (board.perform surroundings operation).outcome <;> rfl

theorem Reflects.perform (reflects : board.Reflects history) (surroundings : Surroundings)
    (operation : Operation) :
    (board.perform surroundings operation).board.Reflects fun participantId day =>
      history participantId day
        ++ (operation.dealing? participantId day
          (board.perform surroundings operation).outcome).toList := by
  refine ⟨enteredOnce_perform surroundings board operation reflects.once, ?_⟩
  intro participantId day
  exact (reflects.leaves participantId day).turn
    (turns_perform reflects.once surroundings operation participantId day)

theorem Reflects.after (reflects : board.Reflects history)
    (run : List (Surroundings × Operation)) :
    (board.after run).Reflects fun participantId day =>
      history participantId day ++ board.dealings run participantId day := by
  induction run generalizing board history with
  | nil => simpa [dealings] using reflects
  | cons entry rest ih =>
    have next := ih (reflects.perform entry.1 entry.2)
    simp only [List.append_assoc, ← dealings_cons] at next
    exact next

/-! ## What callers are told -/

/-- To callers the board is the map that a history of dealings makes: the days that are listed for
a participant are those on which the last dealing left something, a day is entered where nothing
is left, and is changed or withdrawn where something is. -/
structure Registers (board : Board) (history : String → Date → List Dealing) : Prop where
  listed : ∀ {token participantId : String} {start stop : Option String} {calendar : Calendar}
    {participant : Participant} {first last : Option Date},
    board.records.locate token participantId = .ok (calendar, participant) →
    Date.requestOptional start = .ok first → Date.requestOptional stop = .ok last →
    ∃ told, board.schedule token participantId start stop = .ok told
      ∧ told.entries.Pairwise (fun a b => a.day < b.day)
      ∧ (∀ day, (∃ entry ∈ told.entries, entry.day = day) ↔ first.all (· ≤ day)
        ∧ last.all (day ≤ ·) ∧ (Dealing.last? (history participantId day)).isSome)
      ∧ ∀ entry ∈ told.entries, ∃ made last,
        Dealing.made? (history participantId entry.day) = some made
          ∧ Dealing.last? (history participantId entry.day) = some last
          ∧ Dealing.Tells made last entry
  dealt : ∀ (surroundings : Surroundings) {operation : Operation} {participantId : String}
    {day : Date} {dealing : Dealing},
    operation.dealing? participantId day (board.perform surroundings operation).outcome
      = some dealing →
    (dealing.entered?.isSome ↔ Dealing.last? (history participantId day) = none)
  entered : ∀ {surroundings : Surroundings} {token participantId : String}
    {request : AvailabilityRequest} {booking : Booking},
    board.book surroundings token participantId request = .ok booking →
    let outcome :=
      (board.perform surroundings (.createAvailability token participantId request)).outcome
    (Dealing.last? (history participantId booking.day) = none →
        ∃ receipt, outcome = .ok (.receipt receipt))
      ∧ ((Dealing.last? (history participantId booking.day)).isSome →
        outcome = .error (.refused .availabilityExists))
  missing : ∀ {surroundings : Surroundings} {token participantId text : String}
    {calendar : Calendar} {participant : Participant} {day : Date},
    board.records.locate token participantId = .ok (calendar, participant) →
    board.openDay surroundings text = .ok day →
    Dealing.last? (history participantId day) = none →
    (∀ patch, (board.perform surroundings
        (.updateAvailability token participantId text patch)).outcome
          = .error (.refused .availabilityNotFound))
      ∧ (board.perform surroundings (.deleteAvailability token participantId text)).outcome
        = .error (.refused .availabilityNotFound)

variable {surroundings : Surroundings} {token text : String} {calendar : Calendar}
  {participant : Participant}

/-- What cannot be found cannot be changed. -/
theorem present_of_absent
    (located : board.records.locate token participantId = .ok (calendar, participant))
    (opened : board.openDay surroundings text = .ok day)
    (absent : board.records.availabilityOn? participant.id day = none) :
    board.present surroundings token participantId text
      = .error (.refused .availabilityNotFound) := by
  rw [present, located, Except.ok_bind]
  dsimp only
  rw [opened, Except.ok_bind, Records.availabilityOf, absent]
  rfl

theorem Reflects.last?_eq_none_iff (reflects : board.Reflects history) :
    Dealing.last? (history participantId day) = none
      ↔ board.records.availabilityOn? participantId day = none := by
  have same := (reflects.leaves participantId day).isSome_last?
  rw [← Option.isNone_iff_eq_none, ← Option.isNone_iff_eq_none, ← Option.not_isSome, same,
    Option.not_isSome]

theorem Reflects.listed (reflects : board.Reflects history) {start stop : Option String}
    {first last : Option Date}
    (located : board.records.locate token participantId = .ok (calendar, participant))
    (begins : Date.requestOptional start = .ok first)
    (ends : Date.requestOptional stop = .ok last) :
    ∃ told, board.schedule token participantId start stop = .ok told
      ∧ told.entries.Pairwise (fun a b => a.day < b.day)
      ∧ (∀ day, (∃ entry ∈ told.entries, entry.day = day) ↔ first.all (· ≤ day)
        ∧ last.all (day ≤ ·) ∧ (Dealing.last? (history participantId day)).isSome)
      ∧ ∀ entry ∈ told.entries, ∃ made last,
        Dealing.made? (history participantId entry.day) = some made
          ∧ Dealing.last? (history participantId entry.day) = some last
          ∧ Dealing.Tells made last entry := by
  obtain ⟨-, -, own, -⟩ := Records.locate_eq_ok located
  have told : board.schedule token participantId start stop = .ok ⟨.of participant,
      (board.records.availabilitiesOf participantId first last).map ScheduleEntry.of⟩ := by
    rw [schedule, located, Except.ok_bind]
    dsimp only
    rw [begins, Except.ok_bind, ends, Except.ok_bind, own]
    rfl
  refine ⟨_, told, ?_, ?_, ?_⟩
  · exact List.pairwise_map.mpr (reflects.once.pairwise_availabilitiesOf participantId first last)
  · intro day
    rw [(reflects.leaves participantId day).isSome_last?, Option.isSome_iff_exists]
    simp only [List.mem_map, Records.mem_availabilitiesOf,
      reflects.once.availabilityOn?_eq_some_iff]
    constructor
    · rintro ⟨_, ⟨availability, ⟨inside, own, after, before⟩, rfl⟩, rfl⟩
      exact ⟨after, before, availability, inside, own, rfl⟩
    · rintro ⟨after, before, availability, inside, own, rfl⟩
      exact ⟨_, ⟨availability, ⟨inside, own, after, before⟩, rfl⟩, rfl⟩
  · intro entry among
    obtain ⟨availability, listed, rfl⟩ := List.mem_map.mp among
    obtain ⟨inside, own, -⟩ := Records.mem_availabilitiesOf.mp listed
    have leaves := reflects.leaves participantId availability.day
    rw [reflects.once.availabilityOn?_eq_some_iff.mpr ⟨inside, own, rfl⟩] at leaves
    cases leaves with
    | stored entered told tells => exact ⟨_, _, entered, told, tells⟩

/-- Only what is not there is entered, and only what is there is changed or withdrawn. -/
theorem Reflects.dealt (reflects : board.Reflects history) {operation : Operation}
    {dealing : Dealing}
    (dealt : operation.dealing? participantId day (board.perform surroundings operation).outcome
      = some dealing) :
    dealing.entered?.isSome ↔ Dealing.last? (history participantId day) = none := by
  have turns := turns_perform reflects.once surroundings operation participantId day
  rw [reflects.last?_eq_none_iff]
  rw [dealt] at turns
  generalize board.records.availabilityOn? participantId day = found at turns ⊢
  generalize Records.availabilityOn? _ participantId day = found' at turns
  cases turns <;> simp [Dealing.entered?]

theorem Reflects.entered (reflects : board.Reflects history) {request : AvailabilityRequest}
    {booking : Booking}
    (booked : board.book surroundings token participantId request = .ok booking) :
    let outcome :=
      (board.perform surroundings (.createAvailability token participantId request)).outcome
    (Dealing.last? (history participantId booking.day) = none →
        ∃ receipt, outcome = .ok (.receipt receipt))
      ∧ ((Dealing.last? (history participantId booking.day)).isSome →
        outcome = .error (.refused .availabilityExists)) := by
  obtain ⟨located, -⟩ := book_eq_ok booked
  obtain ⟨-, -, own, -⟩ := Records.locate_eq_ok located
  constructor
  · intro gone
    rw [reflects.last?_eq_none_iff, ← own] at gone
    have decided : board.deed? surroundings (.createAvailability token participantId request)
        = some (.enter booking request.note) := by
      simp [deed?, booked, gone]
    exact ⟨_, (perform_deed decided).outcome⟩
  · intro stands
    rw [(reflects.leaves participantId booking.day).isSome_last?] at stands
    obtain ⟨present, found⟩ := Option.isSome_iff_exists.mp stands
    have decided : board.deed? surroundings (.createAvailability token participantId request)
        = some (.refuse (.refused .availabilityExists)) := by
      simp [deed?, booked, own, found]
    exact (perform_deed decided).outcome

theorem Reflects.missing (reflects : board.Reflects history)
    (located : board.records.locate token participantId = .ok (calendar, participant))
    (opened : board.openDay surroundings text = .ok day)
    (gone : Dealing.last? (history participantId day) = none) :
    (∀ patch, (board.perform surroundings
        (.updateAvailability token participantId text patch)).outcome
          = .error (.refused .availabilityNotFound))
      ∧ (board.perform surroundings (.deleteAvailability token participantId text)).outcome
        = .error (.refused .availabilityNotFound) := by
  obtain ⟨-, -, own, -⟩ := Records.locate_eq_ok located
  rw [reflects.last?_eq_none_iff, ← own] at gone
  have missing := present_of_absent located opened gone
  constructor
  · intro patch
    have decided : board.deed? surroundings (.updateAvailability token participantId text patch)
        = some (.refuse (.refused .availabilityNotFound)) := by
      simp [deed?, revise, missing, Except.error_bind]
    exact (perform_deed decided).outcome
  · have decided : board.deed? surroundings (.deleteAvailability token participantId text)
        = some (.refuse (.refused .availabilityNotFound)) := by
      simp [deed?, missing]
    exact (perform_deed decided).outcome

/-- Where no availability is stored at first, the board is the map that the dealings of the run
make. -/
theorem registers_dealings (board : Board) (run : List (Surroundings × Operation))
    (noAvailability : board.records.availabilities.rows = []) :
    (board.after run).Registers (board.dealings run) := by
  have start : board.Reflects fun _ _ => [] := by
    refine ⟨by simp [Records.EnteredOnce, noAvailability], ?_⟩
    intro participantId day
    rw [Records.availabilityOn?_eq_none_iff.mpr (by simp [noAvailability])]
    exact .nothing rfl
  have reflects : (board.after run).Reflects (board.dealings run) := by
    simpa using start.after run
  exact ⟨reflects.listed, fun _ => reflects.dealt, reflects.entered, reflects.missing⟩

/-- Two days are entered, of which one is changed and the other withdrawn. -/
theorem registers_dealings_sample :
    let run := [
      (Surroundings.sample, Operation.sampleEntry "ann"),
      (Surroundings.sample, .createAvailability "open" "ann" ⟨"2025-06-12", none, none, none⟩),
      (Surroundings.sample, .advance 60000000),
      (Surroundings.sample, .updateAvailability "open" "ann" "2025-06-05"
        ⟨none, none, some (some "late")⟩),
      (Surroundings.sample, .deleteAvailability "open" "ann" "2025-06-12")]
    let history := sample.dealings run
    sample.records.availabilities.rows = []
      ∧ (sample.after run).Registers history
      ∧ (sample.after run).records.locate "open" "ann" = .ok (.sample, .sample "ann" "Ann")
      ∧ (Dealing.last? (history "ann" .sample)).map Receipt.note = some (some "late")
      ∧ (Dealing.last? (history "ann" ⟨739414, by decide, by decide⟩)).isSome = false
      ∧ ∃ told, (sample.after run).schedule "open" "ann" none none = .ok told
        ∧ ∀ day, (∃ entry ∈ told.entries, entry.day = day)
          ↔ (Dealing.last? (history "ann" day)).isSome := by
  intro run history
  have registers : (sample.after run).Registers history := registers_dealings sample run rfl
  have located : (sample.after run).records.locate "open" "ann"
      = .ok (.sample, .sample "ann" "Ann") := by decide +kernel
  have unbounded : Date.requestOptional none = .ok none := rfl
  obtain ⟨told, answered, -, days, -⟩ := registers.listed located unbounded unbounded
  refine ⟨rfl, registers, located, by decide +kernel, by decide +kernel, told, answered, ?_⟩
  intro day
  simpa using days day

end Board

end Rendezvous
