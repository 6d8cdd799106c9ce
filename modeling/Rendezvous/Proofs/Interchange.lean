import Rendezvous.Proofs.Deeds
import Rendezvous.Proofs.Shuffles
import Rendezvous.Proofs.Views

/-!
# Operations on different days interchange

Two operations on availabilities that do not name the same day of the same participant can be
asked in either order.  Each is decided on as if the other had not been asked, and what they put
in and take out are different rows.  All that the order decides is which row comes first, and which
of the ids that are generated goes to whom.
-/

namespace Rendezvous

namespace Board

variable {surroundings : Surroundings} {board other : Board} {operation : Operation}

/-! ## What a deed depends on -/

/-- Boards with one clock and one set of calendars and participants, on which the same is found
for what an operation names. -/
structure Concurs (board other : Board) (operation : Operation) : Prop where
  now : other.now = board.now
  calendars : other.records.calendars = board.records.calendars
  participants : other.records.participants = board.records.participants
  found : ∀ participantId day, operation.place? = some (participantId, .ok day) →
    other.records.availabilityOn? participantId day = board.records.availabilityOn? participantId day

namespace Concurs

theorem locate (concurs : board.Concurs other operation) (token participantId : String) :
    other.records.locate token participantId = board.records.locate token participantId := by
  unfold Records.locate Records.calendarByToken Records.calendarOf? Records.participantIn
  rw [concurs.calendars, concurs.participants]

theorem openDay (concurs : board.Concurs other operation) (surroundings : Surroundings)
    (text : String) : other.openDay surroundings text = board.openDay surroundings text := by
  unfold Board.openDay today
  rw [concurs.now]

theorem book {token participantId : String} {request : AvailabilityRequest}
    (concurs : board.Concurs other (.createAvailability token participantId request))
    (surroundings : Surroundings) :
    other.book surroundings token participantId request
      = board.book surroundings token participantId request := by
  unfold Board.book
  simp only [concurs.locate, concurs.openDay]

theorem present {token participantId text : String} (concurs : board.Concurs other operation)
    (names : operation.place? = some (participantId, Date.request text))
    (surroundings : Surroundings) :
    other.present surroundings token participantId text
      = board.present surroundings token participantId text := by
  unfold Board.present
  rw [concurs.locate]
  apply Except.bind_congr
  rintro ⟨calendar, participant⟩ located
  obtain ⟨-, -, own, -⟩ := Records.locate_eq_ok located
  dsimp only
  rw [concurs.openDay]
  apply Except.bind_congr
  intro day opened
  have read := (openDay_eq_ok opened).1
  rw [Records.availabilityOf, own, concurs.found participantId day (read ▸ names),
    Records.availabilityOf, own]

/-- What is decided on depends on what is found for the day that is named, and on nobody else's
availabilities. -/
theorem deed? (concurs : board.Concurs other operation) (surroundings : Surroundings) :
    other.deed? surroundings operation = board.deed? surroundings operation := by
  cases operation with
  | createAvailability token participantId request =>
    unfold Board.deed?
    dsimp only
    rw [concurs.book]
    cases booked : board.book surroundings token participantId request with
    | error failure => rfl
    | ok booking =>
      obtain ⟨located, opened, -⟩ := book_eq_ok booked
      obtain ⟨-, -, own, -⟩ := Records.locate_eq_ok located
      have read := (openDay_eq_ok opened).1
      dsimp only
      rw [own, concurs.found participantId booking.day (read ▸ rfl)]
  | updateAvailability token participantId text patch =>
    unfold Board.deed? Board.revise
    dsimp only
    rw [concurs.present rfl, concurs.now]
  | deleteAvailability token participantId text =>
    unfold Board.deed?
    dsimp only
    rw [concurs.present rfl]
  | _ => rfl

end Concurs

/-! ## What a deed writes -/

namespace Deed

variable {deed first second : Deed} {made : String} {now : Instant} {table : Table Availability}

/-- The row that a deed puts in. -/
def wrote? (made : String) (now : Instant) : Deed → Option Availability
  | .refuse _ => none
  | .enter booking note => some (booking.availability note made now)
  | .revise _ revised => some revised
  | .withdraw _ => none

/-- The id whose row a deed takes out. -/
def struck? : Deed → Option String
  | .refuse _ => none
  | .enter .. => none
  | .revise _ revised => some revised.id
  | .withdraw present => some present.id

/-- What is stored after a deed is what it put in, and what it did not take out. -/
theorem mem_write (fresh : deed.isEntry → ∀ other ∈ table.rows, other.id ≠ made)
    {row : Availability} :
    row ∈ (deed.write made now table).rows
      ↔ deed.wrote? made now = some row ∨ row ∈ table.rows ∧ deed.struck? ≠ some row.id := by
  cases deed with
  | refuse failure => simp [write, wrote?, struck?]
  | enter booking note =>
    unfold write
    rw [Table.mem_put]
    constructor
    · rintro (rfl | ⟨inside, -⟩)
      · exact .inl rfl
      · exact .inr ⟨inside, (Option.some_ne_none _).symm⟩
    · rintro (wrote | ⟨inside, -⟩)
      · exact .inl (Option.some.inj wrote).symm
      · exact .inr ⟨inside, fresh rfl row inside⟩
  | revise participant revised =>
    unfold write
    rw [Table.mem_put]
    constructor
    · rintro (rfl | ⟨inside, other⟩)
      · exact .inl rfl
      · exact .inr ⟨inside, fun same => other (Option.some.inj same).symm⟩
    · rintro (wrote | ⟨inside, other⟩)
      · exact .inl (Option.some.inj wrote).symm
      · exact .inr ⟨inside, fun same => other (congrArg some same.symm)⟩
  | withdraw present =>
    unfold write
    rw [Table.mem_erase]
    constructor
    · rintro ⟨inside, other⟩
      exact .inr ⟨inside, fun same => other (Option.some.inj same).symm⟩
    · rintro (wrote | ⟨inside, other⟩)
      · cases wrote
      · exact ⟨inside, fun same => other (congrArg some same.symm)⟩

/-- A row that is put in is new, or takes the place of the one that is taken out. -/
theorem made_or_struck {row : Availability} (wrote : deed.wrote? made now = some row) :
    (deed.isEntry ∧ row.id = made) ∨ deed.struck? = some row.id := by
  cases deed <;> cases wrote
  · exact .inl ⟨rfl, rfl⟩
  · exact .inr rfl

variable {names : Renaming} {made' : String}

/-- Where a new row goes by another name, the answer tells that name. -/
theorem answer_renamed (entered : deed.isEntry → names.availability made = made')
    (kept : ∀ participant revised, deed = .revise participant revised →
      names.availability revised.id = revised.id) :
    deed.answer made' now = (deed.answer made now).map (Answer.renamed names) := by
  cases deed with
  | refuse failure => rfl
  | enter booking note =>
    rw [← entered rfl]
    rfl
  | revise participant revised =>
    have same : (Receipt.of participant revised).renamed names = .of participant revised := by
      unfold Receipt.renamed
      rw [Receipt.of, kept participant revised rfl]
    exact congrArg (fun told => Except.ok (Answer.receipt told)) same.symm
  | withdraw present => rfl

theorem wrote?_renamed (entered : deed.isEntry → names.availability made = made')
    (kept : ∀ participant revised, deed = .revise participant revised →
      names.availability revised.id = revised.id) :
    deed.wrote? made' now = (deed.wrote? made now).map (Availability.renamed names) := by
  cases deed with
  | refuse failure => rfl
  | enter booking note =>
    rw [← entered rfl]
    rfl
  | revise participant revised =>
    have same : revised.renamed names = revised := by
      rw [Availability.renamed, kept participant revised rfl]
    exact congrArg some same.symm
  | withdraw present => rfl

end Deed

theorem Does.mem_iff {deed : Deed} {step : Step Answer} {row : Availability}
    (does : board.Does deed step) :
    row ∈ step.board.records.availabilities.rows
      ↔ deed.wrote? board.nextId board.now = some row
        ∨ row ∈ board.records.availabilities.rows ∧ deed.struck? ≠ some row.id := by
  rw [does.records]
  exact Deed.mem_write fun _ => board.ne_nextId

/-- A new row comes last, by the next id. -/
theorem Does.ids_of_isEntry {deed : Deed} {step : Step Answer} (does : board.Does deed step)
    (entry : deed.isEntry) :
    step.board.availabilityIds = board.availabilityIds ++ [board.nextId]
      ∧ step.board.issued = board.nextNumber := by
  cases deed with
  | enter booking note =>
    refine ⟨?_, does.issued⟩
    unfold availabilityIds
    rw [does.records]
    dsimp only [Deed.write]
    rw [Table.rows_put_of_new board.ne_nextId, List.map_append]
    rfl
  | _ => cases entry

/-- What is taken out is stored for the participant and the day that are named. -/
theorem Decided.struck {deed : Deed} {participantId name : String} {named : Except Failure Date}
    (decided : board.Decided surroundings operation deed)
    (asks : operation.place? = some (participantId, named)) (struck : deed.struck? = some name) :
    ∃ present ∈ board.records.availabilities.rows, present.id = name
      ∧ present.participantId = participantId ∧ named = .ok present.day := by
  rcases decided.fits asks with ⟨failure, rfl⟩ | ⟨day, rfl, fits⟩
  · cases struck
  · cases fits with
    | enter own on absent => cases struck
    | revise own found same =>
      obtain ⟨slot, note, updatedAt, rfl⟩ := same
      cases struck
      obtain ⟨inside, own', on⟩ := Records.mem_of_availabilityOn? found
      exact ⟨_, inside, rfl, own', congrArg Except.ok on.symm⟩
    | withdraw found =>
      cases struck
      obtain ⟨inside, own, on⟩ := Records.mem_of_availabilityOn? found
      exact ⟨_, inside, rfl, own, congrArg Except.ok on.symm⟩

theorem mem_ids {present : Availability} (inside : present ∈ board.records.availabilities.rows) :
    present.id ∈ board.availabilityIds :=
  List.mem_map_of_mem inside

/-! ## Two operations -/

/-- Two operations that name different days, or days of different participants, and what is
decided on them on one board. -/
structure Apart (surroundings surroundings' : Surroundings) (board : Board)
    (first second : Operation) (deed deed' : Deed) : Prop where
  decided : board.deed? surroundings first = some deed
  decided' : board.deed? surroundings' second = some deed'
  apart : ∃ participantId named participantId' named',
    first.place? = some (participantId, named) ∧ second.place? = some (participantId', named')
      ∧ ∀ day, named = .ok day → named' = .ok day → participantId ≠ participantId'

namespace Apart

variable {surroundings' : Surroundings} {first second : Operation} {deed deed' : Deed}
  {row : Availability} {name : String}

theorem symm (apart : Apart surroundings surroundings' board first second deed deed') :
    Apart surroundings' surroundings board second first deed' deed := by
  obtain ⟨decided, decided', participantId, named, participantId', named', asks, asks', other⟩ :=
    apart
  refine ⟨decided', decided, participantId', named', participantId, named, asks', asks, ?_⟩
  intro day read read' same
  exact other day read' read same.symm

/-- No row is taken out by both. -/
theorem struck (apart : Apart surroundings surroundings' board first second deed deed')
    (struck : deed.struck? = some name) : deed'.struck? ≠ some name := by
  obtain ⟨decided, decided', participantId, named, participantId', named', asks, asks', other⟩ :=
    apart
  intro struck'
  obtain ⟨present, inside, same, rfl, read⟩ := (decided_of_deed? decided).struck asks struck
  obtain ⟨present', inside', same', rfl, read'⟩ :=
    (decided_of_deed? decided').struck asks' struck'
  have one : present' = present := Table.eq_of_key inside' inside (same'.trans same.symm)
  subst one
  exact other present'.day read read' rfl

/-- What one puts in the other does not take out. -/
theorem wrote (apart : Apart surroundings surroundings' board first second deed deed')
    (wrote : deed.wrote? board.nextId board.now = some row) : deed'.struck? ≠ some row.id := by
  rcases Deed.made_or_struck wrote with ⟨-, made⟩ | struck
  · obtain ⟨-, decided', participantId, named, participantId', named', asks, asks', other⟩ := apart
    intro struck'
    obtain ⟨present, inside, same, -, -⟩ := (decided_of_deed? decided').struck asks' struck'
    exact board.ne_nextId present inside (same.trans made)
  · exact apart.struck struck

/-- One operation does not change what is decided on the other. -/
theorem deed? (apart : Apart surroundings surroundings' board first second deed deed') :
    (board.perform surroundings first).board.deed? surroundings' second = some deed' := by
  obtain ⟨decided, decided', participantId, named, participantId', named', asks, asks', other⟩ :=
    apart
  have does := perform_deed decided
  rw [← decided']
  apply Concurs.deed?
  refine ⟨does.now, ?_, ?_, ?_⟩
  · rw [does.records]
  · rw [does.records]
  · intro participantId day names
    rw [asks'] at names
    cases names
    rcases board.edit_of_place surroundings asks with same | ⟨day', read, edit⟩
    · rw [same]
    · apply edit.availabilityOn?_of_ne
      rintro rfl rfl
      exact other _ read rfl rfl

/-- What is stored after both is what they put in, and what neither took out. -/
theorem mem_iff (apart : Apart surroundings surroundings' board first second deed deed') :
    row ∈ ((board.perform surroundings first).board.perform surroundings'
        second).board.records.availabilities.rows
      ↔ deed.wrote? board.nextId board.now = some row
        ∨ deed'.wrote? (board.perform surroundings first).board.nextId board.now = some row
        ∨ row ∈ board.records.availabilities.rows ∧ deed.struck? ≠ some row.id
          ∧ deed'.struck? ≠ some row.id := by
  have does := perform_deed apart.decided
  have kept : deed.wrote? board.nextId board.now = some row → deed'.struck? ≠ some row.id :=
    apart.wrote
  rw [(perform_deed apart.deed?).mem_iff, does.mem_iff, does.now]
  constructor
  · rintro (wrote | ⟨wrote | ⟨inside, other⟩, other'⟩)
    · exact .inr (.inl wrote)
    · exact .inl wrote
    · exact .inr (.inr ⟨inside, other, other'⟩)
  · rintro (wrote | wrote | ⟨inside, other, other'⟩)
    · exact .inr ⟨.inl wrote, kept wrote⟩
    · exact .inl wrote
    · exact .inr ⟨.inr ⟨inside, other⟩, other'⟩

/-- Whether a row has an id before the two operations, and after each of them alone. -/
def Standing (surroundings surroundings' : Surroundings) (board : Board)
    (first second : Operation) (name : String) : Prop :=
  name ∈ board.availabilityIds
    ∧ name ∈ (board.perform surroundings first).board.availabilityIds
    ∧ name ∈ (board.perform surroundings' second).board.availabilityIds

theorem standing_of_unstruck (apart : Apart surroundings surroundings' board first second deed deed')
    (inside : row ∈ board.records.availabilities.rows) (other : deed.struck? ≠ some row.id)
    (other' : deed'.struck? ≠ some row.id) :
    Standing surroundings surroundings' board first second row.id := by
  refine ⟨mem_ids inside, mem_ids ?_, mem_ids ?_⟩
  · exact (perform_deed apart.decided).mem_iff.mpr (.inr ⟨inside, other⟩)
  · exact (perform_deed apart.decided').mem_iff.mpr (.inr ⟨inside, other'⟩)

theorem standing_of_revise {participant : Participant} {revised : Availability}
    (apart : Apart surroundings surroundings' board first second deed deed')
    (revises : deed = .revise participant revised) :
    Standing surroundings surroundings' board first second revised.id := by
  subst revises
  obtain ⟨decided, decided', participantId, named, participantId', named', asks, asks', -⟩ :=
    id apart
  obtain ⟨present, inside, same, -, -⟩ := (decided_of_deed? decided).struck asks rfl
  have other : deed'.struck? ≠ some present.id := same ▸ apart.struck rfl
  refine ⟨same ▸ mem_ids inside, mem_ids ?_, same ▸ mem_ids ?_⟩
  · exact (perform_deed decided).mem_iff.mpr (.inl rfl)
  · exact (perform_deed decided').mem_iff.mpr (.inr ⟨inside, other⟩)

/-- Whoever is first gets the first of the new ids. -/
theorem exists_names (apart : Apart surroundings surroundings' board first second deed deed') :
    ∃ names : Renaming,
      (deed.isEntry → names.availability board.nextId
        = (board.perform surroundings' second).board.nextId)
      ∧ (deed'.isEntry → names.availability (board.perform surroundings first).board.nextId
        = board.nextId)
      ∧ ∀ name, Standing surroundings surroundings' board first second name →
        names.availability name = name := by
  have does := perform_deed apart.decided
  have does' := perform_deed apart.decided'
  cases entry : deed.isEntry with
  | true =>
    refine ⟨.ofAvailability board.nextId (board.perform surroundings' second).board.nextId,
      fun _ => Equiv.swap_apply_left _ _, ?_, ?_⟩
    · intro entry'
      obtain ⟨ids, issued⟩ := does.ids_of_isEntry entry
      obtain ⟨ids', issued'⟩ := does'.ids_of_isEntry entry'
      have same : (board.perform surroundings first).board.nextId
          = (board.perform surroundings' second).board.nextId :=
        nextId_congr (ids.trans ids'.symm) (issued.trans issued'.symm)
      rw [same]
      exact Equiv.swap_apply_right _ _
    · rintro name ⟨before, -, after⟩
      apply Equiv.swap_apply_of_ne_of_ne
      · exact ne_of_mem_of_not_mem before (nextId_not_mem _)
      · exact ne_of_mem_of_not_mem after (nextId_not_mem _)
  | false =>
    refine ⟨.ofAvailability (board.perform surroundings first).board.nextId board.nextId,
      nofun, fun _ => Equiv.swap_apply_left _ _, ?_⟩
    rintro name ⟨before, after, -⟩
    apply Equiv.swap_apply_of_ne_of_ne
    · exact ne_of_mem_of_not_mem after (nextId_not_mem _)
    · exact ne_of_mem_of_not_mem before (nextId_not_mem _)

section

variable {names : Renaming}
  (apart : Apart surroundings surroundings' board first second deed deed')
  (kept : ∀ name, Standing surroundings surroundings' board first second name →
    names.availability name = name)
  (wrote : deed.wrote? (board.perform surroundings' second).board.nextId board.now
    = (deed.wrote? board.nextId board.now).map (Availability.renamed names))
  (wrote' : deed'.wrote? board.nextId board.now
    = (deed'.wrote? (board.perform surroundings first).board.nextId board.now).map
      (Availability.renamed names))

include apart kept wrote wrote'

/-- Where each row that is put in goes by another name and the others keep theirs, the same rows
are stored in either order. -/
theorem mem_iff_renamed :
    row ∈ ((board.perform surroundings' second).board.perform surroundings
        first).board.records.availabilities.rows
      ↔ ∃ made ∈ ((board.perform surroundings first).board.perform surroundings'
          second).board.records.availabilities.rows, made.renamed names = row := by
  rw [apart.symm.mem_iff, wrote, wrote', Option.map_eq_some_iff, Option.map_eq_some_iff]
  constructor
  · rintro (⟨made, put, rfl⟩ | ⟨made, put, rfl⟩ | ⟨inside, other', other⟩)
    · exact ⟨made, apart.mem_iff.mpr (.inr (.inl put)), rfl⟩
    · exact ⟨made, apart.mem_iff.mpr (.inl put), rfl⟩
    · refine ⟨row, apart.mem_iff.mpr (.inr (.inr ⟨inside, other, other'⟩)), ?_⟩
      rw [Availability.renamed, kept _ (apart.standing_of_unstruck inside other other')]
  · rintro ⟨made, stored, rfl⟩
    rcases apart.mem_iff.mp stored with put | put | ⟨inside, other, other'⟩
    · exact .inr (.inl ⟨made, put, rfl⟩)
    · exact .inl ⟨made, put, rfl⟩
    · have same : made.renamed names = made := by
        rw [Availability.renamed, kept _ (apart.standing_of_unstruck inside other other')]
      rw [same]
      exact .inr (.inr ⟨inside, other', other⟩)

theorem shuffled :
    ((board.perform surroundings first).board.perform surroundings'
        second).board.records.Shuffled names
      ((board.perform surroundings' second).board.perform surroundings first).board.records := by
  have does := (perform_deed apart.decided).records
  have does' := (perform_deed apart.decided').records
  have next := (perform_deed apart.deed?).records
  have next' := (perform_deed apart.symm.deed?).records
  refine ⟨?calendars, ?users, ?participants, ?rows, ?recurrences, ?exclusions⟩
  case rows =>
    -- no row is stored twice, so the same rows are the same list in some order
    apply (List.perm_ext_iff_of_nodup _ _).mpr
    · intro row
      rw [mem_iff_renamed apart kept wrote wrote', List.mem_map]
    · exact List.Nodup.of_map _ (Table.nodup _)
    · apply List.Nodup.of_map Availability.id
      rw [List.map_map]
      have ids := (Table.nodup ((board.perform surroundings first).board.perform surroundings'
        second).board.records.availabilities).map names.availability.injective
      rwa [List.map_map] at ids
  all_goals rw [next, next', does, does']

end

end Apart

/-- Operations on the availabilities of different participants or of different days interchange,
on any board: in either order each of them is answered alike, and the same is stored, counted and
shown as busy afterwards, up to the order of the rows and to the ids that are generated. -/
theorem entries_interchange (board : Board) (surroundings surroundings' : Surroundings)
    {first second : Operation} {participantId participantId' : String}
    {named named' : Except Failure Date} (asks : first.place? = some (participantId, named))
    (asks' : second.place? = some (participantId', named'))
    (other : ∀ day, named = .ok day → named' = .ok day → participantId ≠ participantId') :
    let one := board.perform surroundings first
    let two := one.board.perform surroundings' second
    let one' := board.perform surroundings' second
    let two' := one'.board.perform surroundings first
    ∃ names : Renaming,
      (∀ name ∈ board.availabilityIds, name ∈ one.board.availabilityIds →
        name ∈ one'.board.availabilityIds → names.availability name = name)
      ∧ two'.outcome = one.outcome.map (Answer.renamed names)
      ∧ one'.outcome = two.outcome.map (Answer.renamed names)
      ∧ two.board.records.Shuffled names two'.board.records
      ∧ (∀ calendarId day,
        (two'.board.records.contributionsOn calendarId day).Perm
          (two.board.records.contributionsOn calendarId day)
        ∧ two'.board.tally calendarId day = two.board.tally calendarId day)
      ∧ ∀ token text, two'.board.busyTimes token text = two.board.busyTimes token text := by
  intro one two one' two'
  obtain ⟨deed, decided⟩ := exists_deed surroundings board asks
  obtain ⟨deed', decided'⟩ := exists_deed surroundings' board asks'
  have apart : Apart surroundings surroundings' board first second deed deed' :=
    ⟨decided, decided', _, _, _, _, asks, asks', other⟩
  obtain ⟨names, entered, entered', kept⟩ := apart.exists_names
  have revised : ∀ participant revised, deed = .revise participant revised →
      names.availability revised.id = revised.id := by
    intro participant revised revises
    exact kept _ (apart.standing_of_revise revises)
  have revised' : ∀ participant revised, deed' = .revise participant revised →
      names.availability revised.id = revised.id := by
    intro participant revised revises
    obtain ⟨before, after', after⟩ := apart.symm.standing_of_revise revises
    exact kept _ ⟨before, after, after'⟩
  have shuffled := Apart.shuffled apart kept (Deed.wrote?_renamed entered revised)
    (Deed.wrote?_renamed entered' revised')
  refine ⟨names, fun name before after after' => kept name ⟨before, after, after'⟩, ?_, ?_, shuffled,
    fun calendarId day => ⟨shuffled.contributionsOn calendarId day, shuffled.tally calendarId day⟩,
    shuffled.busyTimes⟩
  · rw [(perform_deed apart.symm.deed?).outcome, (perform_deed decided).outcome,
      (perform_deed decided').now]
    exact Deed.answer_renamed entered revised
  · rw [(perform_deed decided').outcome, (perform_deed apart.deed?).outcome,
      (perform_deed decided).now]
    exact Deed.answer_renamed entered' revised'

/-- Two entries by two participants, which get their ids in the order in which they are made. -/
theorem entries_interchange_sample :
    let first := Operation.sampleEntry "ann"
    let second := Operation.createAvailability "open" "bob" ⟨"2025-06-12", none, none, none⟩
    let one := sample.perform .sample first
    let two := one.board.perform .sample second
    let one' := sample.perform .sample second
    let two' := one'.board.perform .sample first
    first.place? = some ("ann", Date.request "2025-06-05")
      ∧ second.place? = some ("bob", Date.request "2025-06-12")
      ∧ two.board.records.availabilities.rows.map Availability.participantId = ["ann", "bob"]
      ∧ two'.board.records.availabilities.rows.map Availability.participantId = ["bob", "ann"]
      ∧ ∃ names : Renaming,
        two'.outcome = one.outcome.map (Answer.renamed names)
          ∧ one'.outcome = two.outcome.map (Answer.renamed names)
          ∧ two.board.records.Shuffled names two'.board.records
          ∧ two'.board.busyTimes "open" "2025-06-05" = two.board.busyTimes "open" "2025-06-05" := by
  intro first second one two one' two'
  have asks : first.place? = some ("ann", Date.request "2025-06-05") := rfl
  have asks' : second.place? = some ("bob", Date.request "2025-06-12") := rfl
  obtain ⟨names, -, answered, answered', shuffled, -, busy⟩ :=
    entries_interchange sample .sample .sample asks asks' fun _ _ _ => by decide
  exact ⟨asks, asks', by decide +kernel, by decide +kernel, names, answered, answered', shuffled,
    busy "open" "2025-06-05"⟩

end Board

end Rendezvous
