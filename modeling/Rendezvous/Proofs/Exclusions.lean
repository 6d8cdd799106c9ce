import Mathlib.Logic.Function.Basic
import Mathlib.Order.BooleanAlgebra.Set
import Rendezvous.Proofs.Holdings

/-!
# Excluded days

The days that are excluded from recurrences stand in one table, a row for a day of a recurrence.
Every recurrence that is stored has a set of such days of its own, and an operation adds a day to
one of the sets, takes one out, or empties a set, and leaves all others alone.
-/

namespace Rendezvous

/-! ## The sets -/

namespace Records

variable {records : Records} {recurrenceId : String} {day : Date} {exclusion : Exclusion}

/-- The days that are excluded from a recurrence. -/
def excludedDays (records : Records) (recurrenceId : String) : Set Date :=
  {day | records.isExcluded recurrenceId day}

/-- No day is excluded twice from a recurrence. -/
def ExcludedOnce (records : Records) : Prop :=
  ∀ a ∈ records.exclusions.rows, ∀ b ∈ records.exclusions.rows,
    a.recurrenceId = b.recurrenceId → a.day = b.day → a = b

theorem mem_excludedDays :
    day ∈ records.excludedDays recurrenceId
      ↔ ∃ exclusion ∈ records.exclusions.rows,
        exclusion.recurrenceId = recurrenceId ∧ exclusion.day = day := by
  simp [excludedDays, isExcluded, exclusionOn?]

theorem mem_of_exclusionOn? (found : records.exclusionOn? recurrenceId day = some exclusion) :
    exclusion ∈ records.exclusions.rows
      ∧ exclusion.recurrenceId = recurrenceId ∧ exclusion.day = day :=
  ⟨List.mem_of_find?_eq_some found, by simpa using List.find?_some found⟩

theorem exclusionOn?_eq_none_iff :
    records.exclusionOn? recurrenceId day = none ↔ day ∉ records.excludedDays recurrenceId := by
  rw [excludedDays, Set.mem_ofPred_eq, isExcluded, Option.not_isSome_iff_eq_none]

theorem excludedDays_congr {records' : Records}
    (same : records'.exclusions = records.exclusions) :
    records'.excludedDays = records.excludedDays := by
  funext recurrenceId
  rw [excludedDays, excludedDays]
  unfold isExcluded exclusionOn?
  rw [same]

/-- Another day is excluded from one recurrence. -/
theorem excludedDays_put (fresh : ∀ other ∈ records.exclusions.rows, other.id ≠ exclusion.id) :
    excludedDays { records with exclusions := records.exclusions.put exclusion }
      = Function.update records.excludedDays exclusion.recurrenceId
        (insert exclusion.day (records.excludedDays exclusion.recurrenceId)) := by
  have stored (other : Exclusion) : other ∈ (records.exclusions.put exclusion).rows
      ↔ other = exclusion ∨ other ∈ records.exclusions.rows := by
    rw [Table.mem_put]
    exact or_congr_right (and_iff_left_of_imp (fresh other))
  apply Function.eq_update_iff.mpr
  constructor
  · ext day
    simp only [Set.mem_insert_iff, mem_excludedDays, stored]
    constructor
    · rintro ⟨other, rfl | inside, of, rfl⟩
      · exact .inl rfl
      · exact .inr ⟨other, inside, of, rfl⟩
    · rintro (rfl | ⟨other, inside, of, rfl⟩)
      · exact ⟨exclusion, .inl rfl, rfl, rfl⟩
      · exact ⟨other, .inr inside, of, rfl⟩
  · intro recurrenceId elsewhere
    ext day
    simp only [mem_excludedDays, stored]
    constructor
    · rintro ⟨other, rfl | inside, of, on⟩
      · exact absurd of.symm elsewhere
      · exact ⟨other, inside, of, on⟩
    · rintro ⟨other, inside, of, on⟩
      exact ⟨other, .inr inside, of, on⟩

/-- All days are given back to a recurrence, and none to another. -/
theorem excludedDays_removeRecurrence (records : Records) (recurrenceId : String) :
    (records.removeRecurrence recurrenceId).excludedDays
      = Function.update records.excludedDays recurrenceId ∅ := by
  have stored (other : Exclusion) : other ∈ (records.removeRecurrence recurrenceId).exclusions.rows
      ↔ other ∈ records.exclusions.rows ∧ other.recurrenceId ≠ recurrenceId := by
    simp [removeRecurrence]
  apply Function.eq_update_iff.mpr
  constructor
  · apply Set.eq_empty_of_forall_notMem
    intro day excluded
    obtain ⟨other, inside, of, -⟩ := mem_excludedDays.mp excluded
    exact ((stored other).mp inside).2 of
  · intro other elsewhere
    ext day
    simp only [mem_excludedDays, stored]
    constructor
    · rintro ⟨exclusion, ⟨inside, -⟩, of, on⟩
      exact ⟨exclusion, inside, of, on⟩
    · rintro ⟨exclusion, inside, of, on⟩
      exact ⟨exclusion, ⟨inside, of.symm ▸ elsewhere⟩, of, on⟩

/-- Where a day is excluded once at most, it is not excluded any more after one row is erased. -/
theorem ExcludedOnce.excludedDays_removeExclusion (once : records.ExcludedOnce)
    (recurrenceId : String) (day : Date) :
    (records.removeExclusion recurrenceId day).excludedDays
      = Function.update records.excludedDays recurrenceId
        (records.excludedDays recurrenceId \ {day}) := by
  rw [removeExclusion]
  cases found : records.exclusionOn? recurrenceId day with
  | none =>
    have absent := exclusionOn?_eq_none_iff.mp found
    rw [Set.sdiff_singleton_eq_self absent, Function.update_eq_self]
  | some present =>
    obtain ⟨inside, of, on⟩ := mem_of_exclusionOn? found
    -- the row that is erased is the only one for the day
    have stored (other : Exclusion) : other ∈ (records.exclusions.erase present.id).rows
        ↔ other ∈ records.exclusions.rows
          ∧ ¬ (other.recurrenceId = recurrenceId ∧ other.day = day) := by
      rw [Table.mem_erase]
      apply and_congr_right
      intro among
      apply not_congr
      constructor
      · intro same
        have one : other = present := Table.eq_of_key among inside same
        exact one ▸ ⟨of, on⟩
      · rintro ⟨of', on'⟩
        have one := once other among present inside (of'.trans of.symm) (on'.trans on.symm)
        exact congrArg Exclusion.id one
    apply Function.eq_update_iff.mpr
    constructor
    · ext day'
      simp only [Set.mem_sdiff, Set.mem_singleton_iff, mem_excludedDays, stored]
      constructor
      · rintro ⟨exclusion, ⟨among, other⟩, of', rfl⟩
        exact ⟨⟨exclusion, among, of', rfl⟩, fun same => other ⟨of', same⟩⟩
      · rintro ⟨⟨exclusion, among, of', rfl⟩, other⟩
        exact ⟨exclusion, ⟨among, fun same => other same.2⟩, of', rfl⟩
    · intro other elsewhere
      ext day'
      simp only [mem_excludedDays, stored]
      constructor
      · rintro ⟨exclusion, ⟨among, -⟩, of', on'⟩
        exact ⟨exclusion, among, of', on'⟩
      · rintro ⟨exclusion, among, of', on'⟩
        exact ⟨exclusion, ⟨among, fun same => elsewhere (of'.symm.trans same.1)⟩, of', on'⟩

theorem exists_removeExclusion_eq (records : Records) (recurrenceId : String) (day : Date) :
    ∃ exclusions, records.removeExclusion recurrenceId day
      = { records with exclusions := exclusions } := by
  unfold removeExclusion
  split
  · exact ⟨_, rfl⟩
  · exact ⟨records.exclusions, rfl⟩

/-- A recurrence shows on every date that it covers, unless the date is excluded from it or its
participant entered something for the date. -/
theorem mem_contributionsOn_of_covers {calendarId : String} {participant : Participant}
    {recurrence : Recurrence} (stored : participant ∈ records.participants.rows)
    (belongs : participant.calendarId = calendarId)
    (inside : recurrence ∈ records.recurrences.rows)
    (own : recurrence.participantId = participant.id) (covered : recurrence.covers day)
    (shown : records.isExcluded recurrence.id day = false)
    (free : records.hasAvailability participant.id day = false) :
    .ofRecurrence participant recurrence ∈ records.contributionsOn calendarId day := by
  have joined := isSome_member? stored
  rw [belongs] at joined
  obtain ⟨other, found⟩ := Option.isSome_iff_exists.mp joined
  have one : other = participant :=
    Table.eq_of_key (mem_of_member? found).1 stored (id_of_member? found)
  rw [contributionsOn_eq_merged]
  apply List.mem_append_right
  refine List.mem_filterMap.mpr ⟨recurrence, ?_, ?_⟩
  · rw [mem_repeatedOn, own]
    exact ⟨inside, joined, covered, shown, free⟩
  · rw [own, found, one]
    rfl

/-- The days that are listed for a recurrence ascend, and are those that are excluded. -/
theorem ExcludedOnce.exclusionsOf (once : records.ExcludedOnce) (recurrenceId : String) :
    ((records.exclusionsOf recurrenceId).map Exclusion.day).Pairwise (· < ·)
      ∧ ∀ day, day ∈ (records.exclusionsOf recurrenceId).map Exclusion.day
        ↔ day ∈ records.excludedDays recurrenceId := by
  constructor
  · apply List.pairwise_map.mpr
    apply Date.pairwise_lt_mergeSort Exclusion.day
    have rows := List.Nodup.of_map _ records.exclusions.nodup
    apply (rows.filter _).pairwise_of_forall_ne
    intro a insideA b insideB different same
    obtain ⟨storedA, ofA⟩ := List.mem_filter.mp insideA
    obtain ⟨storedB, ofB⟩ := List.mem_filter.mp insideB
    rw [decide_eq_true_eq] at ofA ofB
    exact different (once a storedA b storedB (ofA.trans ofB.symm) same)
  · intro day
    rw [mem_excludedDays]
    simp [Records.exclusionsOf, List.mem_mergeSort, and_assoc]

/-! ## What every operation keeps -/

theorem Rearrangement.excludedOnce {after : Records} (rearrangement : records.Rearrangement after)
    (once : records.ExcludedOnce) : after.ExcludedOnce := by
  cases rearrangement with
  | enter recurrence ordered fresh apart => exact once
  | revise present revised inside sameId sameParticipant ordered apart => exact once
  | withdraw recurrence inside =>
    intro a insideA b insideB
    exact once a (List.mem_of_mem_filter insideA) b (List.mem_of_mem_filter insideB)
  | exclude exclusion known absent fresh =>
    rw [exclusionOn?_eq_none_iff, mem_excludedDays] at absent
    intro a insideA b insideB of on
    rcases Table.mem_put.mp insideA with rfl | ⟨storedA, -⟩
    · rcases Table.mem_put.mp insideB with rfl | ⟨storedB, -⟩
      · rfl
      · exact absurd ⟨b, storedB, of.symm, on.symm⟩ absent
    · rcases Table.mem_put.mp insideB with rfl | ⟨storedB, -⟩
      · exact absurd ⟨a, storedA, of, on⟩ absent
      · exact once a storedA b storedB of on
  | restore recurrenceId day =>
    rw [removeExclusion]
    split
    · intro a insideA b insideB
      exact once a (Table.mem_erase.mp insideA).1 b (Table.mem_erase.mp insideB).1
    · exact once

end Records

/-- Whether an operation is about excluded days, if only because it deletes a recurrence. -/
def Operation.excludes : Operation → Bool
  | .createExclusion .. => true
  | .deleteExclusion .. => true
  | .deleteRecurrence .. => true
  | _ => false

/-- What an operation makes of the sets of excluded days, where it succeeds. -/
def Operation.redraw (operation : Operation) (sets : String → Set Date) : String → Set Date :=
  match operation with
  | .createExclusion _ _ recurrenceId request =>
      match Date.request request.day with
      | .ok day => Function.update sets recurrenceId (insert day (sets recurrenceId))
      | .error _ => sets
  | .deleteExclusion _ _ recurrenceId text =>
      match Date.request text with
      | .ok day => Function.update sets recurrenceId (sets recurrenceId \ {day})
      | .error _ => sets
  | .deleteRecurrence _ _ recurrenceId => Function.update sets recurrenceId ∅
  | _ => sets

theorem Operation.redraw_of_not_excludes {operation : Operation} (sets : String → Set Date)
    (other : operation.excludes = false) : operation.redraw sets = sets := by
  cases operation <;> first | rfl | cases other

namespace Board

variable {surroundings : Surroundings} {board : Board} {operation : Operation}

theorem excludedOnce_perform (surroundings : Surroundings) (operation : Operation)
    (once : board.records.ExcludedOnce) :
    (board.perform surroundings operation).board.records.ExcludedOnce := by
  rcases rearrangement_of_perform surroundings board operation with ⟨-, same⟩ | rearranged
  · unfold Records.ExcludedOnce
    rw [same]
    exact once
  · exact rearranged.excludedOnce once

theorem excludedOnce_after (run : List (Surroundings × Operation))
    (once : board.records.ExcludedOnce) : (board.after run).records.ExcludedOnce := by
  induction run generalizing board with
  | nil => exact once
  | cons entry rest ih => exact ih (excludedOnce_perform entry.1 entry.2 once)

/-! ## What operations do to the sets -/

variable {token participantId recurrenceId text : String} {request : ExclusionRequest}
  {calendar : Calendar} {participant : Participant} {recurrence : Recurrence} {day : Date}

/-- Any other operation leaves the exclusions alone. -/
theorem exclusions_of_not_excludes (surroundings : Surroundings) (board : Board)
    (other : operation.excludes = false) :
    (board.perform surroundings operation).board.records.exclusions
      = board.records.exclusions := by
  cases perform_change surroundings board operation with
  | nothing tokens outages more fewer reaches => rw [reaches.board]
  | enter number asked decided absent next publishes =>
    rw [publishes.records]
    rfl
  | revise asked decided publishes =>
    rw [publishes.records]
    rfl
  | withdraw asked decided publishes =>
    rw [publishes.records]
    rfl
  | agree number asked located decided next reaches =>
    rw [reaches.board]
    rfl
  | amend asked owned decided reaches =>
    rw [reaches.board]
    rfl
  | drop asked =>
    rw [asked] at other
    cases other
  | exclude number asked =>
    rw [asked] at other
    cases other
  | restore asked =>
    rw [asked] at other
    cases other
  | request asked stored lasts publishes =>
    rw [publishes.records]
    rfl
  | confirm asked found unverified timely reaches =>
    rw [reaches.board]
    rfl
  | check asked events follows =>
    obtain ⟨log, outages, -, reached⟩ := board_checkThreshold surroundings board _ _ _
    rw [follows.board, reached]
  | clean asked retained reaches => rw [reaches.board]
  | advance asked moved reaches => rw [reaches.board]

theorem perform_createExclusion_of_error (surroundings : Surroundings) {failure : Failure}
    (refused : board.excludable token participantId recurrenceId request.day = .error failure) :
    board.perform surroundings (.createExclusion token participantId recurrenceId request)
      = .fail board failure := by
  rw [perform, createExclusion, refused]
  rfl

theorem perform_createExclusion_of_some (surroundings : Surroundings) {present : Exclusion}
    (decided : board.excludable token participantId recurrenceId request.day
      = .ok (recurrence, day))
    (found : board.records.exclusionOn? recurrence.id day = some present) :
    board.perform surroundings (.createExclusion token participantId recurrenceId request)
      = .answer board (.exclusion present) := by
  rw [perform, createExclusion, decided]
  simp only [found]
  rfl

theorem perform_createExclusion_of_none (surroundings : Surroundings)
    (decided : board.excludable token participantId recurrenceId request.day
      = .ok (recurrence, day))
    (free : board.records.exclusionOn? recurrence.id day = none) :
    let number := Fresh.next board.exclusionIds board.issued
    let exclusion : Exclusion := ⟨Fresh.name number, recurrence.id, day, board.now⟩
    board.perform surroundings (.createExclusion token participantId recurrenceId request)
      = .answer
        { board with
          records := { board.records with exclusions := board.records.exclusions.put exclusion }
          issued := number } (.exclusion exclusion) := by
  rw [perform, createExclusion_of_none decided free]
  rfl

theorem perform_deleteExclusion_of_error (surroundings : Surroundings) {failure : Failure}
    (refused : board.excludable token participantId recurrenceId text = .error failure) :
    board.perform surroundings (.deleteExclusion token participantId recurrenceId text)
      = .fail board failure := by
  rw [perform, deleteExclusion, refused]
  rfl

theorem perform_deleteExclusion_of_ok (surroundings : Surroundings)
    (decided : board.excludable token participantId recurrenceId text = .ok (recurrence, day)) :
    board.perform surroundings (.deleteExclusion token participantId recurrenceId text)
      = .answer { board with records := board.records.removeExclusion recurrence.id day } .done := by
  rw [perform, deleteExclusion, decided]
  rfl

theorem perform_deleteRecurrence_of_error (surroundings : Surroundings) {failure : Failure}
    (refused : board.owned token participantId recurrenceId = .error failure) :
    board.perform surroundings (.deleteRecurrence token participantId recurrenceId)
      = .fail board failure := by
  rw [perform, deleteRecurrence, refused]
  rfl

theorem perform_deleteRecurrence_of_ok (surroundings : Surroundings)
    (owned : board.owned token participantId recurrenceId
      = .ok (calendar, participant, recurrence)) :
    board.perform surroundings (.deleteRecurrence token participantId recurrenceId)
      = .answer { board with records := board.records.removeRecurrence recurrence.id } .done := by
  rw [perform, deleteRecurrence, owned]
  rfl

/-- What a step makes of the sets: what the operation is to make of them, or nothing where it
fails. -/
structure Redraws (board : Board) (operation : Operation) (step : Step Answer) : Prop where
  done : ∀ {answer : Answer}, step.outcome = .ok answer →
    step.board.records.excludedDays = operation.redraw board.records.excludedDays
  failed : ∀ {failure : Failure}, step.outcome = .error failure →
    step.board.records.excludedDays = board.records.excludedDays

theorem redraws_fail (operation : Operation) (failure : Failure) :
    board.Redraws operation (.fail board failure) := by
  refine ⟨?_, fun _ => rfl⟩
  intro answer told
  cases told

theorem redraws_answer {changed : Board} (answer : Answer)
    (drawn : changed.records.excludedDays = operation.redraw board.records.excludedDays) :
    board.Redraws operation (.answer changed answer) := by
  refine ⟨fun _ => drawn, ?_⟩
  intro failure told
  cases told

theorem redraws_createExclusion (surroundings : Surroundings)
    (token participantId recurrenceId : String) (request : ExclusionRequest) :
    board.Redraws (.createExclusion token participantId recurrenceId request)
      (board.perform surroundings (.createExclusion token participantId recurrenceId request)) := by
  cases decided : board.excludable token participantId recurrenceId request.day with
  | error failure =>
    rw [perform_createExclusion_of_error surroundings decided]
    exact redraws_fail _ failure
  | ok found =>
    obtain ⟨recurrence, day⟩ := found
    obtain ⟨⟨calendar, participant, owned⟩, read⟩ := excludable_eq_ok decided
    obtain ⟨-, -, rfl, -⟩ := owned_eq_ok owned
    cases found : board.records.exclusionOn? recurrence.id day with
    | some present =>
      have excluded : day ∈ board.records.excludedDays recurrence.id := by
        obtain ⟨inside, of, on⟩ := Records.mem_of_exclusionOn? found
        exact Records.mem_excludedDays.mpr ⟨present, inside, of, on⟩
      rw [perform_createExclusion_of_some surroundings decided found]
      apply redraws_answer
      simp only [Operation.redraw, read, Set.insert_eq_of_mem excluded, Function.update_eq_self]
    | none =>
      rw [perform_createExclusion_of_none surroundings decided found]
      apply redraws_answer
      simp only [Operation.redraw, read]
      exact Records.excludedDays_put (Fresh.ne_name_next Exclusion.id _ _)

theorem redraws_deleteExclusion (once : board.records.ExcludedOnce) (surroundings : Surroundings)
    (token participantId recurrenceId text : String) :
    board.Redraws (.deleteExclusion token participantId recurrenceId text)
      (board.perform surroundings (.deleteExclusion token participantId recurrenceId text)) := by
  cases decided : board.excludable token participantId recurrenceId text with
  | error failure =>
    rw [perform_deleteExclusion_of_error surroundings decided]
    exact redraws_fail _ failure
  | ok found =>
    obtain ⟨recurrence, day⟩ := found
    obtain ⟨⟨calendar, participant, owned⟩, read⟩ := excludable_eq_ok decided
    obtain ⟨-, -, rfl, -⟩ := owned_eq_ok owned
    rw [perform_deleteExclusion_of_ok surroundings decided]
    apply redraws_answer
    simp only [Operation.redraw, read]
    exact once.excludedDays_removeExclusion recurrence.id day

theorem redraws_deleteRecurrence (surroundings : Surroundings)
    (token participantId recurrenceId : String) :
    board.Redraws (.deleteRecurrence token participantId recurrenceId)
      (board.perform surroundings (.deleteRecurrence token participantId recurrenceId)) := by
  cases owned : board.owned token participantId recurrenceId with
  | error failure =>
    rw [perform_deleteRecurrence_of_error surroundings owned]
    exact redraws_fail _ failure
  | ok found =>
    obtain ⟨calendar, participant, recurrence⟩ := found
    obtain ⟨-, -, rfl, -⟩ := owned_eq_ok owned
    rw [perform_deleteRecurrence_of_ok surroundings owned]
    apply redraws_answer
    exact Records.excludedDays_removeRecurrence board.records recurrence.id

/-- An operation makes of the sets what it is to make of them. -/
theorem redraws_perform (once : board.records.ExcludedOnce) (surroundings : Surroundings)
    (operation : Operation) :
    board.Redraws operation (board.perform surroundings operation) := by
  cases kind : operation.excludes with
  | false =>
    have same := Records.excludedDays_congr (exclusions_of_not_excludes surroundings board kind)
    refine ⟨fun _ => ?_, fun _ => same⟩
    rw [same, operation.redraw_of_not_excludes _ kind]
  | true =>
    cases operation with
    | createExclusion => exact redraws_createExclusion surroundings _ _ _ _
    | deleteExclusion => exact redraws_deleteExclusion once surroundings _ _ _ _
    | deleteRecurrence => exact redraws_deleteRecurrence surroundings _ _ _
    | _ => cases kind

/-! ## What callers are told -/

theorem excludable_of_owned
    (owned : board.owned token participantId recurrenceId
      = .ok (calendar, participant, recurrence)) (read : Date.request text = .ok day) :
    board.excludable token participantId recurrenceId text = .ok (recurrence, day) := by
  rw [excludable, owned, Except.ok_bind]
  dsimp only
  rw [read]
  rfl

/-- To callers the days excluded from a recurrence are a set, from which a day can be taken again
as if it had never been in it. -/
structure SetsApart (board : Board) : Prop where
  linked : board.records.Linked
  once : board.records.ExcludedOnce
  redraws : ∀ (surroundings : Surroundings) (operation : Operation),
    board.Redraws operation (board.perform surroundings operation)
  created : ∀ (surroundings : Surroundings) {token participantId recurrenceId : String}
    {request : ExclusionRequest} {calendar : Calendar} {participant : Participant}
    {recurrence : Recurrence} {day : Date},
    board.owned token participantId recurrenceId = .ok (calendar, participant, recurrence) →
    Date.request request.day = .ok day →
    let step :=
      board.perform surroundings (.createExclusion token participantId recurrenceId request)
    ∃ exclusion, step.outcome = .ok (.exclusion exclusion)
      ∧ exclusion ∈ step.board.records.exclusions.rows
      ∧ exclusion.recurrenceId = recurrenceId ∧ exclusion.day = day
      ∧ (day ∈ board.records.excludedDays recurrenceId → step.board = board)
  deleted : ∀ (surroundings : Surroundings) {token participantId recurrenceId text : String}
    {calendar : Calendar} {participant : Participant} {recurrence : Recurrence} {day : Date},
    board.owned token participantId recurrenceId = .ok (calendar, participant, recurrence) →
    Date.request text = .ok day →
    let step := board.perform surroundings (.deleteExclusion token participantId recurrenceId text)
    step.outcome = .ok .done
      ∧ (day ∉ board.records.excludedDays recurrenceId → step.board = board)
      ∧ (recurrence.covers day → board.records.hasAvailability participantId day = false →
        .ofRecurrence participant recurrence
          ∈ step.board.records.contributionsOn calendar.id day)
  dropped : ∀ (surroundings : Surroundings) {token participantId recurrenceId : String}
    {calendar : Calendar} {participant : Participant} {recurrence : Recurrence},
    board.owned token participantId recurrenceId = .ok (calendar, participant, recurrence) →
    (board.perform surroundings (.deleteRecurrence token participantId recurrenceId)).outcome
      = .ok .done
  listed : ∀ {token participantId : String} {calendar : Calendar} {participant : Participant},
    board.records.locate token participantId = .ok (calendar, participant) →
    ∃ listings, board.listRecurrences token participantId = .ok listings
      ∧ listings.map RecurrenceListing.recurrence = board.records.recurrencesOf participantId
      ∧ ∀ listing ∈ listings, (listing.exclusions.map Exclusion.day).Pairwise (· < ·)
        ∧ ∀ day, day ∈ listing.exclusions.map Exclusion.day
          ↔ day ∈ board.records.excludedDays listing.recurrence.id

theorem created_exclusion (surroundings : Surroundings)
    (owned : board.owned token participantId recurrenceId
      = .ok (calendar, participant, recurrence)) (read : Date.request request.day = .ok day) :
    let step :=
      board.perform surroundings (.createExclusion token participantId recurrenceId request)
    ∃ exclusion, step.outcome = .ok (.exclusion exclusion)
      ∧ exclusion ∈ step.board.records.exclusions.rows
      ∧ exclusion.recurrenceId = recurrenceId ∧ exclusion.day = day
      ∧ (day ∈ board.records.excludedDays recurrenceId → step.board = board) := by
  have decided := excludable_of_owned owned read
  obtain ⟨-, -, rfl, -⟩ := owned_eq_ok owned
  cases found : board.records.exclusionOn? recurrence.id day with
  | some present =>
    rw [perform_createExclusion_of_some surroundings decided found]
    obtain ⟨inside, of, on⟩ := Records.mem_of_exclusionOn? found
    exact ⟨present, rfl, inside, of, on, fun _ => rfl⟩
  | none =>
    rw [perform_createExclusion_of_none surroundings decided found]
    refine ⟨_, rfl, Table.mem_put.mpr (.inl rfl), rfl, rfl, ?_⟩
    intro excluded
    exact absurd excluded (Records.exclusionOn?_eq_none_iff.mp found)

/-- A day that is given back to a recurrence shows it, unless something is entered for the day. -/
theorem deleted_exclusion (once : board.records.ExcludedOnce) (surroundings : Surroundings)
    (owned : board.owned token participantId recurrenceId
      = .ok (calendar, participant, recurrence)) (read : Date.request text = .ok day) :
    let step := board.perform surroundings (.deleteExclusion token participantId recurrenceId text)
    step.outcome = .ok .done
      ∧ (day ∉ board.records.excludedDays recurrenceId → step.board = board)
      ∧ (recurrence.covers day → board.records.hasAvailability participantId day = false →
        .ofRecurrence participant recurrence
          ∈ step.board.records.contributionsOn calendar.id day) := by
  have decided := excludable_of_owned owned read
  obtain ⟨located, inside, rfl, own⟩ := owned_eq_ok owned
  obtain ⟨-, stored, rfl, belongs⟩ := Records.locate_eq_ok located
  rw [perform_deleteExclusion_of_ok surroundings decided]
  refine ⟨rfl, ?_, ?_⟩
  · intro absent
    have unchanged : board.records.removeExclusion recurrence.id day = board.records := by
      rw [Records.removeExclusion, Records.exclusionOn?_eq_none_iff.mpr absent]
    dsimp only [Step.answer]
    rw [unchanged]
  · intro covered free
    have absent : day ∉ (board.records.removeExclusion recurrence.id day).excludedDays
        recurrence.id := by
      rw [once.excludedDays_removeExclusion]
      simp
    have shown : (board.records.removeExclusion recurrence.id day).isExcluded recurrence.id day
        = false := by
      simpa [Records.excludedDays] using absent
    obtain ⟨exclusions, same⟩ := board.records.exists_removeExclusion_eq recurrence.id day
    dsimp only [Step.answer]
    rw [same] at shown ⊢
    exact Records.mem_contributionsOn_of_covers stored belongs inside own covered shown free

/-- Where nothing is excluded at first, the days excluded from each recurrence are a set along any
run. -/
theorem sets_apart_after (board : Board) (run : List (Surroundings × Operation))
    (noExclusion : board.records.exclusions.rows = []) :
    (board.after run).SetsApart := by
  have linked : board.records.Linked := by
    intro exclusion inside
    rw [noExclusion] at inside
    cases inside
  have once : board.records.ExcludedOnce := by
    intro exclusion inside
    rw [noExclusion] at inside
    cases inside
  have once' := excludedOnce_after run once
  refine ⟨linked_after run linked, once', redraws_perform once',
    fun surroundings => created_exclusion surroundings,
    fun surroundings => deleted_exclusion once' surroundings, ?_, ?_⟩
  · intro surroundings token participantId recurrenceId calendar participant recurrence owned
    rw [perform_deleteRecurrence_of_ok surroundings owned]
    rfl
  · intro token participantId calendar participant located
    obtain ⟨-, -, own, -⟩ := Records.locate_eq_ok located
    refine ⟨_, (by rw [listRecurrences, located]; rfl), ?_, ?_⟩
    · simp [Function.comp_def, own]
    · intro listing among
      obtain ⟨recurrence, -, rfl⟩ := List.mem_map.mp among
      exact once'.exclusionsOf recurrence.id

/-- A day is excluded twice from a weekly slot, and another is excluded and given back. -/
theorem sets_apart_after_sample :
    let name := Fresh.name 1
    let run := [
      (Surroundings.sample, Operation.createRecurrence "open" "ann"
        ⟨some 4, none, none, none, "2025-06-01", none⟩),
      (Surroundings.sample, .createExclusion "open" "ann" name ⟨"2025-06-05"⟩),
      (Surroundings.sample, .createExclusion "open" "ann" name ⟨"2025-06-05"⟩),
      (Surroundings.sample, .createExclusion "open" "ann" name ⟨"2025-06-12"⟩),
      (Surroundings.sample, .deleteExclusion "open" "ann" name "2025-06-12")]
    let after := sample.after run
    let recurrence : Recurrence :=
      ⟨name, "ann", 4, ⟨none, none⟩, none, ⟨739403, by decide, by decide⟩, none, sample.now⟩
    sample.records.exclusions.rows = [] ∧ after.SetsApart
      ∧ after.owned "open" "ann" name = .ok (.sample, .sample "ann" "Ann", recurrence)
      ∧ after.records.exclusions.rows.length = 1
      ∧ after.records.isExcluded name .sample = true
      ∧ (after.perform .sample (.deleteExclusion "open" "ann" name "2025-06-05")).outcome
        = .ok .done
      ∧ .ofRecurrence (.sample "ann" "Ann") recurrence ∈
        (after.perform .sample (.deleteExclusion "open" "ann" name
          "2025-06-05")).board.records.contributionsOn "club" .sample := by
  intro name run after recurrence
  have apart : after.SetsApart := sets_apart_after sample run rfl
  have owned : after.owned "open" "ann" name
      = .ok (.sample, .sample "ann" "Ann", recurrence) := by decide +kernel
  have read : Date.request "2025-06-05" = .ok .sample := by decide +kernel
  obtain ⟨done, -, shown⟩ := apart.deleted .sample owned read
  refine ⟨rfl, apart, owned, by decide +kernel, by decide +kernel, done, ?_⟩
  exact shown (by decide) (by decide +kernel)

end Board

end Rendezvous
