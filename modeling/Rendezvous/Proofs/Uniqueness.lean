import Mathlib.Data.List.Dedup
import Mathlib.Data.List.MinMax
import Mathlib.Order.Nat
import Rendezvous.Proofs.Deeds
import Rendezvous.Proofs.Merge

/-!
# Nobody is counted twice

A participant stores at most one availability for a day, and at most one of their
recurrences covers it.  Every operation keeps it so, and then a date shows everyone once.
-/

namespace Rendezvous

theorem Date.rangesOverlap_comm (firstA : Date) (lastA : Option Date) (firstB : Date)
    (lastB : Option Date) :
    rangesOverlap firstA lastA firstB lastB = rangesOverlap firstB lastB firstA lastA := by
  cases lastA <;> cases lastB <;> simp [rangesOverlap, Bool.and_comm]

theorem Recurrence.Apart.symm {a b : Recurrence} (apart : a.Apart b) : b.Apart a := by
  intro own same
  rw [Date.rangesOverlap_comm]
  exact apart own.symm same.symm

/-- Recurrences of one participant that are apart do not cover the same date. -/
theorem Recurrence.Apart.not_covers {a b : Recurrence} {day : Date} (apart : a.Apart b)
    (own : a.participantId = b.participantId) (covered : a.covers day) : ¬ b.covers day := by
  intro covered'
  obtain ⟨weekday, within⟩ := covers_iff.mp covered
  obtain ⟨weekday', within'⟩ := covers_iff.mp covered'
  have free := apart own (weekday.symm.trans weekday')
  rw [Date.rangesOverlap_of_inRange within within'] at free
  cases free

/-! ## What every operation keeps -/

/-- Nobody stores two availabilities for one day. -/
def Records.EnteredOnce (records : Records) : Prop :=
  ∀ a ∈ records.availabilities.rows, ∀ b ∈ records.availabilities.rows,
    a.participantId = b.participantId → a.day = b.day → a = b

/-- Nobody stores two availabilities for one day, and the recurrences of everyone are in
order and apart from each other. -/
structure Records.Unique (records : Records) : Prop where
  days : ∀ a ∈ records.availabilities.rows, ∀ b ∈ records.availabilities.rows,
    a.participantId = b.participantId → a.day = b.day → a = b
  ordered : ∀ recurrence ∈ records.recurrences.rows, recurrence.Ordered
  apart : ∀ a ∈ records.recurrences.rows, ∀ b ∈ records.recurrences.rows, a.id ≠ b.id →
    a.Apart b

namespace Records

variable {records records' : Records} {now : Instant} {participantId : String} {day : Date}

/-- Where there is one row for a day at most, it is the one that is found. -/
theorem EnteredOnce.availabilityOn?_eq_some_iff (once : records.EnteredOnce)
    {availability : Availability} :
    records.availabilityOn? participantId day = some availability
      ↔ availability ∈ records.availabilities.rows
        ∧ availability.participantId = participantId ∧ availability.day = day := by
  refine ⟨mem_of_availabilityOn?, ?_⟩
  rintro ⟨inside, own, on⟩
  cases found : records.availabilityOn? participantId day with
  | none => exact absurd on (availabilityOn?_eq_none_iff.mp found availability inside own)
  | some other =>
    obtain ⟨among, own', on'⟩ := mem_of_availabilityOn? found
    rw [once other among availability inside (own'.trans own.symm) (on'.trans on.symm)]

/-- Where a row goes in on a day that no other row of its participant is on, the rows stay
unique. -/
theorem EnteredOnce.put {availability : Availability} (once : records.EnteredOnce)
    (alone : ∀ other ∈ records.availabilities.rows, other.id ≠ availability.id →
      other.participantId = availability.participantId → other.day ≠ availability.day) :
    EnteredOnce { records with availabilities := records.availabilities.put availability } := by
  intro a insideA b insideB own same
  rcases Table.mem_put.mp insideA with rfl | ⟨storedA, otherA⟩
  · rcases Table.mem_put.mp insideB with rfl | ⟨storedB, otherB⟩
    · rfl
    · exact absurd same.symm (alone b storedB otherB own.symm)
  · rcases Table.mem_put.mp insideB with rfl | ⟨storedB, otherB⟩
    · exact absurd same (alone a storedA otherA own)
    · exact once a storedA b storedB own same

theorem Edit.enteredOnce (edit : records.Edit now participantId day records')
    (once : records.EnteredOnce) : records'.EnteredOnce := by
  cases edit with
  | enter availability own on made absent fresh =>
    apply once.put
    intro other inside _ own' same
    exact availabilityOn?_eq_none_iff.mp absent other inside (own'.trans own) (same.trans on)
  | revise present revised found sameId sameParticipant sameDay sameMade =>
    obtain ⟨inside, -, -⟩ := mem_of_availabilityOn? found
    apply once.put
    intro other among different own same
    have one := once other among present inside (own.trans sameParticipant)
      (same.trans sameDay)
    exact different (one ▸ sameId.symm)
  | withdraw present found =>
    intro a insideA b insideB
    exact once a (Table.mem_erase.mp insideA).1 b (Table.mem_erase.mp insideB).1

theorem Edit.unique (edit : records.Edit now participantId day records')
    (unique : records.Unique) : records'.Unique := by
  refine ⟨edit.enteredOnce unique.days, ?_, ?_⟩
  · cases edit <;> exact unique.ordered
  · cases edit <;> exact unique.apart

/-- Where a recurrence goes in that is apart from all others, the recurrences stay apart. -/
theorem unique_put {recurrence : Recurrence} (unique : records.Unique)
    (ordered : recurrence.Ordered)
    (apart : ∀ other ∈ records.recurrences.rows, other.id ≠ recurrence.id →
      recurrence.Apart other) :
    Unique { records with recurrences := records.recurrences.put recurrence } := by
  refine ⟨unique.days, ?_, ?_⟩
  · intro other inside
    rcases Table.mem_put.mp inside with rfl | ⟨stored, -⟩
    · exact ordered
    · exact unique.ordered other stored
  · intro a insideA b insideB different
    rcases Table.mem_put.mp insideA with rfl | ⟨storedA, otherA⟩
    · rcases Table.mem_put.mp insideB with rfl | ⟨storedB, otherB⟩
      · exact absurd rfl different
      · exact apart b storedB otherB
    · rcases Table.mem_put.mp insideB with rfl | ⟨storedB, otherB⟩
      · exact (apart a storedA otherA).symm
      · exact unique.apart a storedA b storedB different

theorem Rearrangement.unique (rearrangement : records.Rearrangement records')
    (unique : records.Unique) : records'.Unique := by
  cases rearrangement with
  | enter recurrence ordered fresh apart =>
    exact unique_put unique ordered fun other inside _ => apart other inside
  | revise present revised inside sameId sameParticipant ordered apart =>
    exact unique_put unique ordered apart
  | withdraw recurrence inside =>
    refine ⟨unique.days, ?_, ?_⟩
    · intro other among
      exact unique.ordered other (Table.mem_erase.mp among).1
    · intro a insideA b insideB
      exact unique.apart a (Table.mem_erase.mp insideA).1 b (Table.mem_erase.mp insideB).1
  | exclude exclusion known absent fresh =>
    exact ⟨unique.days, unique.ordered, unique.apart⟩
  | restore recurrenceId day =>
    rw [removeExclusion]
    split
    · exact ⟨unique.days, unique.ordered, unique.apart⟩
    · exact unique

end Records

namespace Board

theorem enteredOnce_perform (surroundings : Surroundings) (board : Board) (operation : Operation)
    (once : board.records.EnteredOnce) :
    (board.perform surroundings operation).board.records.EnteredOnce := by
  cases asks : operation.place? with
  | none =>
    unfold Records.EnteredOnce
    rw [availabilities_of_placeless surroundings board asks]
    exact once
  | some place =>
    rcases board.edit_of_place surroundings asks with same | ⟨day, read, edit⟩
    · rwa [same]
    · exact edit.enteredOnce once

theorem enteredOnce_after (board : Board) (run : List (Surroundings × Operation))
    (once : board.records.EnteredOnce) : (board.after run).records.EnteredOnce := by
  induction run generalizing board with
  | nil => exact once
  | cons head rest ih => exact ih _ (enteredOnce_perform head.1 board head.2 once)

theorem unique_perform (surroundings : Surroundings) (board : Board) (operation : Operation)
    (unique : board.records.Unique) :
    (board.perform surroundings operation).board.records.Unique := by
  rcases rearrangement_of_perform surroundings board operation with ⟨same, -⟩ | rearranged
  · refine ⟨enteredOnce_perform surroundings board operation unique.days, ?_, ?_⟩
    · rw [same]
      exact unique.ordered
    · rw [same]
      exact unique.apart
  · exact rearranged.unique unique

theorem unique_after (board : Board) (run : List (Surroundings × Operation))
    (unique : board.records.Unique) : (board.after run).records.Unique := by
  induction run generalizing board with
  | nil => exact unique
  | cons entry rest ih => exact ih _ (unique_perform entry.1 board entry.2 unique)

end Board

/-! ## What a date shows then -/

namespace Sweep

theorem count_le_of_mem_piecesBetween {intervals : List Interval} {cuts : List Int}
    {piece : Piece} (inside : piece ∈ piecesBetween intervals cuts) :
    piece.count ≤ intervals.length := by
  induction cuts with
  | nil => cases inside
  | cons start rest ih =>
    cases rest with
    | nil => cases inside
    | cons stop later =>
      rw [piecesBetween] at inside
      rcases List.mem_cons.mp inside with rfl | inside
      · exact List.countP_le_length
      · exact ih inside

/-- No more slots overlap than there are. -/
theorem maxSimultaneous_le_length (slots : List Slot) :
    maxSimultaneous slots ≤ slots.length := by
  have few : ∀ count ∈ (pieces (slots.filterMap Slot.interval?) []).map Piece.count,
      count ≤ slots.length := by
    intro count counted
    obtain ⟨piece, inside, rfl⟩ := List.mem_map.mp counted
    exact Nat.le_trans (count_le_of_mem_piecesBetween inside) (List.length_filterMap_le _ _)
  exact List.max_le_of_forall_le _ _ few

end Sweep

namespace Records

variable {records : Records} {calendarId : String} {day : Date}

/-- What is seen of the contributions that are made of rows is seen of the rows. -/
theorem map_filterMap_member {α β : Type} (rows : List α) (owner : α → String)
    (contribution : Participant → α → Contribution) (view : Contribution → β) (seen : α → β)
    (shown : ∀ participant row, participant.id = owner row →
      view (contribution participant row) = seen row)
    (members : ∀ row ∈ rows, (records.member? calendarId (owner row)).isSome) :
    (rows.filterMap fun row => (records.member? calendarId (owner row)).map fun participant =>
        contribution participant row).map view
      = rows.map seen := by
  rw [List.map_filterMap, ← List.filterMap_eq_map]
  refine List.filterMap_congr fun row inside => ?_
  obtain ⟨participant, found⟩ := Option.isSome_iff_exists.mp (members row inside)
  simp [found, shown participant row (id_of_member? found)]

theorem mem_enteredOn {availability : Availability} :
    availability ∈ records.enteredOn calendarId day
      ↔ availability ∈ records.availabilities.rows ∧ availability.day = day
        ∧ (records.member? calendarId availability.participantId).isSome := by
  simp [enteredOn, List.mem_mergeSort]

theorem mem_repeatedOn {recurrence : Recurrence} :
    recurrence ∈ records.repeatedOn calendarId day
      ↔ recurrence ∈ records.recurrences.rows
        ∧ (records.member? calendarId recurrence.participantId).isSome ∧ recurrence.covers day
        ∧ records.isExcluded recurrence.id day = false
        ∧ records.hasAvailability recurrence.participantId day = false := by
  simp [repeatedOn, and_assoc]

theorem participantIds_merged (records : Records) (calendarId : String) (day : Date) :
    (records.merged calendarId day).map Contribution.participantId
      = ((records.enteredOn calendarId day).map fun availability =>
          some availability.participantId)
        ++ (records.repeatedOn calendarId day).map fun recurrence =>
          some recurrence.participantId := by
  rw [merged, List.map_append]
  congr 1
  · apply map_filterMap_member _ _ Contribution.ofAvailability
    · rintro participant availability same
      exact congrArg some same
    · exact fun availability inside => (mem_enteredOn.mp inside).2.2
  · apply map_filterMap_member _ _ Contribution.ofRecurrence
    · rintro participant recurrence same
      exact congrArg some same
    · exact fun recurrence inside => (mem_repeatedOn.mp inside).2.1

/-- A date shows the slots of its availabilities and those of its recurrences. -/
theorem map_slot_merged (records : Records) (calendarId : String) (day : Date) :
    (records.merged calendarId day).map Contribution.slot
      = (records.enteredOn calendarId day).map Availability.slot
        ++ (records.repeatedOn calendarId day).map Recurrence.slot := by
  rw [merged, List.map_append]
  congr 1
  · apply map_filterMap_member _ _ Contribution.ofAvailability
    · exact fun _ _ _ => rfl
    · exact fun availability inside => (mem_enteredOn.mp inside).2.2
  · apply map_filterMap_member _ _ Contribution.ofRecurrence
    · exact fun _ _ _ => rfl
    · exact fun recurrence inside => (mem_repeatedOn.mp inside).2.1

/-- A date shows everyone once. -/
theorem Unique.nodup_merged (unique : records.Unique) (calendarId : String) (day : Date) :
    ((records.merged calendarId day).map Contribution.participantId).Nodup := by
  rw [participantIds_merged, List.nodup_append]
  refine ⟨?_, ?_, ?_⟩
  · refine List.Nodup.map_on ?_ ?_
    · intro a insideA b insideB own
      obtain ⟨storedA, dayA, -⟩ := mem_enteredOn.mp insideA
      obtain ⟨storedB, dayB, -⟩ := mem_enteredOn.mp insideB
      exact unique.days a storedA b storedB (Option.some.inj own) (dayA.trans dayB.symm)
    · have rows := List.Nodup.of_map _ records.availabilities.nodup
      exact (List.mergeSort_perm _ _).nodup_iff.mpr (rows.filter _)
  · refine List.Nodup.map_on ?_ ((List.Nodup.of_map _ records.recurrences.nodup).filter _)
    intro a insideA b insideB own
    obtain ⟨storedA, -, coveredA, -⟩ := mem_repeatedOn.mp insideA
    obtain ⟨storedB, -, coveredB, -⟩ := mem_repeatedOn.mp insideB
    by_contra different
    have apart := unique.apart a storedA b storedB fun same =>
      different (Table.eq_of_key storedA storedB same)
    exact apart.not_covers (Option.some.inj own) coveredA coveredB
  · -- whoever entered the date is not shown again for a recurrence
    intro a insideA b insideB same
    obtain ⟨availability, entered, rfl⟩ := List.mem_map.mp insideA
    obtain ⟨recurrence, repeated, rfl⟩ := List.mem_map.mp insideB
    obtain ⟨stored, here, -⟩ := mem_enteredOn.mp entered
    obtain ⟨-, -, -, -, absent⟩ := mem_repeatedOn.mp repeated
    rw [hasAvailability, Option.isSome_eq_false_iff, Option.isNone_iff_eq_none] at absent
    exact availabilityOn?_eq_none_iff.mp absent availability stored (Option.some.inj same) here

/-- No more are counted at the same time of a date than it shows. -/
theorem Unique.simultaneous_le (unique : records.Unique) (calendarId : String) (day : Date) :
    records.simultaneous calendarId day
      ≤ ((records.merged calendarId day).map Contribution.participantId).dedup.length := by
  rw [(unique.nodup_merged calendarId day).dedup, simultaneous, contributionsOn_eq_merged,
    List.length_map, ← List.length_map Contribution.slot]
  exact Sweep.maxSimultaneous_le_length _

end Records

namespace Board

/-- Where nobody was available at first, nobody is ever counted twice: the availabilities
differ in participant or day, the recurrences of a participant on a weekday have no day in
common, and every date of every calendar shows everyone once. -/
theorem counted_once_after (board : Board) (run : List (Surroundings × Operation))
    (noAvailability : board.records.availabilities.rows = [])
    (noRecurrence : board.records.recurrences.rows = []) :
    let records := (board.after run).records
    (∀ a ∈ records.availabilities.rows, ∀ b ∈ records.availabilities.rows,
      a.participantId = b.participantId → a.day = b.day → a = b)
    ∧ (∀ a ∈ records.recurrences.rows, ∀ b ∈ records.recurrences.rows, a ≠ b →
      a.participantId = b.participantId → a.weekday = b.weekday →
      ∀ day, ¬ (Date.inRange a.firstDate a.lastDate day ∧ Date.inRange b.firstDate b.lastDate day))
    ∧ (∀ recurrence ∈ records.recurrences.rows, ∀ last ∈ recurrence.lastDate,
      recurrence.firstDate ≤ last)
    ∧ ∀ calendarId start stop day, start ≤ day → day ≤ stop →
      let shown := (Contribution.onDate
        (records.contributionsBetween calendarId start stop) day).map Contribution.participantId
      shown.Nodup ∧ records.simultaneous calendarId day ≤ shown.dedup.length := by
  have start : board.records.Unique := by
    refine ⟨?_, ?_, ?_⟩ <;> simp [noAvailability, noRecurrence]
  have unique := unique_after board run start
  refine ⟨unique.days, ?_, ?_, ?_⟩
  · intro a insideA b insideB different own same day within
    have apart := unique.apart a insideA b insideB fun same =>
      different (Table.eq_of_key insideA insideB same)
    have free := apart own same
    rw [Date.rangesOverlap_of_inRange within.1 within.2] at free
    cases free
  · intro recurrence inside last ends
    have ordered := unique.ordered recurrence inside
    rw [Recurrence.Ordered, Option.mem_def.mp ends] at ordered
    simpa using ordered
  · intro calendarId start stop day after before
    dsimp only
    rw [Records.onDate_contributionsBetween _ _ after before]
    exact ⟨unique.nodup_merged calendarId day, unique.simultaneous_le calendarId day⟩

end Board

/-- Surroundings in which nothing fails and no mail can be sent. -/
def Surroundings.sample : Surroundings where
  settings := .standard
  holidays := .sample
  today := none
  outlets := .refusing false [] []
  lookupFails := .none
  writeFails := .none

/-- A participant is available for all of 2025-06-05. -/
def Operation.sampleEntry (participantId : String) : Operation :=
  .createAvailability "open" participantId ⟨"2025-06-05", none, none, none⟩

/-- The same withdrawn. -/
def Operation.sampleWithdrawal (participantId : String) : Operation :=
  .deleteAvailability "open" participantId "2025-06-05"

/-- A weekly slot, and an availability on one of its days. -/
theorem Board.counted_once_after_sample :
    let run := [
      (Surroundings.sample,
        .createRecurrence "open" "ann" ⟨some 4, none, none, none, "2025-06-01", none⟩),
      (Surroundings.sample, .sampleEntry "ann")]
    let records := (Board.sample.after run).records
    Board.sample.records.availabilities.rows = [] ∧ Board.sample.records.recurrences.rows = []
      ∧ records.recurrences.rows.length = 1 ∧ records.availabilities.rows.length = 1
      ∧ ((Contribution.onDate (records.contributionsBetween "club" .sample .sample)
          .sample).map Contribution.participantId).Nodup := by
  intro run records
  obtain ⟨-, -, -, shown⟩ := counted_once_after Board.sample run rfl rfl
  exact ⟨rfl, rfl, by decide +kernel, by decide +kernel,
    (shown "club" .sample .sample .sample (Date.le_refl _) (Date.le_refl _)).1⟩

end Rendezvous
