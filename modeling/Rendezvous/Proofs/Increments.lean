import Rendezvous.Proofs.Deeds
import Rendezvous.Proofs.Readable
import Rendezvous.Proofs.Sweeps

/-!
# How far a change moves a count

An operation on an availability touches what one participant contributes to one date.  Everybody
else contributes what they did before, and the participant contributes once at most before and
after.  So no minute is covered by more than one more or one less, and the count of the date
moves by one at most.
-/

namespace Rendezvous

/-! ## Own contributions and those of others -/

namespace Contribution

/-- Whether a contribution is there in the minute from `minute` to `minute + 1`. -/
def holds (minute : Int) (contribution : Contribution) : Bool :=
  contribution.slot.interval?.any (Sweep.spans minute (minute + 1))

def isOf (participantId : String) (contribution : Contribution) : Bool :=
  contribution.participantId = some participantId

theorem coverage_slots (shown : List Contribution) (minute : Int) :
    Sweep.coverage ((shown.map slot).filterMap Slot.interval?) minute
      = shown.countP (holds minute) := by
  rw [Sweep.coverage_filterMap, List.countP_map]
  rfl

/-- Where others contribute the same and the participant contributes once at most, one more is
counted at most. -/
theorem maxSimultaneous_le_of_others {participantId : String} {shown shown' : List Contribution}
    (same : shown.filter (fun contribution => !contribution.isOf participantId)
      = shown'.filter fun contribution => !contribution.isOf participantId)
    (once : shown.countP (isOf participantId) ≤ 1) :
    Sweep.maxSimultaneous (shown.map slot) ≤ Sweep.maxSimultaneous (shown'.map slot) + 1 := by
  apply Sweep.maxSimultaneous_le_of_coverage
  intro minute
  rw [coverage_slots, coverage_slots,
    List.countP_eq_countP_filter_add shown (holds minute) (isOf participantId),
    List.countP_eq_countP_filter_add shown' (holds minute) (isOf participantId), same]
  have own : (shown.filter (isOf participantId)).countP (holds minute) ≤ 1 := by
    apply Nat.le_trans List.countP_le_length
    rwa [← List.countP_eq_length_filter]
  omega

end Contribution

namespace Records

variable {records records' : Records} {calendarId participantId : String} {day day' : Date}
  {now : Instant}

theorem filter_filterMap_others {α : Type} (rows : List α) (owner : α → String)
    (contribution : Participant → α → Contribution)
    (shown : ∀ participant row,
      (contribution participant row).participantId = some participant.id) :
    (rows.filterMap fun row => (records.member? calendarId (owner row)).map fun participant =>
        contribution participant row).filter (fun made => !made.isOf participantId)
      = (rows.filter fun row => owner row ≠ participantId).filterMap fun row =>
        (records.member? calendarId (owner row)).map fun participant =>
          contribution participant row := by
  rw [List.filter_filterMap, List.filterMap_filter]
  apply List.filterMap_congr
  intro row _
  cases found : records.member? calendarId (owner row) with
  | none => simp
  | some participant =>
    by_cases own : owner row = participantId
    · simp [Contribution.isOf, shown, id_of_member? found, own, Option.filter]
    · simp [Contribution.isOf, shown, id_of_member? found, own, Option.filter]

/-- An edit leaves alone what others contribute to any date. -/
theorem Edit.filter_merged (edit : records.Edit now participantId day' records')
    (calendarId : String) (day : Date) :
    (records'.merged calendarId day).filter (fun shown => !shown.isOf participantId)
      = (records.merged calendarId day).filter fun shown => !shown.isOf participantId := by
  obtain ⟨members, recurrences, exclusions⟩ := edit.frame
  have entered : (records'.enteredOn calendarId day).filter
        (fun availability => availability.participantId ≠ participantId)
      = (records.enteredOn calendarId day).filter
        fun availability => availability.participantId ≠ participantId := by
    rw [filter_enteredOn, filter_enteredOn, members, edit.filter_rows]
    intro availability own _
    simp [own]
  have repeated : (records'.repeatedOn calendarId day).filter
        (fun recurrence => recurrence.participantId ≠ participantId)
      = (records.repeatedOn calendarId day).filter
        fun recurrence => recurrence.participantId ≠ participantId := by
    unfold repeatedOn
    rw [List.filter_filter, List.filter_filter, recurrences]
    apply List.filter_congr
    intro recurrence _
    by_cases own : recurrence.participantId = participantId
    · simp [own]
    · have stored : records'.hasAvailability recurrence.participantId day
          = records.hasAvailability recurrence.participantId day := by
        rw [hasAvailability, edit.availabilityOn?_of_ne fun same => absurd same own,
          hasAvailability]
      rw [members, stored, isExcluded, isExcluded, exclusionOn?, exclusionOn?, exclusions]
  unfold merged
  rw [List.filter_append, List.filter_append, filter_filterMap_others, filter_filterMap_others,
    filter_filterMap_others, filter_filterMap_others, entered, repeated, members]
  all_goals exact fun _ _ => rfl

/-- Everyone contributes once at most. -/
theorem Unique.countP_isOf_le (unique : records.Unique) (calendarId participantId : String)
    (day : Date) :
    (records.merged calendarId day).countP (Contribution.isOf participantId) ≤ 1 := by
  have once := List.nodup_iff_count_le_one.mp (unique.nodup_merged calendarId day)
    (some participantId)
  rw [List.count_eq_countP, List.countP_map] at once
  apply Nat.le_trans (Nat.le_of_eq _) once
  apply List.countP_congr
  intro shown _
  simp [Contribution.isOf]

/-- After an edit one more or one fewer is counted at most. -/
theorem Edit.simultaneous_le (edit : records.Edit now participantId day' records')
    (unique : records.Unique) (calendarId : String) (day : Date) :
    records'.simultaneous calendarId day ≤ records.simultaneous calendarId day + 1
      ∧ records.simultaneous calendarId day ≤ records'.simultaneous calendarId day + 1 := by
  have unique' := edit.unique unique
  have others := edit.filter_merged calendarId day
  unfold simultaneous
  rw [contributionsOn_eq_merged, contributionsOn_eq_merged]
  constructor
  · exact Contribution.maxSimultaneous_le_of_others others
      (unique'.countP_isOf_le calendarId participantId day)
  · exact Contribution.maxSimultaneous_le_of_others others.symm
      (unique.countP_isOf_le calendarId participantId day)

end Records

/-! ## Counts that are told -/

namespace Board

/-- The count of a date, where counting itself does not break down. -/
def tally (board : Board) (calendarId : String) (day : Date) : Except Failure Nat :=
  ({ board with countOutages := 0 }.count calendarId day).1

theorem tally_eq (board : Board) (calendarId : String) (day : Date) :
    board.tally calendarId day = (board.records.checkSpan calendarId day day).map
      fun _ => board.records.simultaneous calendarId day := rfl

/-- Two counts that are one apart at most, or fail for one reason. -/
inductive Adjacent : Except Failure Nat → Except Failure Nat → Prop where
  | counted {before after : Nat} (up : after ≤ before + 1) (down : before ≤ after + 1) :
      Adjacent (.ok before) (.ok after)
  | failed (failure : Failure) : Adjacent (.error failure) (.error failure)

theorem adjacent_refl (count : Except Failure Nat) : Adjacent count count := by
  cases count with
  | error failure => exact .failed failure
  | ok count => exact .counted (Nat.le_succ count) (Nat.le_succ count)

variable {board changed : Board} {participantId : String} {day' : Date} {now : Instant}

/-- Records that are in order before an edit and after it are looked through alike. -/
theorem checkSpan_edit (edit : board.records.Edit now participantId day' changed.records)
    (clocked : board.Clocked) (clocked' : changed.Clocked) (calendarId : String) (day : Date) :
    changed.records.checkSpan calendarId day day = board.records.checkSpan calendarId day day := by
  obtain ⟨members, recurrences, -⟩ := edit.frame
  apply Records.checkSpan_congr
  · exact iff_of_true (clocked'.comparable calendarId day day) (clocked.comparable calendarId day day)
  · exact fun _ => by rw [members]
  · exact recurrences

/-- Where nobody was available at first, an operation on the availability of a participant on a
day moves every count by one at most, and moves no count of another day or of a calendar that
the participant does not belong to. -/
theorem counts_shift_by_one (board : Board) (run : List (Surroundings × Operation))
    (noAvailability : board.records.availabilities.rows = [])
    (noRecurrence : board.records.recurrences.rows = []) (surroundings : Surroundings)
    {operation : Operation} {participantId : String} {named : Except Failure Date}
    (asks : operation.place? = some (participantId, named)) :
    let before := board.after run
    let after := (before.perform surroundings operation).board
    (∀ calendarId day, Adjacent (before.tally calendarId day) (after.tally calendarId day))
    ∧ ∀ calendarId day,
      ((before.records.member? calendarId participantId).isSome → named ≠ .ok day) →
      after.tally calendarId day = before.tally calendarId day := by
  intro before after
  have start : board.records.Unique := by
    refine ⟨?_, ?_, ?_⟩ <;> simp [noAvailability, noRecurrence]
  have started : board.Clocked := by
    intro availability inside
    rw [noAvailability] at inside
    cases inside
  have unique : before.records.Unique := unique_after board run start
  have clocked : before.Clocked := clocked_after run started
  have clocked' : after.Clocked := clocked_perform surroundings before operation clocked
  rcases before.edit_of_place surroundings asks with same | ⟨day', read, edit⟩
  · have unmoved : ∀ calendarId day, after.tally calendarId day = before.tally calendarId day := by
      intro calendarId day
      rw [tally_eq, tally_eq, same]
    refine ⟨?_, fun calendarId day _ => unmoved calendarId day⟩
    intro calendarId day
    rw [unmoved]
    exact adjacent_refl _
  · refine ⟨?_, ?_⟩
    · intro calendarId day
      obtain ⟨up, down⟩ := edit.simultaneous_le unique calendarId day
      rw [tally_eq, tally_eq, checkSpan_edit edit clocked clocked']
      cases before.records.checkSpan calendarId day day with
      | error failure => exact .failed failure
      | ok done => exact .counted up down
    · intro calendarId day elsewhere
      have alike : before.records.Alike after.records calendarId day := by
        apply edit.alike
        intro member same
        exact elsewhere member (same ▸ read)
      rw [tally_eq, tally_eq, checkSpan_edit edit clocked clocked', alike.simultaneous_eq]

/-- An entry moves the count of its day, and not that of the next week, for which somebody else
has a weekly slot. -/
theorem counts_shift_by_one_sample :
    let run := [(Surroundings.sample, Operation.createRecurrence "open" "bob"
      ⟨some 4, none, none, none, "2025-06-12", none⟩)]
    let before := sample.after run
    let after := (before.perform .sample (.sampleEntry "ann")).board
    let later : Date := ⟨739414, by decide, by decide⟩
    sample.records.availabilities.rows = [] ∧ sample.records.recurrences.rows = []
      ∧ (Operation.sampleEntry "ann").place? = some ("ann", Date.request "2025-06-05")
      ∧ before.tally "club" .sample = .ok 0 ∧ after.tally "club" .sample = .ok 1
      ∧ Adjacent (before.tally "club" .sample) (after.tally "club" .sample)
      ∧ before.tally "club" later = .ok 1 ∧ after.tally "club" later = .ok 1 := by
  intro run before after later
  obtain ⟨near, same⟩ := counts_shift_by_one sample run rfl rfl .sample
    (rfl : (Operation.sampleEntry "ann").place? = _)
  have counted : before.tally "club" later = .ok 1 := by decide +kernel
  have elsewhere : Date.request "2025-06-05" ≠ .ok later := by decide +kernel
  refine ⟨rfl, rfl, rfl, by decide +kernel, by decide +kernel, near "club" .sample, counted, ?_⟩
  exact (same "club" later fun _ => elsewhere).trans counted

end Board

end Rendezvous
