import Mathlib.Data.Nat.Find
import Rendezvous.Proofs.Crossings

/-!
# Announcements that are read late

An announcement carries the count before its change, and whoever reads it takes the count anew,
perhaps after further changes.  A crossing that was undone in between is then missed.  The last
change onto a side of the threshold is not: whenever its announcement is read, the count is still
on that side.
-/

namespace Rendezvous

theorem Crossing.classify_of_below {previous current : Nat} {threshold : Int}
    (below : (previous : Int) < threshold) (above : threshold ≤ current) :
    Crossing.classify previous current threshold = .reached := by
  rw [classify, if_neg (by omega), if_pos ⟨below, above⟩]

theorem Crossing.classify_of_above {previous current : Nat} {threshold : Int}
    (above : threshold ≤ previous) (below : (current : Int) < threshold) :
    Crossing.classify previous current threshold = .lost := by
  rw [classify, if_neg (by omega), if_neg (by omega), if_pos ⟨above, below⟩]

/-- What does not hold at first, and holds in the end, begins to hold for good. -/
theorem exists_last_change (holds : Nat → Prop) [DecidablePred holds] {last : Nat}
    (first : ¬ holds 0) (final : holds last) :
    ∃ i < last, ¬ holds i ∧ ∀ j, i < j → j ≤ last → holds j := by
  let lacks := fun i => ¬ holds i
  let i := Nat.findGreatest lacks last
  have without : lacks i := @Nat.findGreatest_spec 0 lacks _ last (Nat.zero_le last) first
  have within : i ≤ last := Nat.findGreatest_le last
  refine ⟨i, Nat.lt_of_le_of_ne within ?_, without, ?_⟩
  · intro same
    exact without (same ▸ final)
  · intro j after before
    exact not_not.mp (Nat.findGreatest_is_greatest after before)

namespace Board

variable {surroundings : Surroundings} {board : Board} {operation : Operation}
  {calendarId : String} {day : Date}

/-! ## One step -/

/-- A date changes with an announcement that tells its count, or does not change. -/
def Heralds {α : Type} (board : Board) (calendarId : String) (day : Date) (step : Step α) : Prop :=
  .availabilityChanged calendarId day (board.countBefore calendarId day).1 ∈ step.events
    ∨ step.board.records.simultaneous calendarId day
      = board.records.simultaneous calendarId day

theorem Edits.heralds {α : Type} {step : Step α} {calendar : Calendar} {participant : Participant}
    {day' : Date} {changed : Board}
    (edits : board.Edits calendar participant day' changed.records)
    (publishes : step.Publishes surroundings changed
      (.availabilityChanged calendar.id day' (board.countBefore calendar.id day').1)) :
    board.Heralds calendarId day step := by
  by_cases here : calendar.id = calendarId ∧ day' = day
  · obtain ⟨rfl, rfl⟩ := here
    exact .inl (publishes.events ▸ List.mem_singleton_self _)
  · -- nothing of the edit shows on the date
    refine .inr ?_
    rw [publishes.records]
    refine (edits.edited.alike fun joined same => here ⟨?_, same⟩).simultaneous_eq.symm
    exact edits.belongs.symm.trans (Records.calendarId_of_isSome_member? edits.member joined)

theorem heralds_of_records {α : Type} {step : Step α}
    (same : step.board.records = board.records) : board.Heralds calendarId day step :=
  .inr (same ▸ rfl)

/-- Whatever is not about recurrences announces what it changes of a date. -/
theorem heralds_perform (surroundings : Surroundings) (board : Board)
    (settled : operation.rearranges = false) (calendarId : String) (day : Date) :
    board.Heralds calendarId day (board.perform surroundings operation) := by
  cases perform_change surroundings board operation with
  | nothing tokens outages more fewer reaches => exact heralds_of_records (reaches.board ▸ rfl)
  | enter number asked decided absent next publishes =>
    exact (edits_of_book decided absent next).heralds publishes
  | revise asked decided publishes => exact (edits_of_revise decided).heralds publishes
  | withdraw asked decided publishes => exact (edits_of_present decided).heralds publishes
  | agree number asked located decided next reaches =>
    rw [asked] at settled
    cases settled
  | amend asked owned decided reaches =>
    rw [asked] at settled
    cases settled
  | drop asked owned reaches =>
    rw [asked] at settled
    cases settled
  | exclude number asked decided absent next reaches =>
    rw [asked] at settled
    cases settled
  | restore asked decided reaches =>
    rw [asked] at settled
    cases settled
  | request asked stored lasts publishes =>
    refine .inr ?_
    rw [publishes.records]
    exact (Records.alike_putParticipant stored (Participant.alike_asked _ _ _ _)
      calendarId day).simultaneous_eq.symm
  | confirm asked found unverified timely reaches =>
    refine .inr ?_
    rw [reaches.board]
    exact (Records.alike_putParticipant (List.mem_of_find?_eq_some found)
      (Participant.alike_confirmed _) calendarId day).simultaneous_eq.symm
  | check asked events follows =>
    obtain ⟨log, outages, -, after⟩ := board_checkThreshold surroundings board _ _ _
    exact heralds_of_records (by rw [follows.board, after])
  | clean asked retained reaches => exact heralds_of_records (reaches.board ▸ rfl)
  | advance asked moved reaches => exact heralds_of_records (reaches.board ▸ rfl)

/-! ## Runs -/

/-- A run of operations that are not about recurrences, with the boards that it leads through,
whatever their clocks and logs, and the board on which the announcement of each step is read. -/
structure Backlog where
  run : List (Surroundings × Operation)
  boards : Nat → Board
  late : Nat → Nat
  settled : ∀ entry ∈ run, entry.2.rearranges = false
  follows : ∀ i entry, run[i]? = some entry →
    (boards (i + 1)).records = ((boards i).perform entry.1 entry.2).board.records
  later : ∀ i < run.length, i < late i ∧ late i ≤ run.length

namespace Backlog

/-- The announcement of a step about a date is classified so when it is read. -/
def Reports (backlog : Backlog) (calendarId : String) (day : Date) (threshold : Int) (i : Nat)
    (crossing : Crossing) : Prop :=
  ∃ entry previous transition, backlog.run[i]? = some entry
    ∧ .availabilityChanged calendarId day previous
      ∈ ((backlog.boards i).perform entry.1 entry.2).events
    ∧ ((backlog.boards (backlog.late i)).detect calendarId day threshold previous).outcome
      = .ok transition
    ∧ transition.crossing = crossing

variable (backlog : Backlog) {threshold : Int} {counts : Nat → Nat}
  (counted : ∀ i ≤ backlog.run.length,
    (backlog.boards i).count calendarId day = (.ok (counts i), backlog.boards i))

include counted

/-- A step that moves the count is announced, and classified by the count before it and the count
when it is read. -/
theorem reports {i : Nat} (inside : i < backlog.run.length) (moved : counts (i + 1) ≠ counts i) :
    backlog.Reports calendarId day threshold i
      (.classify (counts i) (counts (backlog.late i)) threshold) := by
  have taken : backlog.run[i]? = some backlog.run[i] := List.getElem?_eq_getElem inside
  have before := counted i (Nat.le_of_lt inside)
  have reading := counted (backlog.late i) (backlog.later i inside).2
  have settled := backlog.settled _ (List.getElem_mem inside)
  rcases heralds_perform backlog.run[i].1 (backlog.boards i) settled calendarId day with
    announced | same
  · refine ⟨_, _, ⟨calendarId, day, counts i, counts (backlog.late i), threshold, _⟩, taken,
      announced, ?_, rfl⟩
    rw [countBefore, before, detect, reading]
    rfl
  · -- the date is as it was, and so is its count
    refine absurd ?_ moved
    rw [← backlog.follows i _ taken, (count_eq_ok_iff.mp before).2.2,
      (count_eq_ok_iff.mp (counted (i + 1) inside)).2.2] at same
    exact same

/-- Where the count changes sides, the last change onto the side that it ends on is reported,
whenever it is read. -/
theorem exists_report (side : Nat → Prop) [DecidablePred side] {crossing : Crossing}
    (crosses : ∀ previous current : Nat, ¬ side previous → side current →
      Crossing.classify previous current threshold = crossing)
    (first : ¬ side (counts 0)) (final : side (counts backlog.run.length)) :
    ∃ i < backlog.run.length, backlog.Reports calendarId day threshold i crossing := by
  obtain ⟨i, inside, before, after⟩ := exists_last_change (fun i => side (counts i)) first final
  obtain ⟨ahead, within⟩ := backlog.later i inside
  have next : side (counts (i + 1)) := after (i + 1) (Nat.lt_succ_self i) inside
  have moved : counts (i + 1) ≠ counts i := fun same => before (same ▸ next)
  have crossed := crosses _ _ before (after (backlog.late i) ahead within)
  exact ⟨i, inside, crossed ▸ backlog.reports counted inside moved⟩

/-- However late announcements are read and in whatever order, one of them tells that the
threshold was reached or lost from the first board to the last. -/
theorem net_crossing_reported :
    ((counts 0 : Int) < threshold → threshold ≤ counts backlog.run.length →
      ∃ i < backlog.run.length, backlog.Reports calendarId day threshold i .reached)
    ∧ (threshold ≤ counts 0 → (counts backlog.run.length : Int) < threshold →
      ∃ i < backlog.run.length, backlog.Reports calendarId day threshold i .lost) := by
  constructor
  · intro below above
    apply backlog.exists_report counted fun count => threshold ≤ count
    · intro previous current before after
      exact Crossing.classify_of_below (Int.not_le.mp before) after
    · exact Int.not_le.mpr below
    · exact above
  · intro above below
    apply backlog.exists_report counted fun count => (count : Int) < threshold
    · intro previous current before after
      exact Crossing.classify_of_above (Int.not_lt.mp before) after
    · exact Int.not_lt.mpr above
    · exact below

omit counted

theorem records_after_take (board : Board) (run : List (Surroundings × Operation)) (i : Nat)
    (entry : Surroundings × Operation) (taken : run[i]? = some entry) :
    (board.after (run.take (i + 1))).records
      = ((board.after (run.take i)).perform entry.1 entry.2).board.records := by
  rw [List.take_add_one, taken, after_append]
  rfl

/-- The boards of a run from one on. -/
def ofRun (board : Board) (run : List (Surroundings × Operation)) (late : Nat → Nat)
    (settled : ∀ entry ∈ run, entry.2.rearranges = false)
    (later : ∀ i < run.length, i < late i ∧ late i ≤ run.length) : Backlog where
  run := run
  boards i := board.after (run.take i)
  late := late
  settled := settled
  follows := records_after_take board run
  later := later

/-- An entry, its withdrawal and another entry.  The first is read after the second, and the
others at the end. -/
def sample : Backlog :=
  ofRun Board.sample
    [(Surroundings.sample, .sampleEntry "ann"), (Surroundings.sample, .sampleWithdrawal "ann"),
      (Surroundings.sample, .sampleEntry "bob")]
    (fun i => if i = 0 then 2 else 3) (by decide) (by decide)

/-- The first two announcements tell nothing any more, and the last tells that the threshold is
reached. -/
theorem net_crossing_reported_sample :
    (∀ i ≤ 3, (sample.boards i).count "club" .sample = (.ok (i % 2), sample.boards i))
      ∧ ((sample.boards (sample.late 0)).detect "club" .sample 1 0).outcome.map
        Transition.crossing = .ok .unchanged
      ∧ ((sample.boards (sample.late 1)).detect "club" .sample 1 1).outcome.map
        Transition.crossing = .ok .unchanged
      ∧ ∃ i < 3, sample.Reports "club" .sample 1 i .reached := by
  have counted : ∀ i ≤ 3,
      (sample.boards i).count "club" .sample = (.ok (i % 2), sample.boards i) := by decide +kernel
  exact ⟨counted, by decide +kernel, by decide +kernel,
    (net_crossing_reported sample counted).1 (by decide) (by decide)⟩

end Backlog

end Board

end Rendezvous
