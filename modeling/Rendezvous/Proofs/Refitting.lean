import Rendezvous.Proofs.Keeping
import Rendezvous.Proofs.Undoing

/-!
# What is stored fits again

A slot that came out of the window of its day lies in that window and is long enough, so to fit it
once more changes nothing.  An update that names no time is accepted for that reason, whatever chain
of entries and updates the slot comes from.  The date is counted as before, and nobody is told.
-/

namespace Rendezvous

/-! ## Slots -/

namespace Window

variable {window : Window} {leastHours : Nat} {slot : Slot}

/-- A slot that is inside a window, and long enough, comes out of it as it is. -/
theorem Encloses.fit_eq (encloses : window.Encloses leastHours slot) (valid : window.isValid) :
    window.fit leastHours slot = .ok slot := by
  obtain ⟨room, offered⟩ := (isValid_hours valid).exists_interval?
  obtain ⟨opens, closes⟩ := (isValid_hours valid).minutes? offered
  cases free : window.isUnbounded with
  | false =>
    obtain ⟨start, stop, first, last, opening, closing, rfl, between, opens', closes', after,
      before⟩ := encloses.within free
    cases opens.symm.trans opens'
    cases closes.symm.trans closes'
    obtain ⟨first', last', between', long⟩ := encloses.long start rfl stop rfl
    cases between.begins.symm.trans between'.begins
    cases between.ends.symm.trans between'.ends
    exact fit_of_within (encloses.valid.start start rfl) (encloses.valid.stop stop rfl)
      between.begins between.ends valid offered after between.forward before long
  | true =>
    by_cases complete : slot.isComplete
    · obtain ⟨start, stop, rfl⟩ := Slot.exists_of_isComplete complete
      obtain ⟨first, last, between, long⟩ := encloses.long start rfl stop rfl
      have timely := encloses.valid.start start rfl
      have timely' := encloses.valid.stop stop rfl
      -- without a bound the window is the whole day, which no time leaves
      obtain ⟨unopened, unclosed⟩ := bounds_of_isUnbounded free
      have early := (TimeOfDay.bounds_of_isValid timely between.begins).1
      have late := (TimeOfDay.bounds_of_isValid timely' between.ends).2
      apply fit_of_within timely timely' between.begins between.ends valid offered _
        between.forward _ long
      · simp only [hours, unopened, Option.getD_none, TimeOfDay.minutes?_dayStart,
          Option.some.injEq] at opens
        omega
      · simp only [hours, unclosed, Option.getD_none, TimeOfDay.minutes?_dayEnd,
          Option.some.injEq] at closes
        omega
    · exact fit_of_unlimited free (Bool.eq_false_iff.mpr complete)

end Window

/-! ## Counts -/

/-- Two states of an availability that count alike: for the same participant, on the same day, in
the same slot. -/
structure Availability.CountsAs (a b : Availability) : Prop where
  id : a.id = b.id
  participantId : a.participantId = b.participantId
  day : a.day = b.day
  slot : a.slot = b.slot

/-- The availability with another note, changed at another time. -/
def Availability.annotated (availability : Availability) (note : Option String) (now : Instant) :
    Availability :=
  { availability with note := note, updatedAt := now }

@[simp] theorem Availability.key_annotated (availability : Availability) (note : Option String)
    (now : Instant) : Keyed.key (availability.annotated note now) = Keyed.key availability := rfl

theorem Availability.countsAs_annotated (availability : Availability) (note : Option String)
    (now : Instant) : (availability.annotated note now).CountsAs availability :=
  ⟨rfl, rfl, rfl, rfl⟩

theorem Crossing.classify_self (count : Nat) (threshold : Int) :
    Crossing.classify count count threshold = .unchanged := by
  have known : ¬ (count : Int) < 0 := by omega
  rw [Crossing.classify, if_neg known, if_neg (by omega), if_neg (by omega)]

namespace Records

variable {records : Records}

/-- An availability that takes the place of one that counts alike changes no count. -/
theorem simultaneous_put {present revised : Availability}
    (inside : present ∈ records.availabilities.rows) (counts : revised.CountsAs present)
    (calendarId : String) (day : Date) :
    simultaneous { records with availabilities := records.availabilities.put revised } calendarId
        day
      = records.simultaneous calendarId day := by
  have there : ∃ other ∈ records.availabilities.rows, other.id = revised.id :=
    ⟨present, inside, counts.id.symm⟩
  have alike : ∀ other ∈ records.availabilities.rows, other.id = revised.id → other = present :=
    fun other among same => Table.eq_of_key among inside (same.trans counts.id)
  let changed := { records with availabilities := records.availabilities.put revised }
  have entered : ((changed.enteredOn calendarId day).map Availability.slot).Perm
      ((records.enteredOn calendarId day).map Availability.slot) := by
    apply ((List.mergeSort_perm _ _).map _).trans
    apply List.Perm.trans _ ((List.mergeSort_perm _ _).map _).symm
    apply List.Perm.of_eq
    apply Table.map_filter_place there
    intro other among same
    rw [alike other among same, counts.day, counts.participantId, counts.slot]
    exact ⟨rfl, rfl⟩
  have stored : ∀ participantId, changed.hasAvailability participantId day
      = records.hasAvailability participantId day := by
    intro participantId
    have found : (changed.availabilityOn? participantId day).map (fun _ => ())
        = (records.availabilityOn? participantId day).map fun _ => () := by
      apply Table.find?_place there
      intro other among same
      rw [alike other among same, counts.day, counts.participantId]
      exact ⟨rfl, rfl⟩
    unfold hasAvailability
    simpa only [Option.isSome_map] using congrArg Option.isSome found
  have repeated : changed.repeatedOn calendarId day = records.repeatedOn calendarId day := by
    unfold repeatedOn
    simp only [stored]
    rfl
  unfold simultaneous
  rw [contributionsOn_eq_merged, contributionsOn_eq_merged, map_slot_merged, map_slot_merged,
    repeated]
  exact Sweep.maxSimultaneous_perm (entered.append_right _)

end Records

namespace Board

/-- An operation uses up outages of counting and makes none. -/
theorem countOutages_perform (surroundings : Surroundings) (board : Board)
    (operation : Operation) :
    (board.perform surroundings operation).board.countOutages ≤ board.countOutages := by
  cases perform_course surroundings board operation with
  | idle tokens outages fewer reached silent => rwa [reached]
  | edit calendar participant day records issued member belongs edited follows =>
    obtain ⟨log, outages, fewer, after⟩ := board_checkThreshold surroundings
      { board with records := records, issued := issued, countOutages := board.countOutages - 1 }
      calendar.id day (board.countBefore calendar.id day).1
    rw [follows.board, after]
    exact Nat.le_trans fewer (Nat.sub_le _ _)
  | rearrange records issued kind rearranged reached silent => rw [reached]
  | address present updated email token stored alike follows =>
    rw [follows.board, board_sendVerification]
    exact Nat.le_refl _
  | confirm present updated stored alike reached silent =>
    rw [reached]
    exact Nat.le_refl _
  | check calendarId day previous asked follows =>
    obtain ⟨log, outages, fewer, after⟩ := board_checkThreshold surroundings board calendarId day
      previous
    rwa [follows.board, after]
  | clean kept asked retained reached silent => rw [reached]
  | advance micros now asked moved reached silent => rw [reached]

theorem countOutages_after (board : Board) (run : List (Surroundings × Operation)) :
    (board.after run).countOutages ≤ board.countOutages := by
  induction run generalizing board with
  | nil => exact Nat.le_refl _
  | cons entry rest ih => exact Nat.le_trans (ih _) (countOutages_perform entry.1 board entry.2)

/-- A check of a date that is counted as before tells nobody, and classifies no crossing. -/
theorem checkThreshold_of_unmoved {board : Board} {calendarId : String} {day : Date}
    {previous : Int} (calm : board.countOutages = 0)
    (unmoved : ∀ count : Nat, board.tally calendarId day = .ok count → previous = count)
    (surroundings : Surroundings) :
    let step := board.checkThreshold surroundings calendarId day previous
    step.attempts = [] ∧ ∀ transition ∈ step.transitions, transition.crossing = .unchanged := by
  intro step
  cases notified : board.notified? calendarId with
  | none =>
    have silent : step = .answer board none :=
      checkThreshold_of_unnotified surroundings board notified day previous
    rw [silent]
    exact ⟨rfl, fun transition inside => by cases inside⟩
  | some found =>
    have same := notified?_eq_some board notified
    have checked : step = _ := checkThreshold_of_notified surroundings board notified day previous
    rw [same] at checked
    cases told : board.tally calendarId day with
    | error failure =>
      rw [count_of_calm calm told] at checked
      rw [checked]
      exact ⟨rfl, fun transition inside => by cases inside⟩
    | ok count =>
      rw [count_of_calm calm told, unmoved count told] at checked
      dsimp only at checked
      rw [Crossing.classify_self] at checked
      rw [checked]
      refine ⟨rfl, fun transition inside => ?_⟩
      cases List.mem_singleton.mp inside
      rfl

end Board

/-! ## Whoever stored something can be reached -/

namespace Records

variable {records : Records} {participantId : String}

/-- Whether somebody is a member of a calendar that its token leads to. -/
def Joins (records : Records) (participantId : String) : Prop :=
  ∃ calendar, records.calendarByToken calendar.publicToken = .ok calendar
    ∧ (records.member? calendar.id participantId).isSome

theorem joins_of_locate {token : String} {calendar : Calendar} {participant : Participant}
    (located : records.locate token participantId = .ok (calendar, participant)) :
    records.Joins participant.id := by
  obtain ⟨⟨-, same⟩, inside, -, belongs⟩ := locate_eq_ok located
  refine ⟨calendar, ?_, belongs ▸ isSome_member? inside⟩
  rw [same]
  exact calendarByToken_of_locate located

theorem Joins.putParticipant {present updated : Participant} (joins : records.Joins participantId)
    (stored : present ∈ records.participants.rows) (alike : updated.Alike present) :
    Joins { records with participants := records.participants.put updated } participantId := by
  obtain ⟨calendar, leads, member⟩ := joins
  have same := (alike_putParticipant stored alike calendar.id .sample).isSome_member? participantId
  exact ⟨calendar, leads, same.symm.trans member⟩

/-- Whoever stored an availability is a member of a calendar that its token leads to. -/
def Joined (records : Records) : Prop :=
  ∀ availability ∈ records.availabilities.rows, records.Joins availability.participantId

end Records

namespace Board

theorem joined_perform (surroundings : Surroundings) (board : Board) (operation : Operation)
    (joined : board.records.Joined) :
    (board.perform surroundings operation).board.records.Joined := by
  cases perform_change surroundings board operation with
  | nothing tokens outages more fewer reaches => exact reaches.board ▸ joined
  | enter number asked decided absent next publishes =>
    rw [publishes.records]
    intro availability inside
    rcases Table.mem_put.mp inside with rfl | ⟨stored, -⟩
    · exact Records.joins_of_locate (book_eq_ok decided).1
    · exact joined availability stored
  | revise asked decided publishes =>
    rw [publishes.records]
    obtain ⟨present, -, -, -, slot, known, -, -, -, -, same⟩ := revise_eq_ok decided
    obtain ⟨-, -, found⟩ := present_eq_ok known
    intro availability inside
    rcases Table.mem_put.mp inside with rfl | ⟨stored, -⟩
    · rw [same]
      exact joined present (Records.mem_of_availabilityOn? found).1
    · exact joined availability stored
  | withdraw asked decided publishes =>
    rw [publishes.records]
    exact fun availability inside => joined availability (Table.mem_erase.mp inside).1
  | agree number asked located decided next reaches => exact reaches.board ▸ joined
  | amend asked owned decided reaches => exact reaches.board ▸ joined
  | drop asked owned reaches => exact reaches.board ▸ joined
  | exclude number asked decided absent next reaches => exact reaches.board ▸ joined
  | restore asked decided reaches =>
    rw [reaches.board, Records.removeExclusion]
    split <;> exact joined
  | request asked stored lasts publishes =>
    rw [publishes.records]
    intro availability inside
    exact (joined availability inside).putParticipant stored (Participant.alike_asked _ _ _ _)
  | confirm asked found unverified timely reaches =>
    rw [reaches.board]
    intro availability inside
    exact (joined availability inside).putParticipant (List.mem_of_find?_eq_some found)
      (Participant.alike_confirmed _)
  | check asked events follows =>
    obtain ⟨log, outages, -, after⟩ := board_checkThreshold surroundings board _ _ _
    rw [follows.board, after]
    exact joined
  | clean asked retained reaches => exact reaches.board ▸ joined
  | advance asked moved reaches => exact reaches.board ▸ joined

theorem joined_after (board : Board) (run : List (Surroundings × Operation))
    (joined : board.records.Joined) : (board.after run).records.Joined := by
  induction run generalizing board with
  | nil => exact joined
  | cons entry rest ih => exact ih _ (joined_perform entry.1 board entry.2 joined)

end Board

/-! ## Updates that name no time -/

namespace Board

variable {board : Board} {surroundings : Surroundings} {token participantId text : String}
  {calendar : Calendar} {participant : Participant} {present : Availability}

/-- Where nobody has two availabilities for a day, each is found by its day. -/
theorem present_of_stored (once : board.records.EnteredOnce)
    (located : board.records.locate token participantId = .ok (calendar, participant))
    (inside : present ∈ board.records.availabilities.rows)
    (own : present.participantId = participant.id)
    (read : Date.request text = .ok present.day)
    (late : board.today surroundings ≤ present.day) :
    board.present surroundings token participantId text
      = .ok (calendar, participant, present) := by
  have opened : board.openDay surroundings text = .ok present.day := by
    rw [openDay, read, Except.ok_bind, Refusal.unless, if_pos (decide_eq_true late)]
    rfl
  have found : board.records.availabilityOf participant present.day = .ok present := by
    rw [Records.availabilityOf, once.availabilityOn?_eq_some_iff.mpr ⟨inside, own, rfl⟩]
  rw [Board.present, located, Except.ok_bind]
  dsimp only
  rw [opened, Except.ok_bind, found]
  rfl

/-- What keeps to its calendar is revised to the same slot, if no other time is named. -/
theorem revise_of_keeps {patch : AvailabilityPatch}
    (known : board.present surroundings token participantId text
      = .ok (calendar, participant, present))
    (keeps : calendar.Keeps surroundings.holidays present)
    (valid : calendar.allowedHours.isValid) (noStart : patch.start = none)
    (noStop : patch.stop = none) :
    board.revise surroundings token participantId text patch
      = .ok (calendar, participant,
          present.annotated (patch.note.getD present.note) board.now) := by
  obtain ⟨-, window, hours, enclosed⟩ := keeps
  rw [revise, known, Except.ok_bind]
  dsimp only
  rw [noStart, noStop, patched, patched, Except.ok_bind, Except.ok_bind, hours, Except.ok_bind,
    enclosed.fit_eq (Calendar.isValid_of_window valid hours)]
  rfl

/-- The board on which only the note of an availability is another. -/
def annotated (board : Board) (present : Availability) (note : Option String) : Board :=
  board.counted
    { board.records with
      availabilities := board.records.availabilities.put (present.annotated note board.now) }

theorem tally_annotated (clocked : board.Clocked) {note : Option String}
    (edited : board.records.Edit board.now participant.id present.day
      (board.annotated present note).records)
    (inside : present ∈ board.records.availabilities.rows) (calendarId : String) (day : Date) :
    (board.annotated present note).tally calendarId day = board.tally calendarId day := by
  rw [tally_eq, tally_eq, checkSpan_edit edited clocked (clocked.edit edited)]
  congr 1
  funext done
  exact Records.simultaneous_put inside (present.countsAs_annotated note board.now) calendarId day

/-- Whatever was stored by operations, from no availability at all, fits again where the holidays
have stayed the same: an update on a day that is not past, with no time named, succeeds, and leaves
the slot and everything else but the note and the time of the change as they are.  Where counting
does not break down the update is no crossing of the threshold, and nobody is told of it. -/
theorem updateAvailability_refits (board : Board) (run : List (Surroundings × Operation))
    (surroundings : Surroundings) (noAvailability : board.records.availabilities.rows = [])
    (fixed : ∀ surrounded ∈ run, surrounded.1.holidays = surroundings.holidays) :
    let before := board.after run
    ∀ present ∈ before.records.availabilities.rows, ∃ calendar participant,
      before.records.locate calendar.publicToken present.participantId
        = .ok (calendar, participant)
      ∧ (calendar.allowedHours.isValid → before.today surroundings ≤ present.day →
        ∀ text patch, Date.request text = .ok present.day →
        patch.start = none → patch.stop = none →
        let step := before.updateAvailability surroundings calendar.publicToken
          present.participantId text patch
        let kept := present.annotated (patch.note.getD present.note) before.now
        step.outcome = .ok (.of participant kept)
        ∧ step.board.records
          = { before.records with availabilities := before.records.availabilities.put kept }
        ∧ (board.countOutages = 0 → step.attempts = []
          ∧ (∀ transition ∈ step.transitions, transition.crossing = .unchanged)
          ∧ ∀ config count, calendar.notifyConfig = some config → config.enabled →
            before.tally calendar.id present.day = .ok count →
            step.transitions
              = [⟨calendar.id, present.day, count, count, calendar.threshold, .unchanged⟩])) := by
  intro before present inside
  have nothing : ∀ {p : Availability → Prop}, ∀ availability ∈ board.records.availabilities.rows,
      p availability := by
    intro p availability inside
    rw [noAvailability] at inside
    cases inside
  have clocked : before.Clocked := clocked_after run nothing
  have once : before.records.EnteredOnce := enteredOnce_after board run nothing
  have vetted : before.records.Vetted
      (fun calendar availability => calendar.allowedHours.isValid →
        calendar.Keeps surroundings.holidays availability)
      fun _ _ => True := by
    refine vetted_after board run (fun surrounded among => ?_) ⟨nothing, fun _ _ _ _ => trivial⟩
    rw [← fixed surrounded among]
    exact surrounded.1.vets_keeps
  obtain ⟨calendar, opens, member⟩ := joined_after board run nothing present inside
  obtain ⟨participant, same, located⟩ := Records.exists_locate opens member
  refine ⟨calendar, participant, located, ?_⟩
  intro valid late text patch read noStart noStop step kept
  have stored := (Records.calendarByToken_eq_ok opens).1
  have keeps := vetted.entries present inside calendar
    (Records.member_of_isSome_member? stored member) valid
  have known := present_of_stored once located inside same.symm read late
  have decided := revise_of_keeps known keeps valid noStart noStop
  let changed := before.annotated present (patch.note.getD present.note)
  have updated : step = publish surroundings changed
      (.availabilityChanged calendar.id present.day
        (before.countBefore calendar.id present.day).1) (.of participant kept) :=
    updateAvailability_of_revise decided
  have published : step.Publishes surroundings changed _ :=
    updated ▸ publishes_publish surroundings changed _ _
  refine ⟨by rw [updated]; rfl, published.records, fun calm => ?_⟩
  have calm' : before.countOutages = 0 :=
    Nat.eq_zero_of_le_zero (calm ▸ countOutages_after board run)
  have still : changed.countOutages = 0 := by
    dsimp only [changed, annotated, counted]
    rw [calm']
  have edited : before.records.Edit before.now participant.id present.day changed.records :=
    (edits_of_revise decided).edited
  have told : changed.tally calendar.id present.day = before.tally calendar.id present.day :=
    tally_annotated clocked edited inside calendar.id present.day
  have follows := published.follows_checkThreshold
  obtain ⟨silent, unchanged⟩ := checkThreshold_of_unmoved still
    (fun count counted => countBefore_of_tally calm' (told ▸ counted)) surroundings
  refine ⟨follows.attempts.trans silent, follows.transitions ▸ unchanged, ?_⟩
  intro config count configured enabled counted
  have notified : changed.notified? calendar.id = _ := notified?_of_mem stored
  rw [configured, Option.filter_some, if_pos enabled, Option.map_some] at notified
  rw [follows.transitions, transitions_of_count notified (count_of_calm still (told.trans counted)),
    countBefore_of_tally calm' counted, Crossing.classify_self]

/-- The availability that ends in the morning keeps its times, when only its note is changed, and
the threshold that it reached is not crossed again. -/
theorem updateAvailability_refits_sample :
    let before := sampleOpen.after sampleOpenRun
    let patch : AvailabilityPatch := ⟨none, none, some (some "with cake")⟩
    let step := before.updateAvailability .sample "open" "ann" "2025-06-05" patch
    sampleOpen.records.availabilities.rows = []
      ∧ (∀ surrounded ∈ sampleOpenRun, surrounded.1.holidays = Surroundings.sample.holidays)
      ∧ Calendar.sampleOpen.allowedHours.isValid
      ∧ Date.request "2025-06-05" = .ok .sample
      ∧ before.tally "club" .sample = .ok 1
      ∧ step.board.records.availabilities.rows.map (fun row => (row.slot, row.note))
        = [(⟨some "9:00", some "11:30"⟩, some "with cake")]
      ∧ step.attempts = []
      ∧ step.transitions = [⟨"club", .sample, 1, 1, 1, .unchanged⟩] := by
  intro before patch step
  have valid : Calendar.sampleOpen.allowedHours.isValid := by decide +kernel
  have read : Date.request "2025-06-05" = .ok .sample := by decide +kernel
  have counted : before.tally "club" .sample = .ok 1 := by decide +kernel
  obtain ⟨present, rows, entered⟩ := List.map_eq_singleton_iff.mp (by decide +kernel :
    before.records.availabilities.rows.map
        (fun row => (row.participantId, row.day, row.slot))
      = [("ann", .sample, ⟨some "9:00", some "11:30"⟩)])
  obtain ⟨own, on, slot⟩ : present.participantId = "ann" ∧ present.day = .sample
      ∧ present.slot = ⟨some "9:00", some "11:30"⟩ := by simpa using entered
  have inside : present ∈ before.records.availabilities.rows := by
    rw [rows]
    exact List.mem_cons_self
  have refits := updateAvailability_refits sampleOpen sampleOpenRun .sample rfl
    holidays_sampleOpenRun
  dsimp only [before] at refits inside
  obtain ⟨calendar, participant, located, fits⟩ := refits present inside
  have stored := (Records.calendarByToken_eq_ok (Records.calendarByToken_of_locate located)).1
  rw [calendars_after] at stored
  cases List.mem_singleton.mp stored
  have late : before.today .sample ≤ present.day := by
    rw [on]
    decide +kernel
  obtain ⟨-, kept, told⟩ := fits valid late "2025-06-05" patch (by rw [on, read]) rfl rfl
  obtain ⟨silent, -, crossing⟩ := told rfl
  have same : step = before.updateAvailability .sample Calendar.sampleOpen.publicToken
      present.participantId "2025-06-05" patch := by
    rw [own]
    rfl
  refine ⟨rfl, holidays_sampleOpenRun, valid, read, counted, ?_, same ▸ silent, ?_⟩
  · rw [same, kept, Table.rows_put, rows, Table.place, Availability.key_annotated, if_pos rfl,
      List.map_singleton, Availability.annotated, slot]
    rfl
  · rw [same, crossing .sample 1 rfl rfl (on ▸ counted), on]
    rfl

end Board

end Rendezvous
