import Rendezvous.Proofs.Crossings
import Rendezvous.Proofs.Excerpts
import Rendezvous.Proofs.Increments

/-!
# A withdrawal undoes an entry

An entry comes last among the availabilities, so its withdrawal leaves the rows that were there
before.  Whoever looks then sees what was there to be seen.  What the entry is announced to cross
its withdrawal crosses the other way, as long as the count can be taken in between.
-/

namespace Rendezvous

/-! ## There and back -/

/-- The crossing from the other side. -/
def Crossing.opposite : Crossing → Crossing
  | .reached => .lost
  | .lost => .reached
  | .unchanged => .unchanged

/-- A transition the other way. -/
def Transition.reversed (transition : Transition) : Transition :=
  { transition with
    previous := transition.current
    current := transition.previous
    crossing := transition.crossing.opposite }

/-- Counts the other way round cross the threshold from the other side. -/
theorem Crossing.classify_swap (first second : Nat) (threshold : Int) :
    Crossing.classify second first threshold
      = (Crossing.classify first second threshold).opposite := by
  have known : ¬ (first : Int) < 0 := by omega
  have known' : ¬ (second : Int) < 0 := by omega
  rw [classify, classify, if_neg known, if_neg known']
  by_cases before : threshold ≤ first <;> by_cases after : threshold ≤ second
  all_goals simp [before, after, Int.not_lt.mpr, Int.lt_of_not_ge, opposite]

/-- A row with a new key is taken out again. -/
theorem Table.erase_put_of_new {α : Type} [Keyed α] {table : Table α} (row : α)
    (new : ∀ other ∈ table.rows, Keyed.key other ≠ Keyed.key row) :
    (table.put row).erase (Keyed.key row) = table := by
  apply ext
  rw [erase, rows_keep, rows_put_of_new new, List.filter_append]
  simpa using new

/-- Whether an operation only looks at what is stored. -/
def Operation.looks : Operation → Bool
  | .listAvailabilities .. => true
  | .dateSummary .. => true
  | .rangeSummary .. => true
  | .busyTimes .. => true
  | .listRecurrences .. => true
  | _ => false

namespace Board

variable {surroundings surroundings' : Surroundings} {board other : Board}

/-- Whoever looks sees the same where the same is stored. -/
theorem outcome_of_looks {operation : Operation} (looks : operation.looks)
    (same : other.records = board.records) (surroundings : Surroundings) :
    (other.perform surroundings operation).outcome
      = (board.perform surroundings operation).outcome := by
  cases operation with
  | listAvailabilities => simp only [perform, Step.look, schedule, same]
  | dateSummary => simp only [perform, Step.look, dateSummary, same]
  | rangeSummary => simp only [perform, Step.look, rangeSummary, same]
  | busyTimes => simp only [perform, Step.look, busyTimes, same]
  | listRecurrences => simp only [perform, Step.look, listRecurrences, same]
  | _ => cases looks

theorem tally_congr (same : other.records = board.records) (calendarId : String) (day : Date) :
    other.tally calendarId day = board.tally calendarId day := by
  rw [tally_eq, tally_eq, same]

/-! ## What a check classifies -/

theorem notified?_of_mem {calendar : Calendar}
    (inside : calendar ∈ board.records.calendars.rows) :
    board.notified? calendar.id
      = (calendar.notifyConfig.filter NotifyConfig.enabled).map fun config => (calendar, config) := by
  have stored : board.records.calendars.get? calendar.id = some calendar :=
    Table.get?_eq_some_iff.mpr ⟨inside, rfl⟩
  rw [notified?, stored, Option.bind_some]

variable {calendarId : String} {day : Date} {count : Nat}

theorem tally_eq_ok_iff :
    board.tally calendarId day = .ok count
      ↔ (board.records.Comparable calendarId day day ∧ board.records.Foreseeable calendarId day day)
        ∧ board.records.simultaneous calendarId day = count := by
  rw [tally_eq, ← Records.checkSpan_eq_ok_iff]
  cases board.records.checkSpan calendarId day day with
  | error failure => simp [Except.map]
  | ok done => simp [Except.map]

/-- Where counting does not break down it tells the tally. -/
theorem count_of_calm {outcome : Except Failure Nat} (calm : board.countOutages = 0)
    (told : board.tally calendarId day = outcome) : board.count calendarId day = (outcome, board) := by
  rw [← told, tally_eq, Board.count, if_pos calm]

theorem transitions_of_unnotified (silent : board.notified? calendarId = none)
    (surroundings : Surroundings) (previous : Int) :
    (board.checkThreshold surroundings calendarId day previous).transitions = [] := by
  rw [checkThreshold_of_unnotified surroundings board silent]
  rfl

/-- A date that cannot be counted is not classified. -/
theorem transitions_of_untold {failure : Failure} (calm : board.countOutages = 0)
    (untold : board.tally calendarId day = .error failure) (surroundings : Surroundings)
    (previous : Int) :
    (board.checkThreshold surroundings calendarId day previous).transitions = [] := by
  cases notified : board.notified? calendarId with
  | none => exact transitions_of_unnotified notified surroundings previous
  | some found =>
    have same := notified?_eq_some board notified
    rw [checkThreshold_of_notified surroundings board notified, same, count_of_calm calm untold]
    rfl

/-- A date that can be counted on one board can be counted on another. -/
def KeepsCount (board other : Board) (calendarId : String) (day : Date) : Prop :=
  (∃ count, board.tally calendarId day = .ok count) →
    ∃ count, other.tally calendarId day = .ok count

theorem countBefore_of_tally (calm : board.countOutages = 0)
    (counted : board.tally calendarId day = .ok count) :
    (board.countBefore calendarId day).1 = count := by
  rw [countBefore, count_of_calm calm counted]

/-! ## An entry -/

section

variable {token participantId text : String} {request : AvailabilityRequest} {booking : Booking}
  {note : Option String}

/-- The board on which a booking is stored. -/
def booked (board : Board) (booking : Booking) (note : Option String) : Board :=
  { board.counted
      { board.records with
        availabilities := board.records.availabilities.put
          (booking.availability note board.nextId board.now) } with
    issued := board.nextNumber }

theorem exists_booking {answer : Answer}
    (entered : (board.perform surroundings
      (.createAvailability token participantId request)).outcome = .ok answer) :
    ∃ booking, board.book surroundings token participantId request = .ok booking
      ∧ board.records.availabilityOn? booking.participant.id booking.day = none := by
  obtain ⟨deed, decided⟩ := exists_deed surroundings board
    (rfl : (Operation.createAvailability token participantId request).place? = some _)
  rw [(perform_deed decided).outcome] at entered
  cases decided_of_deed? decided with
  | refuse failure => cases entered
  | enter booked absent => exact ⟨_, booked, absent⟩

theorem publishes_entry
    (decided : board.book surroundings token participantId request = .ok booking)
    (absent : board.records.availabilityOn? booking.participant.id booking.day = none) :
    (board.perform surroundings (.createAvailability token participantId request)).Publishes
      surroundings (board.booked booking request.note)
      (.availabilityChanged booking.calendar.id booking.day
        (board.countBefore booking.calendar.id booking.day).1) := by
  dsimp only [perform]
  rw [createAvailability_of_none decided absent]
  exact (publishes_publish _ _ _ _).map _

theorem publishes_withdrawal {calendar : Calendar} {participant : Participant}
    {present : Availability}
    (decided : board.present surroundings token participantId text
      = .ok (calendar, participant, present)) :
    (board.perform surroundings (.deleteAvailability token participantId text)).Publishes
      surroundings
      (board.counted
        { board.records with
          availabilities := board.records.availabilities.erase present.id })
      (.availabilityChanged calendar.id present.day
        (board.countBefore calendar.id present.day).1) := by
  dsimp only [perform]
  rw [deleteAvailability_of_present decided]
  exact (publishes_publish _ _ _ _).map _

/-- What was entered is found by the names that it was entered by. -/
theorem present_of_booked
    (decided : board.book surroundings token participantId request = .ok booking)
    (absent : board.records.availabilityOn? booking.participant.id booking.day = none)
    (records : other.records = (board.booked booking note).records) (now : other.now = board.now)
    (sameDay : Date.request text = Date.request request.day)
    (sameToday : surroundings'.today = surroundings.today) :
    other.present surroundings' token participantId text
      = .ok (booking.calendar, booking.participant,
          booking.availability note board.nextId board.now) := by
  obtain ⟨located, opened, -⟩ := book_eq_ok decided
  have located' : other.records.locate token participantId
      = .ok (booking.calendar, booking.participant) := records ▸ located
  have opened' : other.openDay surroundings' text = .ok booking.day := by
    unfold openDay today at opened ⊢
    rw [sameDay, sameToday, now, opened]
  have stored : other.records.availabilityOn? booking.participant.id booking.day
      = some (booking.availability note board.nextId board.now) := by
    rw [records, Records.availabilityOn?]
    dsimp only [booked, counted]
    rw [Table.rows_put_of_new board.ne_nextId, List.find?_append]
    have none : board.records.availabilities.rows.find? _ = none := absent
    rw [none]
    simp [Booking.availability]
  rw [present, located', Except.ok_bind]
  dsimp only
  rw [opened', Except.ok_bind, Records.availabilityOf, stored]
  rfl

/-- The rows that were there are there again. -/
theorem erase_booked (board : Board) (booking : Booking) (note : Option String) :
    (board.booked booking note).records.availabilities.erase board.nextId
      = board.records.availabilities :=
  Table.erase_put_of_new (booking.availability note board.nextId board.now) board.ne_nextId

/-- A date that can be counted with an entry can be counted without it. -/
theorem keepsCount_of_booked (calendarId : String) (day : Date) :
    (board.booked booking note).KeepsCount board calendarId day := by
  rintro ⟨count, counted⟩
  obtain ⟨⟨comparable, foreseeable⟩, -⟩ := tally_eq_ok_iff.mp counted
  refine ⟨_, tally_eq_ok_iff.mpr ⟨⟨?_, foreseeable⟩, rfl⟩⟩
  have kept : ∀ row ∈ board.records.availabilities.rows,
      row ∈ (board.booked booking note).records.availabilities.rows :=
    fun row inside => Table.mem_put.mpr (.inr ⟨inside, board.ne_nextId row inside⟩)
  intro a insideA b insideB
  exact comparable a (kept a insideA) b (kept b insideB)

/-- A date whose availabilities were made by a clock like the present one can be counted with an
entry where it can be counted without it. -/
theorem keepsCount_booked (timed : board.records.Timed calendarId day board.now)
    (absent : board.records.availabilityOn? booking.participant.id booking.day = none) :
    board.KeepsCount (board.booked booking note) calendarId day := by
  rintro ⟨count, counted⟩
  obtain ⟨⟨-, foreseeable⟩, -⟩ := tally_eq_ok_iff.mp counted
  have edited : board.records.Edit board.now booking.participant.id booking.day
      (board.booked booking note).records := .enter _ rfl rfl rfl absent board.ne_nextId
  exact ⟨_, tally_eq_ok_iff.mpr ⟨⟨(timed.edit edited).comparable, foreseeable⟩, rfl⟩⟩

end

/-! ## There and back again -/

/-- Two checks of a date that are told of each other's counts classify the same the other way
round, or nothing at all. -/
theorem transitions_reversed {changed restored : Board} (calm : changed.countOutages = 0)
    (calm' : restored.countOutages = 0)
    (notified : restored.notified? calendarId = changed.notified? calendarId)
    (told : restored.KeepsCount changed calendarId day)
    (told' : changed.KeepsCount restored calendarId day) {previous previous' : Int}
    (before : ∀ count, restored.tally calendarId day = .ok count → previous = count)
    (before' : ∀ count, changed.tally calendarId day = .ok count → previous' = count)
    (surroundings surroundings' : Surroundings) :
    (restored.checkThreshold surroundings' calendarId day previous').transitions
      = (changed.checkThreshold surroundings calendarId day previous).transitions.map
        Transition.reversed := by
  cases found : changed.notified? calendarId with
  | none =>
    rw [transitions_of_unnotified found, transitions_of_unnotified (notified.trans found)]
    rfl
  | some entry =>
    cases counted : changed.tally calendarId day with
    | error failure =>
      have untold : ∃ failure, restored.tally calendarId day = .error failure := by
        cases counted' : restored.tally calendarId day with
        | error failure => exact ⟨failure, rfl⟩
        | ok count =>
          obtain ⟨count, known⟩ := told ⟨count, counted'⟩
          rw [counted] at known
          cases known
      obtain ⟨failure, untold⟩ := untold
      rw [transitions_of_untold calm counted, transitions_of_untold calm' untold]
      rfl
    | ok current =>
      obtain ⟨count, counted'⟩ := told' ⟨current, counted⟩
      rw [transitions_of_count found (count_of_calm calm counted),
        transitions_of_count (notified.trans found) (count_of_calm calm' counted'),
        before count counted', before' current counted, Crossing.classify_swap count current]
      rfl

/-- Where an entry succeeds, its withdrawal right afterwards does too, and everybody sees again
what was there before.  Unless the entry keeps the date from being counted, the two are classified
alike the other way round. -/
theorem withdrawal_undoes_entry (board : Board) {surroundings surroundings' : Surroundings}
    {token participantId text : String} {request : AvailabilityRequest} {answer : Answer}
    (entered : (board.perform surroundings
      (.createAvailability token participantId request)).outcome = .ok answer)
    (sameDay : Date.request text = Date.request request.day)
    (sameToday : surroundings'.today = surroundings.today) :
    let one := board.perform surroundings (.createAvailability token participantId request)
    let two := one.board.perform surroundings' (.deleteAvailability token participantId text)
    two.outcome = .ok .done
    ∧ two.board.records = board.records
    ∧ (∀ asker question, question.looks →
      (two.board.perform asker question).outcome = (board.perform asker question).outcome)
    ∧ (∀ calendarId day, two.board.tally calendarId day = board.tally calendarId day)
    ∧ ∃ calendar day, board.records.calendarByToken token = .ok calendar
      ∧ Date.request request.day = .ok day
      ∧ (board.records.Timed calendar.id day board.now →
        board.KeepsCount one.board calendar.id day)
      ∧ (board.countOutages = 0 → board.KeepsCount one.board calendar.id day →
        two.transitions = one.transitions.map Transition.reversed
        ∧ ∀ config before after, calendar.notifyConfig = some config → config.enabled →
          board.tally calendar.id day = .ok before → one.board.tally calendar.id day = .ok after →
          one.transitions = [⟨calendar.id, day, before, after, calendar.threshold,
            .classify before after calendar.threshold⟩]) := by
  intro one two
  obtain ⟨booking, decided, absent⟩ := exists_booking entered
  obtain ⟨located, opened, -⟩ := book_eq_ok decided
  have found := Records.calendarByToken_of_locate located
  have published : one.Publishes surroundings (board.booked booking request.note) _ :=
    publishes_entry decided absent
  obtain ⟨log, outages, fewer, reached⟩ := published.board
  have known : one.board.present surroundings' token participantId text = _ :=
    present_of_booked decided absent published.records (by rw [reached]; rfl) sameDay sameToday
  have published' := publishes_withdrawal known
  let restored := one.board.counted { one.board.records with
    availabilities := one.board.records.availabilities.erase board.nextId }
  have again : restored.records = board.records := by
    dsimp only [restored, counted]
    rw [published.records, erase_booked]
    rfl
  have records : two.board.records = board.records := published'.records.trans again
  have told : one.board.tally = (board.booked booking request.note).tally := by
    funext calendarId day
    exact tally_congr published.records calendarId day
  have told' : restored.tally = board.tally := by
    funext calendarId day
    exact tally_congr again calendarId day
  refine ⟨?_, records, fun asker question looks => outcome_of_looks looks records asker,
    tally_congr records, booking.calendar, booking.day, found, (openDay_eq_ok opened).1, ?_, ?_⟩
  · dsimp only [two, perform]
    rw [deleteAvailability_of_present known]
    rfl
  · intro timed
    unfold KeepsCount
    rw [told]
    exact keepsCount_booked timed absent
  · intro calm keeps
    have calm' : (board.booked booking request.note).countOutages = 0 :=
      Nat.sub_eq_zero_of_le (Nat.le_trans (Nat.le_of_eq calm) (Nat.zero_le 1))
    have still : one.board.countOutages = 0 := by
      rw [reached]
      exact Nat.eq_zero_of_le_zero (calm' ▸ fewer)
    have still' : restored.countOutages = 0 := by
      dsimp only [restored, counted]
      rw [still]
    have first := published.follows_checkThreshold.transitions
    have second := published'.follows_checkThreshold.transitions
    constructor
    · rw [first, second]
      apply transitions_reversed calm' still'
      · unfold notified?
        rw [again]
        rfl
      · unfold KeepsCount at keeps ⊢
        rwa [told', ← told]
      · unfold KeepsCount
        rw [told']
        exact keepsCount_of_booked booking.calendar.id booking.day
      · intro count counted
        rw [told'] at counted
        exact countBefore_of_tally calm counted
      · intro count counted
        rw [← told] at counted
        exact countBefore_of_tally still counted
    · intro config before after configured enabled counted counted'
      have stored : booking.calendar ∈ (board.booked booking request.note).records.calendars.rows :=
        (Records.calendarByToken_eq_ok found).1
      have notified := notified?_of_mem stored
      rw [configured, Option.filter_some, if_pos enabled, Option.map_some] at notified
      rw [told] at counted'
      rw [first, transitions_of_count notified (count_of_calm calm' counted'),
        countBefore_of_tally calm counted]

end Board

/-- A calendar whose threshold takes two. -/
def Calendar.samplePaired : Calendar :=
  { Calendar.sample with threshold := 2, one_le_threshold := Nat.le_succ 1 }

/-- A slot on Thursdays, from 2025-06-05 on. -/
def Recurrence.sampleWeekly (id participantId start stop : String) : Recurrence where
  id := id
  participantId := participantId
  weekday := Date.sample.weekday
  slot := ⟨some start, some stop⟩
  note := none
  firstDate := .sample
  lastDate := none
  createdAt := ⟨63884376000000000, some 0⟩

namespace Board

/-- A board with two participants whose weekly slots have two hours in common. -/
def samplePaired : Board :=
  { sample with
    records :=
      { sample.records with
        calendars := ⟨[.samplePaired], Table.nodup_single _⟩
        recurrences :=
          ⟨[.sampleWeekly "first" "ann" "09:00" "12:00",
            .sampleWeekly "second" "bob" "10:00" "13:00"], by decide⟩ } }

/-- An entry in place of a weekly slot that leaves the common hours loses the threshold, and its
withdrawal reaches it. -/
theorem withdrawal_undoes_entry_sample :
    let one := samplePaired.perform .sample
      (.createAvailability "open" "ann" ⟨"2025-06-05", some "08:00", some "09:30", none⟩)
    let two := one.board.perform .sample (.sampleWithdrawal "ann")
    (∃ answer, one.outcome = .ok answer)
      ∧ samplePaired.tally "club" .sample = .ok 2 ∧ one.board.tally "club" .sample = .ok 1
      ∧ one.transitions.map Transition.crossing = [.lost]
      ∧ two.transitions.map Transition.crossing = [.reached]
      ∧ two.outcome = .ok .done ∧ two.board.records = samplePaired.records := by
  intro one two
  have booked : samplePaired.book .sample "open" "ann"
      ⟨"2025-06-05", some "08:00", some "09:30", none⟩
      = .ok ⟨.samplePaired, .sample "ann" "Ann", .sample, ⟨some "08:00", some "09:30"⟩⟩ := rfl
  have stored := (publishes_entry booked rfl).records
  have known : Date.request "2025-06-05" = .ok .sample := by decide +kernel
  -- the counts are those of the merge, which can be evaluated
  have counted : samplePaired.tally "club" .sample = .ok 2 := by
    rw [tally_eq, Records.simultaneous, Records.contributionsOn_eq_merged]
    decide +kernel
  have counted' : one.board.tally "club" .sample = .ok 1 := by
    rw [tally_eq, stored, Records.simultaneous, Records.contributionsOn_eq_merged]
    decide +kernel
  have timed : samplePaired.records.Timed "club" .sample samplePaired.now := by
    intro availability inside
    cases inside
  obtain ⟨answer, entered⟩ : ∃ answer, one.outcome = .ok answer := ⟨_, rfl⟩
  obtain ⟨withdrawn, restored, -, -, calendar, day, opened, read, keeps, classified⟩ :=
    withdrawal_undoes_entry samplePaired entered (rfl : Date.request "2025-06-05" = _) rfl
  have paired : Calendar.samplePaired = calendar := Except.ok.inj opened
  have sampled : Date.sample = day := Except.ok.inj (known.symm.trans read)
  subst paired sampled
  obtain ⟨reversed, entry⟩ := classified rfl (keeps timed)
  have lost : one.transitions = _ := entry .sample 2 1 rfl rfl counted counted'
  have reached : two.transitions = one.transitions.map Transition.reversed := reversed
  refine ⟨⟨answer, entered⟩, counted, counted', ?_, ?_, withdrawn, restored⟩
  · rw [lost]
    rfl
  · rw [reached, lost]
    rfl

/-- With an entry by a clock of another kind the date cannot be counted, so nothing is lost or
reached.  Its withdrawal, after a count that is not known, reaches a threshold that was never
lost. -/
theorem withdrawal_of_unanchored :
    let one := unanchored.perform .sample (.sampleEntry "bob")
    let two := one.board.perform .sample (.sampleWithdrawal "bob")
    unanchored.notified? Calendar.sample.id = some (.sample, .sample)
      ∧ unanchored.count "club" .sample = (.ok 1, unanchored)
      ∧ (∃ answer, one.outcome = .ok answer) ∧ two.outcome = .ok .done
      ∧ one.transitions = []
      ∧ two.transitions = [⟨"club", .sample, unknownCount, 1, 1, .reached⟩]
      ∧ ¬ (.reached ∈ two.transitions.map Transition.crossing
        ↔ .lost ∈ one.transitions.map Transition.crossing) := by
  intro one two
  obtain ⟨silent, withdrawn, reached⟩ : one.transitions = [] ∧ two.outcome = .ok .done
      ∧ two.transitions = [⟨"club", .sample, unknownCount, 1, 1, .reached⟩] := by decide +kernel
  refine ⟨by decide +kernel, by decide +kernel, ⟨_, rfl⟩, withdrawn, silent, reached, ?_⟩
  rw [silent, reached]
  decide

end Board

end Rendezvous
