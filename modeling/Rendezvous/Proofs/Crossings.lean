import Mathlib.Data.List.Chain
import Rendezvous.Proofs.Views

/-!
# Crossings along a run

Every change of an availability is announced with the count before it, and the count after
it is taken anew.  Where both can be taken, the crossings of a run lead from the side of
the threshold that the run starts on to the side that it ends on.
-/

namespace Rendezvous

/-! ## From side to side -/

namespace Crossing

/-- Crossings that lead from one side of the threshold to another; the sides are told by
whether they are above. -/
inductive Leads : Bool → List Crossing → Bool → Prop where
  | stay (above : Bool) : Leads above [] above
  | reach {later : List Crossing} {above : Bool} (rest : Leads true later above) :
      Leads false (.reached :: later) above
  | lose {later : List Crossing} {above : Bool} (rest : Leads false later above) :
      Leads true (.lost :: later) above

namespace Leads

variable {start middle above : Bool} {first later crossings : List Crossing}

theorem append (leads : Leads start first middle) (rest : Leads middle later above) :
    Leads start (first ++ later) above := by
  induction leads with
  | stay => exact rest
  | reach _ ih => exact .reach (ih rest)
  | lose _ ih => exact .lose (ih rest)

theorem head_eq (leads : Leads start crossings above) :
    ∀ crossing ∈ crossings.head?, crossing = if start then .lost else .reached := by
  cases leads <;> simp

theorem isChain (leads : Leads start crossings above) : crossings.IsChain (· ≠ ·) := by
  induction leads with
  | stay => exact .nil
  | reach rest ih =>
    refine ih.cons ?_
    intro next second
    rw [rest.head_eq next second]
    simp
  | lose rest ih =>
    refine ih.cons ?_
    intro next second
    rw [rest.head_eq next second]
    simp

theorem above_iff (leads : Leads start crossings above) :
    above ↔ crossings.getLast? = some .reached ∨ crossings = [] ∧ start := by
  induction leads with
  | stay above => simp
  | @reach later above rest ih => cases later <;> simp_all [List.getLast?_cons_cons]
  | @lose later above rest ih => cases later <;> simp_all [List.getLast?_cons_cons]

/-- A count that is classified by the one before leads to its side. -/
theorem classify (previous current threshold : Nat) :
    Leads (decide (threshold ≤ previous))
      ([Crossing.classify previous current threshold].filter (· ≠ .unchanged))
      (decide (threshold ≤ current)) := by
  have known : ¬ (previous : Int) < 0 := by omega
  rw [Crossing.classify, if_neg known]
  by_cases before : threshold ≤ previous
  · have noReach : ¬ ((previous : Int) < threshold ∧ (threshold : Int) ≤ current) := by omega
    rw [if_neg noReach]
    by_cases after : threshold ≤ current
    · have noLoss : ¬ ((threshold : Int) ≤ previous ∧ (current : Int) < threshold) := by omega
      simpa [noLoss, before, after] using stay true
    · have loss : (threshold : Int) ≤ previous ∧ (current : Int) < threshold := by omega
      simpa [loss, before, after] using lose (stay false)
  · have noLoss : ¬ ((threshold : Int) ≤ previous ∧ (current : Int) < threshold) := by omega
    by_cases after : threshold ≤ current
    · have gain : (previous : Int) < threshold ∧ (threshold : Int) ≤ current := by omega
      simpa [gain, before, after] using reach (stay true)
    · have noReach : ¬ ((previous : Int) < threshold ∧ (threshold : Int) ≤ current) := by omega
      simpa [noReach, noLoss, before, after] using stay false

end Leads

end Crossing

/-- The crossings on a date of a calendar that a step classifies. -/
def Step.crossings {α : Type} (step : Step α) (calendarId : String) (day : Date) :
    List Crossing :=
  ((step.transitions.filter fun transition =>
      transition.calendarId = calendarId && transition.day = day).map Transition.crossing).filter
    (· ≠ .unchanged)

/-- The crossings on a date of a calendar along a run. -/
def Board.crossings (board : Board) (run : List (Surroundings × Operation))
    (calendarId : String) (day : Date) : List Crossing :=
  (board.run run).flatMap fun step => step.crossings calendarId day

/-- Whether an operation checks a date without a change. -/
def Operation.checks : Operation → Bool
  | .checkThreshold .. => true
  | _ => false

namespace Step

variable {α β : Type} {step : Step α} {calendarId : String} {day : Date}

theorem Silent.crossings (silent : step.Silent) : step.crossings calendarId day = [] := by
  rw [Step.crossings, silent.transitions]
  rfl

theorem Follows.crossings {other : Step β} (follows : step.Follows other) :
    step.crossings calendarId day = other.crossings calendarId day := by
  rw [Step.crossings, Step.crossings, follows.transitions]

end Step

/-! ## Counts that can be taken -/

namespace Records

/-- The availabilities of a date of a calendar were made by a clock like another. -/
def Timed (records : Records) (calendarId : String) (day : Date) (now : Instant) : Prop :=
  ∀ availability ∈ records.availabilities.rows, availability.day = day →
    (records.member? calendarId availability.participantId).isSome →
    (availability.createdAt.compare? now).isSome

theorem Timed.comparable {records : Records} {calendarId : String} {day : Date} {now : Instant}
    (timed : records.Timed calendarId day now) : records.Comparable calendarId day day := by
  intro a insideA b insideB memberA memberB same after before
  have here : a.day = day := Date.le_antisymm before after
  have first := timed a insideA here memberA
  have second := timed b insideB (same ▸ here) memberB
  rw [Instant.isSome_compare?] at first second ⊢
  exact first.trans second.symm

/-- An edit by a clock like the others keeps the clocks alike. -/
theorem Timed.edit {records records' : Records} {calendarId participantId : String}
    {day day' : Date} {now : Instant} (timed : records.Timed calendarId day now)
    (edited : records.Edit now participantId day' records') :
    records'.Timed calendarId day now := by
  intro other inside here member
  cases edited with
  | enter availability own on made absent fresh =>
    rcases Table.mem_put.mp inside with rfl | ⟨stored, -⟩
    · simp [Instant.isSome_compare?, made]
    · exact timed other stored here member
  | revise present revised found sameId sameParticipant sameDay sameMade =>
    obtain ⟨stored', -, -⟩ := mem_of_availabilityOn? found
    rcases Table.mem_put.mp inside with rfl | ⟨stored, -⟩
    · rw [sameMade]
      exact timed present stored' (sameDay ▸ here) (sameParticipant ▸ member)
    · exact timed other stored here member
  | withdraw present found => exact timed other (Table.mem_erase.mp inside).1 here member

end Records

namespace Board

variable {board : Board} {calendar : Calendar} {config : NotifyConfig} {day : Date}

theorem count_eq_ok_iff {calendarId : String} {count : Nat} :
    board.count calendarId day = (.ok count, board)
      ↔ board.countOutages = 0 ∧ (board.records.Comparable calendarId day day
          ∧ board.records.Foreseeable calendarId day day)
        ∧ board.records.simultaneous calendarId day = count := by
  rw [← Records.checkSpan_eq_ok_iff, Board.count]
  by_cases calm : board.countOutages = 0
  · rw [if_pos calm]
    cases board.records.checkSpan calendarId day day with
    | error failure => simp [Except.map]
    | ok done => simp [Except.map, calm]
  · simp [calm]

/-- A check where the count can be taken classifies it by the one before. -/
theorem transitions_of_count {calendarId : String} {count : Nat}
    (notified : board.notified? calendarId = some (calendar, config))
    (counted : board.count calendarId day = (.ok count, board)) (surroundings : Surroundings)
    (previous : Int) :
    (board.checkThreshold surroundings calendarId day previous).transitions
      = [⟨calendarId, day, previous, count, calendar.threshold,
          .classify previous count calendar.threshold⟩] := by
  have same := notified?_eq_some board notified
  subst same
  rw [checkThreshold_of_notified surroundings board notified, counted]
  exact transitions_announce _ _ _ _ _

/-- A date of a calendar that is notified of, where the count can be taken and goes on being
so. -/
structure Tracked (board : Board) (calendar : Calendar) (config : NotifyConfig) (day : Date) :
    Prop where
  notified : board.notified? calendar.id = some (calendar, config)
  calm : board.countOutages = 0
  foreseeable : board.records.Foreseeable calendar.id day day
  timed : board.records.Timed calendar.id day board.now

namespace Tracked

theorem count_eq (tracked : board.Tracked calendar config day) :
    board.count calendar.id day = (.ok (board.records.simultaneous calendar.id day), board) :=
  count_eq_ok_iff.mpr ⟨tracked.calm, ⟨tracked.timed.comparable, tracked.foreseeable⟩, rfl⟩

theorem transitions_checkThreshold (tracked : board.Tracked calendar config day)
    (surroundings : Surroundings) (previous : Int) :
    (board.checkThreshold surroundings calendar.id day previous).transitions
      = [⟨calendar.id, day, previous, board.records.simultaneous calendar.id day,
          calendar.threshold,
          .classify previous (board.records.simultaneous calendar.id day) calendar.threshold⟩] :=
  transitions_of_count tracked.notified tracked.count_eq surroundings previous

/-- The records may change in the availabilities of a participant, if new ones are made by
the present clock. -/
theorem edit {participantId : String} {day' : Date} {records : Records}
    (tracked : board.Tracked calendar config day)
    (edited : board.records.Edit board.now participantId day' records) (log : DeliveryLog)
    (issued : Nat) {outages : Nat} (fewer : outages ≤ board.countOutages) :
    Tracked { board with records := records, log := log, issued := issued,
                         countOutages := outages } calendar config day := by
  have calm := tracked.calm
  have timed := tracked.timed.edit edited
  cases edited <;>
    exact ⟨tracked.notified, by dsimp only; omega, tracked.foreseeable, timed⟩

theorem putParticipant {present updated : Participant}
    (tracked : board.Tracked calendar config day)
    (stored : present ∈ board.records.participants.rows) (alike : updated.Alike present) :
    (board.putParticipant updated).Tracked calendar config day := by
  have same := Records.alike_putParticipant stored alike calendar.id day
  refine ⟨tracked.notified, tracked.calm, ?_, ?_⟩
  · intro recurrence inside member
    exact tracked.foreseeable recurrence inside ((same.isSome_member? _).trans member)
  · intro availability inside here member
    exact tracked.timed availability inside here ((same.isSome_member? _).trans member)

end Tracked

/-! ## One step -/

/-- A check of another date, or of another calendar, does not count. -/
theorem crossings_checkThreshold {calendarId calendarId' : String} {day' : Date}
    (elsewhere : calendarId' = calendarId → day' ≠ day) (surroundings : Surroundings)
    (previous : Int) :
    (board.checkThreshold surroundings calendarId' day' previous).crossings calendarId day = [] := by
  rcases board.checkThreshold_cases surroundings calendarId' day' previous with
    ⟨silent, -⟩ | ⟨calendar, config, current, -, announced⟩
  · exact silent.crossings
  · rw [announced, Step.crossings, transitions_announce]
    by_cases same : calendarId' = calendarId
    · simp [elsewhere same]
    · simp [same]

/-- Whether a date of a calendar is on the upper side of the threshold. -/
def isAbove (board : Board) (calendar : Calendar) (day : Date) : Bool :=
  calendar.threshold ≤ board.records.simultaneous calendar.id day

theorem leads_stay {other : Board} {crossings : List Crossing} (silent : crossings = [])
    (same : board.records.simultaneous calendar.id day
      = other.records.simultaneous calendar.id day) :
    Crossing.Leads (board.isAbove calendar day) crossings (other.isAbove calendar day) := by
  rw [silent, isAbove, isAbove, same]
  exact .stay _

/-- An edit of a date is announced with the count before it, and leads from side to side. -/
theorem Tracked.leads_edit {participantId : String} {records : Records} {other : Board}
    (tracked : board.Tracked calendar config day)
    (edited : board.records.Edit board.now participantId day records)
    (surroundings : Surroundings) (issued : Nat) (reached : other.records = records) :
    Crossing.Leads (board.isAbove calendar day)
      ((checkThreshold surroundings
        { board with
          records := records
          issued := issued
          countOutages := board.countOutages - 1 }
        calendar.id day (board.countBefore calendar.id day).1).crossings calendar.id day)
      (other.isAbove calendar day) := by
  have next := tracked.edit edited board.log issued (Nat.sub_le board.countOutages 1)
  have previous : (board.countBefore calendar.id day).1
      = board.records.simultaneous calendar.id day := by
    rw [countBefore, tracked.count_eq]
  have leads := Crossing.Leads.classify (board.records.simultaneous calendar.id day)
    (records.simultaneous calendar.id day) calendar.threshold
  rw [Step.crossings, next.transitions_checkThreshold, previous, isAbove, isAbove, reached]
  simpa using leads

/-- A step that is not about recurrences leads from the side before it to the side after. -/
theorem Tracked.perform (tracked : board.Tracked calendar config day)
    (surroundings : Surroundings) (operation : Operation)
    (settled : operation.rearranges = false) (changes : operation.checks = false) :
    (board.perform surroundings operation).board.Tracked calendar config day
      ∧ Crossing.Leads (board.isAbove calendar day)
        ((board.perform surroundings operation).crossings calendar.id day)
        ((board.perform surroundings operation).board.isAbove calendar day) := by
  have calm := tracked.calm
  cases perform_course surroundings board operation with
  | idle tokens outages fewer reached silent =>
    rw [reached]
    exact ⟨⟨tracked.notified, by dsimp only; omega, tracked.foreseeable, tracked.timed⟩,
      leads_stay silent.crossings rfl⟩
  | edit calendar' participant day' records issued member belongs edited follows =>
    obtain ⟨log, outages, fewer, after⟩ := board_checkThreshold surroundings
      { board with records := records, issued := issued, countOutages := board.countOutages - 1 }
      calendar'.id day' (board.countBefore calendar'.id day').1
    rw [follows.board, follows.crossings, after]
    refine ⟨tracked.edit edited log issued (Nat.le_trans fewer (Nat.sub_le _ _)), ?_⟩
    by_cases here : calendar'.id = calendar.id ∧ day' = day
    · obtain ⟨sameCalendar, rfl⟩ := here
      rw [sameCalendar]
      exact tracked.leads_edit edited surroundings issued rfl
    · -- the date shows nothing of the edit, and what is announced is of another date
      have elsewhere : calendar'.id = calendar.id → day' ≠ day :=
        fun same other => here ⟨same, other⟩
      refine leads_stay (crossings_checkThreshold elsewhere surroundings _) ?_
      refine (edited.alike fun joined => elsewhere ?_).simultaneous_eq
      exact belongs.symm.trans (Records.calendarId_of_isSome_member? member joined)
  | rearrange records issued kind rearranged reached silent =>
    rw [settled] at kind
    cases kind
  | address present updated email token stored alike follows =>
    have silent : (sendVerification surroundings
        ({ board with tokens := board.tokens + 1 }.putParticipant updated) email updated.name
        updated.locale token).crossings calendar.id day = [] := by
      rw [Step.crossings, transitions_sendVerification]
      rfl
    rw [follows.board, follows.crossings, board_sendVerification]
    have next : ({ board with tokens := board.tokens + 1 }).Tracked calendar config day :=
      ⟨tracked.notified, calm, tracked.foreseeable, tracked.timed⟩
    exact ⟨next.putParticipant stored alike,
      leads_stay silent (Records.alike_putParticipant stored alike _ _).simultaneous_eq⟩
  | confirm present updated stored alike reached silent =>
    rw [reached]
    exact ⟨tracked.putParticipant stored alike,
      leads_stay silent.crossings (Records.alike_putParticipant stored alike _ _).simultaneous_eq⟩
  | check calendarId day' previous asked follows =>
    rw [asked] at changes
    cases changes
  | clean kept asked retained reached silent =>
    rw [reached]
    exact ⟨⟨tracked.notified, calm, tracked.foreseeable, tracked.timed⟩,
      leads_stay silent.crossings rfl⟩
  | advance micros now asked moved reached silent =>
    rw [reached]
    refine ⟨⟨tracked.notified, calm, tracked.foreseeable, ?_⟩, leads_stay silent.crossings rfl⟩
    obtain ⟨span, -, shifted⟩ := Option.bind_eq_some_iff.mp moved
    intro availability inside here member
    have clock := tracked.timed availability inside here member
    rw [Instant.isSome_compare?] at clock ⊢
    exact clock.trans (Instant.isAnchored_of_shift? shifted).symm

/-! ## Runs -/

theorem Tracked.after (tracked : board.Tracked calendar config day)
    (run : List (Surroundings × Operation))
    (plain : ∀ entry ∈ run, entry.2.rearranges = false ∧ entry.2.checks = false) :
    (board.after run).Tracked calendar config day
      ∧ Crossing.Leads (board.isAbove calendar day) (board.crossings run calendar.id day)
        ((board.after run).isAbove calendar day) := by
  induction run generalizing board with
  | nil => exact ⟨tracked, .stay _⟩
  | cons entry rest ih =>
    obtain ⟨settled, changes⟩ := plain entry List.mem_cons_self
    obtain ⟨next, first⟩ := tracked.perform entry.1 entry.2 settled changes
    obtain ⟨last, later⟩ := ih next fun other inside =>
      plain other (List.mem_cons_of_mem _ inside)
    exact ⟨last, first.append later⟩

/-- From a count that can be taken, where the availabilities of the date were made by a clock
like the present one, the crossings of a run without changes of recurrences alternate.  They
begin with the threshold being reached where the count was below it, and after each part of
the run the count can be taken and is on the side that the last crossing led to. -/
theorem crossings_alternate {initial : Nat} (run : List (Surroundings × Operation))
    (notified : board.notified? calendar.id = some (calendar, config))
    (counted : board.count calendar.id day = (.ok initial, board))
    (timed : board.records.Timed calendar.id day board.now)
    (plain : ∀ entry ∈ run, entry.2.rearranges = false ∧ entry.2.checks = false) :
    (board.crossings run calendar.id day).IsChain (· ≠ ·)
    ∧ (∀ crossing ∈ board.crossings run calendar.id day, crossing = .reached ∨ crossing = .lost)
    ∧ (∀ crossing ∈ (board.crossings run calendar.id day).head?,
      crossing = .reached ↔ initial < calendar.threshold)
    ∧ ∀ first rest, run = first ++ rest → ∃ count : Nat,
      (board.after first).count calendar.id day = (.ok count, board.after first)
      ∧ (calendar.threshold ≤ count
        ↔ (board.crossings first calendar.id day).getLast? = some .reached
          ∨ board.crossings first calendar.id day = [] ∧ calendar.threshold ≤ initial) := by
  obtain ⟨calm, ⟨-, foreseeable⟩, begun⟩ := count_eq_ok_iff.mp counted
  have tracked : board.Tracked calendar config day := ⟨notified, calm, foreseeable, timed⟩
  have start : board.isAbove calendar day = decide (calendar.threshold ≤ initial) := by
    rw [isAbove, begun]
  obtain ⟨-, leads⟩ := tracked.after run plain
  refine ⟨leads.isChain, ?_, ?_, ?_⟩
  · intro crossing inside
    obtain ⟨step, -, among⟩ := List.mem_flatMap.mp inside
    have crossed : crossing ≠ .unchanged := by simpa using List.of_mem_filter among
    cases crossing with
    | reached => exact .inl rfl
    | lost => exact .inr rfl
    | unchanged => exact absurd rfl crossed
  · intro crossing first
    rw [leads.head_eq crossing first, start]
    by_cases above : calendar.threshold ≤ initial
    · simp [above, Nat.not_lt.mpr above]
    · simp [above, Nat.lt_of_not_le above]
  · rintro first rest rfl
    obtain ⟨now, leads⟩ := tracked.after first fun entry inside =>
      plain entry (List.mem_append_left _ inside)
    refine ⟨_, now.count_eq, ?_⟩
    have side := leads.above_iff
    rw [start] at side
    simpa [isAbove] using side

/-- An entry, its withdrawal, and the entry again. -/
theorem crossings_alternate_sample :
    let run := [
      (Surroundings.sample, Operation.sampleEntry "ann"),
      (Surroundings.sample, .sampleWithdrawal "ann"),
      (Surroundings.sample, .advance 7200000000),
      (Surroundings.sample, .sampleEntry "ann")]
    sample.notified? Calendar.sample.id = some (.sample, .sample)
      ∧ sample.count Calendar.sample.id .sample = (.ok 0, sample)
      ∧ sample.records.Timed Calendar.sample.id .sample sample.now
      ∧ (∀ entry ∈ run, entry.2.rearranges = false ∧ entry.2.checks = false)
      ∧ sample.crossings run Calendar.sample.id .sample = [.reached, .lost, .reached]
      ∧ ∃ count : Nat, (sample.after run).count Calendar.sample.id .sample
          = (.ok count, sample.after run)
        ∧ Calendar.sample.threshold ≤ count := by
  intro run
  have crossed : sample.crossings run Calendar.sample.id .sample
      = [.reached, .lost, .reached] := by decide +kernel
  have notified : sample.notified? Calendar.sample.id = some (.sample, .sample) := by
    decide +kernel
  have counted : sample.count Calendar.sample.id .sample = (.ok 0, sample) := by decide +kernel
  have timed : sample.records.Timed Calendar.sample.id .sample sample.now := by
    intro _ inside
    cases inside
  have plain : ∀ entry ∈ run, entry.2.rearranges = false ∧ entry.2.checks = false := by decide
  obtain ⟨-, -, -, parts⟩ := crossings_alternate run notified counted timed plain
  obtain ⟨count, told, side⟩ := parts run [] (List.append_nil run).symm
  refine ⟨notified, counted, timed, plain, crossed, count, told, ?_⟩
  exact side.mpr (.inl (congrArg List.getLast? crossed))

/-- The board with an availability that was made by a clock without an offset. -/
def unanchored : Board :=
  { sample with
    records :=
      { sample.records with
        availabilities := ⟨[.sample "first" "ann" ⟨63881686800000000, none⟩], by decide⟩ } }

/-- Such an availability can be counted, but not together with one that is made now.  The
count before a withdrawal is not known then, and the threshold is reached twice in a row. -/
theorem crossings_of_unanchored :
    let run := [
      (Surroundings.sample, Operation.sampleEntry "bob"),
      (Surroundings.sample, .sampleWithdrawal "bob"),
      (Surroundings.sample, .advance 7200000000),
      (Surroundings.sample, .sampleEntry "bob"),
      (Surroundings.sample, .sampleWithdrawal "bob")]
    unanchored.notified? Calendar.sample.id = some (.sample, .sample)
      ∧ unanchored.count Calendar.sample.id .sample = (.ok 1, unanchored)
      ∧ (∀ entry ∈ run, entry.2.rearranges = false ∧ entry.2.checks = false)
      ∧ unanchored.crossings run Calendar.sample.id .sample = [.reached, .reached]
      ∧ ¬ (unanchored.crossings run Calendar.sample.id .sample).IsChain (· ≠ ·) := by
  intro run
  have crossed : unanchored.crossings run Calendar.sample.id .sample
      = [.reached, .reached] := by
    decide +kernel
  refine ⟨by decide +kernel, by decide +kernel, by decide, crossed, ?_⟩
  rw [crossed]
  simp

end Board

end Rendezvous
