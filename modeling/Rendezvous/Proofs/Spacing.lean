import Rendezvous.Proofs.Recollection
import Rendezvous.Proofs.Uniqueness

/-!
# Deliveries of one kind keep their distance

While the log can be read and written and messages fail by refusal alone, everything that is due
for a crossing is attempted, or left out for a recent delivery of its kind.  The log then knows
of the recent deliveries, and of nothing else.
-/

namespace Rendezvous

/-- The attempts of a round account for all that is due after a history: everything is
attempted in its turn, or left out for a delivery of its kind within the window. -/
inductive Accounted (window : Int) (now : Instant) (transition : Transition) :
    List Attempt → List Due → List Attempt → Prop where
  | done (history : List Attempt) : Accounted window now transition history [] []
  | attempted {history attempts : List Attempt} {due : Due} {rest : List Due}
      {attempt : Attempt} (message : attempt.message = due.message)
      (about : attempt.about = some (due.key transition)) (time : attempt.time = now)
      (later : Accounted window now transition (history ++ [attempt]) rest attempts) :
      Accounted window now transition history (due :: rest) (attempt :: attempts)
  | omitted {history attempts : List Attempt} {due : Due} {rest : List Due}
      {earlier : Attempt} (before : earlier ∈ history)
      (delivered : earlier.Delivered (due.key transition))
      (recent : now.micros - earlier.time.micros < window)
      (later : Accounted window now transition history rest attempts) :
      Accounted window now transition history (due :: rest) attempts

/-- The log can be read and written, and a message that is not delivered is refused. -/
structure Surroundings.Dependable (surroundings : Surroundings) (board : Board)
    (minutes days : Int) : Prop where
  sameMinutes : surroundings.settings.dedupMinutes = minutes
  sameDays : surroundings.settings.retentionDays = days
  reads : ∀ key, ∃ sent, board.sentRecently surroundings key minutes = .ok sent
  writes : ∀ delivery, surroundings.writeFails.hits delivery = false
  sends : ∀ message failure, surroundings.outlets.receive message ≠ .crashed failure

theorem Surroundings.Dependable.recording {surroundings : Surroundings} {board : Board}
    {minutes days : Int} (dependable : surroundings.Dependable board minutes days) :
    surroundings.Recording board minutes days :=
  ⟨dependable.sameMinutes, dependable.sameDays, dependable.reads, dependable.writes⟩

/-! ## The log and the history -/

/-- What the log knows of the attempts so far. -/
structure Chronicle (window : Int) (history : List Attempt) (log : DeliveryLog)
    (now : Instant) : Prop where
  known : ∀ attempt ∈ history, ∀ key, attempt.Delivered key →
    now.micros - attempt.time.micros < window →
    ∃ delivery ∈ log, delivery.key = key ∧ delivery.sentAt = attempt.time
  made : ∀ delivery ∈ log, ∃ attempt ∈ history, attempt.Delivered delivery.key
    ∧ attempt.time = delivery.sentAt
  spaced : Spaced window history

namespace Chronicle

variable {window : Int} {history : List Attempt} {log : DeliveryLog} {now : Instant}

theorem recalls (chronicle : Chronicle window history log now) :
    Recalls window history log now :=
  ⟨chronicle.known, chronicle.spaced⟩

/-- An attempt that delivers nothing of a kind leaves the log as it is. -/
theorem undelivered (chronicle : Chronicle window history log now) {attempt : Attempt}
    (nothing : ∀ key, ¬ attempt.Delivered key) :
    Chronicle window (history ++ [attempt]) log now := by
  obtain ⟨known, spaced⟩ := chronicle.recalls.undelivered nothing
  refine ⟨known, ?_, spaced⟩
  intro delivery inside
  obtain ⟨other, among, made⟩ := chronicle.made delivery inside
  exact ⟨other, List.mem_append_left _ among, made⟩

/-- A delivery is written down where none of its kind is recent. -/
theorem delivered (chronicle : Chronicle window history log now) {attempt : Attempt}
    {key : DeliveryKey} (role : Role) (time : attempt.time = now)
    (delivered : attempt.Delivered key)
    (apart : ∀ earlier ∈ history, earlier.Delivered key →
      window ≤ now.micros - earlier.time.micros) :
    Chronicle window (history ++ [attempt]) (log ++ [⟨key, role, now⟩]) now := by
  obtain ⟨known, spaced⟩ := chronicle.recalls.delivered role time delivered apart
  refine ⟨known, ?_, spaced⟩
  intro delivery inside
  rcases List.mem_append.mp inside with inside | last
  · obtain ⟨other, among, made⟩ := chronicle.made delivery inside
    exact ⟨other, List.mem_append_left _ among, made⟩
  · rw [List.mem_singleton.mp last]
    exact ⟨attempt, List.mem_append_right _ List.mem_cons_self, delivered, time⟩

/-- What is forgotten is older than the window. -/
theorem retain (chronicle : Chronicle window history log now) {days : Int}
    {kept : DeliveryLog} (enough : window ≤ days * Instant.microsPerDay)
    (retained : log.retain now days = .ok kept) : Chronicle window history kept now := by
  obtain ⟨known, spaced⟩ := chronicle.recalls.retain enough retained
  obtain ⟨_, _, kept'⟩ := DeliveryLog.retain_eq_ok retained
  refine ⟨known, ?_, spaced⟩
  intro delivery inside
  exact chronicle.made delivery ((kept' delivery).mp inside).1

theorem advance (chronicle : Chronicle window history log now) {later : Instant}
    (onward : now.micros ≤ later.micros) : Chronicle window history log later := by
  obtain ⟨known, spaced⟩ := chronicle.recalls.advance onward
  exact ⟨known, chronicle.made, spaced⟩

end Chronicle

/-! ## A round -/

namespace Surroundings.Dependable

variable {surroundings : Surroundings} {board : Board} {minutes days : Int}

/-- A round keeps the log in step with what was delivered, and accounts for all that is due. -/
theorem dispatch (dependable : surroundings.Dependable board minutes days)
    (transition : Transition) (dues : List Due) {history : List Attempt} {log : DeliveryLog}
    (chronicle : Chronicle (minutes * Instant.microsPerMinute) history log board.now) :
    Chronicle (minutes * Instant.microsPerMinute)
        (history ++ (Round.dispatch surroundings board.now transition dues log).attempts)
        (Round.dispatch surroundings board.now transition dues log).log board.now
      ∧ Accounted (minutes * Instant.microsPerMinute) board.now transition history dues
        (Round.dispatch surroundings board.now transition dues log).attempts := by
  -- every attempt joins the history that the rest of the round is held against
  induction dues generalizing history log with
  | nil => exact ⟨by simpa [Round.dispatch] using chronicle, .done history⟩
  | cons due rest ih =>
    rw [Round.dispatch]
    dsimp only
    by_cases again : Round.repeats surroundings log board.now (due.key transition)
    · -- the delivery that the log knows of is one of the history
      rw [if_pos again]
      obtain ⟨delivery, inside, same, recent⟩ := (dependable.recording.repeats_iff log _).mp again
      obtain ⟨earlier, before, delivered, time⟩ := chronicle.made delivery inside
      obtain ⟨kept, accounted⟩ := ih chronicle
      exact ⟨kept, .omitted before (same ▸ delivered) (time ▸ recent) accounted⟩
    · rw [if_neg again]
      cases received : surroundings.outlets.receive due.message with
      | crashed failure => exact absurd received (dependable.sends due.message failure)
      | refused =>
        let attempt : Attempt :=
          ⟨due.message, some (due.key transition), .refused, board.now⟩
        have nothing : ∀ key, ¬ attempt.Delivered key := by
          rintro key ⟨-, delivered⟩
          cases delivered
        have next := chronicle.undelivered nothing
        obtain ⟨kept, accounted⟩ := ih next
        rw [List.append_assoc] at kept
        exact ⟨kept, .attempted rfl rfl rfl accounted⟩
      | delivered =>
        have apart := dependable.recording.apart_of_not_repeats chronicle.recalls again
        let attempt : Attempt :=
          ⟨due.message, some (due.key transition), .delivered, board.now⟩
        have delivered : attempt.Delivered (due.key transition) := ⟨rfl, rfl⟩
        have next := chronicle.delivered due.role rfl delivered apart
        obtain ⟨kept, accounted⟩ := ih next
        rw [List.append_assoc] at kept
        rw [Round.record, dependable.writes]
        exact ⟨kept, .attempted rfl rfl rfl accounted⟩

theorem upholds_chronicle (dependable : surroundings.Dependable board minutes days)
    (enough : minutes ≤ days * 1440) {operation : Operation} (onward : operation.isOnward) :
    surroundings.Upholds operation board.now (Chronicle (minutes * Instant.microsPerMinute)) where
  attempt nothing chronicle := chronicle.undelivered nothing
  round transition dues chronicle := (dependable.dispatch transition dues chronicle).1
  retain retained chronicle :=
    chronicle.retain (window_le_of_minutes_le enough) (dependable.sameDays ▸ retained)
  advance asked shifted chronicle :=
    chronicle.advance (Operation.micros_le_of_isOnward onward asked shifted)

end Surroundings.Dependable

/-! ## A step -/

namespace Board

variable {surroundings : Surroundings} {board : Board} {minutes days : Int}
  {history : List Attempt}

/-- What a step sends keeps the log in step with the history, and accounts for whatever is
due for a crossing. -/
structure Traced {α : Type} (surroundings : Surroundings) (window : Int)
    (history : List Attempt) (step : Step α) : Prop where
  chronicle : Chronicle window (history ++ step.attempts) step.board.log step.board.now
  accounted : ∀ transition ∈ step.transitions, transition.crossing ≠ .unchanged →
    ∃ calendar config, step.board.notified? transition.calendarId = some (calendar, config)
      ∧ Accounted window step.board.now transition history
        (Due.all surroundings step.board.records calendar config transition) step.attempts

theorem traced_perform (operation : Operation) (enough : minutes ≤ days * 1440)
    (dependable : surroundings.Dependable board minutes days)
    (onward : operation.isOnward)
    (chronicle : Chronicle (minutes * Instant.microsPerMinute) history board.log board.now) :
    Traced surroundings (minutes * Instant.microsPerMinute) history
      (board.perform surroundings operation) := by
  refine ⟨leaves_perform (dependable.upholds_chronicle enough onward) chronicle, ?_⟩
  intro transition inside crossed
  obtain ⟨changed, calendar, config, log, now, notified, follows⟩ :=
    follows_announce_of_mem_perform inside
  rw [announce, if_neg crossed] at follows
  obtain ⟨-, accounted⟩ := dependable.dispatch transition
    (Due.all surroundings changed.records calendar config transition) chronicle
  refine ⟨calendar, config, ?_, ?_⟩
  · rw [follows.board]
    exact notified
  · rw [follows.attempts, follows.board]
    dsimp only
    rw [log, now]
    exact accounted

/-! ## Runs -/

/-- Along a run the log can be read and written, and sending fails by refusal alone. -/
def Dependable (minutes days : Int) : Board → List (Surroundings × Operation) → Prop
  | _, [] => True
  | board, (surroundings, operation) :: rest =>
      surroundings.Dependable board minutes days
        ∧ Dependable minutes days (board.perform surroundings operation).board rest

theorem dependable_append {first rest : List (Surroundings × Operation)} :
    board.Dependable minutes days (first ++ rest)
      ↔ board.Dependable minutes days first ∧ (board.after first).Dependable minutes days rest := by
  induction first generalizing board with
  | nil => simp [Dependable]
  | cons entry later ih =>
    obtain ⟨surroundings, operation⟩ := entry
    simp [Dependable, ih, and_assoc]

theorem chronicle_after (run : List (Surroundings × Operation)) (enough : minutes ≤ days * 1440)
    (dependable : board.Dependable minutes days run)
    (onward : ∀ entry ∈ run, entry.2.isOnward)
    (chronicle : Chronicle (minutes * Instant.microsPerMinute) history board.log board.now) :
    Chronicle (minutes * Instant.microsPerMinute) (history ++ board.attempts run)
      (board.after run).log (board.after run).now := by
  refine upheld_after run (fun first surroundings operation rest split => ?_) chronicle
  have member : (surroundings, operation) ∈ run := by simp [split]
  rw [split, dependable_append] at dependable
  exact dependable.2.1.upholds_chronicle enough (onward _ member)

/-- From an empty log, if deliveries are kept at least as long as they are not to be repeated,
deliveries of one kind are at least that long apart, and what is due for a crossing is left
out only for a delivery of its kind within that time. -/
theorem deliveries_spaced (run : List (Surroundings × Operation)) (unsent : board.log = [])
    (enough : minutes ≤ days * 1440) (dependable : board.Dependable minutes days run)
    (onward : ∀ entry ∈ run, entry.2.isOnward) :
    Spaced (minutes * Instant.microsPerMinute) (board.attempts run)
    ∧ ∀ first surroundings operation rest, run = first ++ (surroundings, operation) :: rest →
      let step := (board.after first).perform surroundings operation
      ∀ transition ∈ step.transitions, transition.crossing ≠ .unchanged →
        ∃ calendar config, step.board.notified? transition.calendarId = some (calendar, config)
          ∧ Accounted (minutes * Instant.microsPerMinute) step.board.now transition
            (board.attempts first)
            (Due.all surroundings step.board.records calendar config transition)
            step.attempts := by
  have start : Chronicle (minutes * Instant.microsPerMinute) [] board.log board.now := by
    rw [unsent]
    refine ⟨?_, ?_, List.Pairwise.nil⟩ <;> intro _ inside <;> cases inside
  refine ⟨(chronicle_after run enough dependable onward start).spaced, ?_⟩
  rintro first surroundings operation rest rfl
  obtain ⟨before, now, -⟩ := dependable_append.mp dependable
  have chronicle := chronicle_after first enough before
    (fun entry inside => onward entry (List.mem_append_left _ inside)) start
  exact (traced_perform operation enough now
    (onward _ (List.mem_append_right _ List.mem_cons_self)) chronicle).accounted

theorem dependable_sample (clock : (board.now.shift? (-3600000000)).isSome) :
    Surroundings.sample.Dependable board 60 30 := by
  obtain ⟨cutoff, shifted⟩ := Option.isSome_iff_exists.mp clock
  refine ⟨rfl, rfl, ?_, fun _ => rfl, ?_⟩
  · intro key
    refine ⟨board.log.sentSince key cutoff, ?_⟩
    change board.log.sentWithin board.now 3600000000 key = _
    rw [DeliveryLog.sentWithin, shifted]
  · intro message failure
    cases message <;> simp [Surroundings.sample, Outlets.refusing]

/-- The threshold is reached again within the hour, and the owner is not told again. -/
theorem deliveries_spaced_sample :
    let run := [
      (Surroundings.sample, Operation.sampleEntry "ann"),
      (Surroundings.sample, .sampleWithdrawal "ann"),
      (Surroundings.sample, .advance 1800000000),
      (Surroundings.sample, .cleanup),
      (Surroundings.sample, .sampleEntry "ann")]
    sample.log = [] ∧ (60 : Int) ≤ 30 * 1440 ∧ sample.Dependable 60 30 run
      ∧ (∀ entry ∈ run, entry.2.isOnward)
      ∧ ((sample.run run).flatMap Step.transitions).map Transition.crossing
        = [.reached, .lost, .reached]
      ∧ (sample.attempts run).length = 2
      ∧ Spaced (60 * Instant.microsPerMinute) (sample.attempts run) := by
  intro run
  have dependable : sample.Dependable 60 30 run :=
    ⟨dependable_sample (by decide +kernel), dependable_sample (by decide +kernel),
      dependable_sample (by decide +kernel), dependable_sample (by decide +kernel),
      dependable_sample (by decide +kernel), trivial⟩
  have onward : ∀ entry ∈ run, entry.2.isOnward := by decide
  obtain ⟨spaced, -⟩ := deliveries_spaced run rfl (by decide) dependable onward
  exact ⟨rfl, by decide, dependable, onward, by decide +kernel, by decide +kernel, spaced⟩

end Board

end Rendezvous
