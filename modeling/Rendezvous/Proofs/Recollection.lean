import Rendezvous.Proofs.Course

/-!
# What the log recalls

Before anything is sent, the log is asked for a delivery of the same kind not long ago.  While it
can be read and written, it knows of every delivery that is recent enough to matter: failed
attempts are not in it, and the deliveries it forgets are older than that.  So deliveries of one
kind keep their distance, whether or not the attempts in between were refused or crashed.  The
times of its lines come from one clock, and can always be compared.
-/

namespace Rendezvous

/-- Whether an attempt delivered a message of a kind. -/
def Attempt.Delivered (attempt : Attempt) (key : DeliveryKey) : Prop :=
  attempt.about = some key ∧ attempt.reception = .delivered

/-- The attempts of a run, in the order in which they were made. -/
def Board.attempts (board : Board) (run : List (Surroundings × Operation)) : List Attempt :=
  (board.run run).flatMap Step.attempts

/-- Deliveries of one kind are a window apart. -/
def Spaced (window : Int) (history : List Attempt) : Prop :=
  history.Pairwise fun earlier later => ∀ key, earlier.Delivered key → later.Delivered key →
    window ≤ later.time.micros - earlier.time.micros

/-- Whether an operation leaves the clock alone or moves it forward. -/
def Operation.isOnward : Operation → Bool
  | .advance micros => 0 ≤ micros
  | _ => true

theorem Operation.micros_le_of_isOnward {operation : Operation} (onward : operation.isOnward)
    {micros : Int} (asked : operation = .advance micros) {now later : Instant}
    (shifted : now.shift? micros = some later) : now.micros ≤ later.micros := by
  rw [asked, isOnward, decide_eq_true_eq] at onward
  rw [Instant.micros_of_shift? shifted]
  omega

theorem Board.attempts_append (board : Board) (first rest : List (Surroundings × Operation)) :
    board.attempts (first ++ rest)
      = board.attempts first ++ (board.after first).attempts rest := by
  induction first generalizing board with
  | nil => rfl
  | cons entry later ih =>
    obtain ⟨surroundings, operation⟩ := entry
    have rest' := ih (board.perform surroundings operation).board
    rw [attempts] at rest' ⊢
    rw [List.cons_append, Board.run, List.flatMap_cons, rest', ← List.append_assoc]
    rfl

theorem Spaced.concat {window : Int} {history : List Attempt} (spaced : Spaced window history)
    {attempt : Attempt} (apart : ∀ earlier ∈ history, ∀ key, earlier.Delivered key →
      attempt.Delivered key → window ≤ attempt.time.micros - earlier.time.micros) :
    Spaced window (history ++ [attempt]) := by
  refine List.pairwise_append.mpr ⟨spaced, List.pairwise_singleton _ _, ?_⟩
  intro earlier inside later last
  rw [List.mem_singleton.mp last]
  exact apart earlier inside

/-! ## What is kept up along a run -/

/-- What holds of the attempts so far, the log and the clock goes on to hold, whatever an
operation leads to in some surroundings at some moment. -/
structure Surroundings.Upholds (surroundings : Surroundings) (operation : Operation)
    (now : Instant) (holds : List Attempt → DeliveryLog → Instant → Prop) : Prop where
  attempt : ∀ {history log attempt}, (∀ key, ¬ attempt.Delivered key) →
    holds history log now → holds (history ++ [attempt]) log now
  round : ∀ {history log} transition dues, holds history log now →
    holds (history ++ (Round.dispatch surroundings now transition dues log).attempts)
      (Round.dispatch surroundings now transition dues log).log now
  retain : ∀ {history log kept},
    log.retain now surroundings.settings.retentionDays = .ok kept →
      holds history log now → holds history kept now
  advance : ∀ {history log micros later}, operation = .advance micros →
    now.shift? micros = some later → holds history log now → holds history log later

/-- What holds of the attempts, the log and the clock at the end of a step. -/
def Step.Leaves {α : Type} (step : Step α) (history : List Attempt)
    (holds : List Attempt → DeliveryLog → Instant → Prop) : Prop :=
  holds (history ++ step.attempts) step.board.log step.board.now

section

variable {α β : Type} {surroundings : Surroundings} {board : Board} {operation : Operation}
  {history : List Attempt} {holds : List Attempt → DeliveryLog → Instant → Prop}

theorem Step.Silent.leaves {step : Step α} (silent : step.Silent)
    (start : holds history step.board.log step.board.now) : step.Leaves history holds := by
  rw [Step.Leaves, silent.attempts, List.append_nil]
  exact start

theorem Step.Follows.leaves {step : Step α} {other : Step β} (follows : step.Follows other)
    (leaves : other.Leaves history holds) : step.Leaves history holds := by
  rw [Step.Leaves, follows.attempts, follows.board]
  exact leaves

namespace Board

theorem leaves_announce (upholds : surroundings.Upholds operation board.now holds)
    (start : holds history board.log board.now) (calendar : Calendar) (config : NotifyConfig)
    (transition : Transition) :
    (board.announce surroundings calendar config transition).Leaves history holds := by
  rw [announce]
  split
  · simpa [Step.Leaves] using start
  · exact upholds.round transition _ start

theorem leaves_checkThreshold (upholds : surroundings.Upholds operation board.now holds)
    (start : holds history board.log board.now) (calendarId : String) (day : Date)
    (previous : Int) :
    (board.checkThreshold surroundings calendarId day previous).Leaves history holds := by
  rcases board.checkThreshold_cases surroundings calendarId day previous with
    ⟨silent, same⟩ | ⟨calendar, config, current, -, announced⟩
  · obtain ⟨log, outages, -, after⟩ :=
      board.board_checkThreshold surroundings calendarId day previous
    refine silent.leaves ?_
    rw [same, after]
    exact start
  · rw [announced]
    refine leaves_announce (?_ : surroundings.Upholds operation _ holds) ?_ calendar config _
    · exact upholds
    · exact start

/-- A letter that asks to confirm an address is of no kind. -/
theorem leaves_sendVerification (upholds : surroundings.Upholds operation board.now holds)
    (start : holds history board.log board.now) (email name locale token : String) :
    (board.sendVerification surroundings email name locale token).Leaves history holds := by
  rw [sendVerification]
  split
  · refine upholds.attempt ?_ start
    rintro key ⟨about, -⟩
    cases about
  · exact Step.Silent.leaves ⟨rfl, rfl⟩ start

/-- What is upheld by an operation is left by it. -/
theorem leaves_perform (upholds : surroundings.Upholds operation board.now holds)
    (start : holds history board.log board.now) :
    (board.perform surroundings operation).Leaves history holds := by
  cases perform_course surroundings board operation with
  | idle tokens outages fewer reached silent => exact silent.leaves (reached ▸ start)
  | edit calendar participant day records issued member belongs edited follows =>
    refine follows.leaves (leaves_checkThreshold (?_ : surroundings.Upholds operation _ holds) ?_
      _ _ _)
    · exact upholds
    · exact start
  | rearrange records issued kind rearranged reached silent =>
    exact silent.leaves (reached ▸ start)
  | address present updated email token stored alike follows =>
    refine follows.leaves (leaves_sendVerification
      (?_ : surroundings.Upholds operation _ holds) ?_ _ _ _ _)
    · exact upholds
    · exact start
  | confirm present updated stored alike reached silent => exact silent.leaves (reached ▸ start)
  | check calendarId day previous asked follows =>
    exact follows.leaves (leaves_checkThreshold upholds start _ _ _)
  | clean kept asked retained reached silent =>
    refine silent.leaves ?_
    rw [reached]
    exact upholds.retain retained start
  | advance micros now asked moved reached silent =>
    obtain ⟨span, spanned, shifted⟩ := Option.bind_eq_some_iff.mp moved
    rw [Instant.eq_of_span? spanned, Int.mul_one] at shifted
    refine silent.leaves ?_
    rw [reached]
    exact upholds.advance asked shifted start

/-- What is upheld all along a run holds at its end. -/
theorem upheld_after (run : List (Surroundings × Operation))
    (upholds : ∀ first surroundings operation rest,
      run = first ++ (surroundings, operation) :: rest →
        surroundings.Upholds operation (board.after first).now holds)
    (start : holds history board.log board.now) :
    holds (history ++ board.attempts run) (board.after run).log (board.after run).now := by
  induction run generalizing board history with
  | nil => simpa [attempts, Board.run] using start
  | cons entry rest ih =>
    obtain ⟨surroundings, operation⟩ := entry
    have now := upholds [] surroundings operation rest rfl
    have first := leaves_perform now start
    have last := ih (fun before surroundings' operation' rest' split =>
      upholds ((surroundings, operation) :: before) surroundings' operation' rest'
        (by rw [split]; rfl)) first
    rw [List.append_assoc] at last
    exact last

end Board

end

/-! ## The clock of the log -/

/-- What is kept is what was delivered at the cutoff or later. -/
theorem DeliveryLog.retain_eq_ok {log kept : DeliveryLog} {now : Instant} {days : Int}
    (retained : log.retain now days = .ok kept) :
    ∃ cutoff ∈ now.shift? (-(days * Instant.microsPerDay)), ∀ delivery,
      delivery ∈ kept ↔ delivery ∈ log ∧ cutoff.micros ≤ delivery.sentAt.micros := by
  rw [retain] at retained
  split at retained
  · cases retained
  next cutoff found =>
    cases retained
    obtain ⟨span, spanned, shifted⟩ := Option.bind_eq_some_iff.mp found
    rw [Instant.eq_of_span? spanned] at shifted
    exact ⟨cutoff, shifted, fun delivery => by rw [List.mem_filter, decide_eq_true_eq]⟩

/-- Every line was written by a clock whose readings can be compared with the present one. -/
def DeliveryLog.Timely (log : DeliveryLog) (now : Instant) : Prop :=
  ∀ delivery ∈ log, delivery.sentAt.isAnchored = now.isAnchored

namespace DeliveryLog.Timely

variable {log : DeliveryLog} {now : Instant}

theorem concat (timely : log.Timely now) {delivery : Delivery} (time : delivery.sentAt = now) :
    Timely (log ++ [delivery]) now := by
  intro other inside
  rcases List.mem_append.mp inside with inside | last
  · exact timely other inside
  · rw [List.mem_singleton.mp last, time]

theorem record (timely : log.Timely now) (surroundings : Surroundings) {delivery : Delivery}
    (time : delivery.sentAt = now) : (Round.record surroundings log delivery).Timely now := by
  rw [Round.record]
  split
  · exact timely
  · exact timely.concat time

theorem dispatch (timely : log.Timely now) (surroundings : Surroundings)
    (transition : Transition) (dues : List Due) :
    (Round.dispatch surroundings now transition dues log).log.Timely now := by
  induction dues generalizing log with
  | nil => exact timely
  | cons due rest ih =>
    rw [Round.dispatch]
    dsimp only
    split
    · exact ih timely
    · split
      · exact timely
      · exact ih (timely.record surroundings rfl)
      · exact ih timely

/-- A cutoff before the present moment can be compared with every line, and a look-up goes by
that order. -/
theorem sentWithin_eq_ok_true_iff (timely : log.Timely now) {span : Int} {key : DeliveryKey} :
    log.sentWithin now span key = .ok true
      ↔ ∃ cutoff ∈ now.shift? (-span), ∃ delivery ∈ log, delivery.key = key
        ∧ cutoff.compare? delivery.sentAt = some .lt := by
  rw [sentWithin]
  cases shifted : now.shift? (-span) with
  | none => simp
  | some cutoff =>
    have kind := Instant.isAnchored_of_shift? shifted
    simp only [Option.mem_some_iff, exists_eq_left', Except.ok.injEq, sentSince,
      List.any_eq_true, Bool.and_eq_true, decide_eq_true_eq]
    refine exists_congr fun delivery => and_congr_right fun inside => and_congr_right fun _ => ?_
    rw [Instant.compare?, if_pos (kind.trans (timely delivery inside).symm), Option.some.injEq,
      Int.compare_eq_lt]

/-- What is forgotten is what comes before the cutoff in that order. -/
theorem retain_eq_ok (timely : log.Timely now) {days : Int} {kept : DeliveryLog}
    (retained : log.retain now days = .ok kept) :
    ∃ cutoff ∈ now.shift? (-(days * Instant.microsPerDay)), ∀ delivery,
      delivery ∈ kept ↔ delivery ∈ log ∧ (cutoff.compare? delivery.sentAt).any Ordering.isLE := by
  obtain ⟨cutoff, shifted, known⟩ := DeliveryLog.retain_eq_ok retained
  have kind := Instant.isAnchored_of_shift? shifted
  refine ⟨cutoff, shifted, fun delivery => (known delivery).trans ?_⟩
  refine and_congr_right fun inside => ?_
  rw [Instant.compare?, if_pos (kind.trans (timely delivery inside).symm)]
  simp [Int.isLE_compare]

end DeliveryLog.Timely

theorem Surroundings.upholds_timely (surroundings : Surroundings) (operation : Operation)
    (now : Instant) :
    surroundings.Upholds operation now fun _ log now => log.Timely now where
  attempt _ timely := timely
  round transition dues timely := timely.dispatch surroundings transition dues
  retain retained timely := by
    obtain ⟨_, _, known⟩ := DeliveryLog.retain_eq_ok retained
    exact fun delivery inside => timely delivery ((known delivery).mp inside).1
  advance _ shifted timely := fun delivery inside =>
    (timely delivery inside).trans (Instant.isAnchored_of_shift? shifted).symm

namespace Board

variable {board : Board}

theorem timely_enterDelivery (timely : board.log.Timely board.now) (surroundings : Surroundings)
    (delivery : Delivery) :
    let step := board.enterDelivery surroundings delivery
    step.board.log.Timely step.board.now := by
  dsimp only
  rw [enterDelivery]
  split
  · exact timely
  · exact timely.concat rfl

/-- No line of the log is ever of another kind than the clock, so the log never compares what
cannot be compared. -/
theorem timely_after (run : List (Surroundings × Operation))
    (timely : board.log.Timely board.now) : (board.after run).log.Timely (board.after run).now :=
  @upheld_after board [] (fun _ log now => log.Timely now) run
    (fun _ surroundings operation _ _ => surroundings.upholds_timely operation _) timely

end Board

/-! ## The log and the deliveries -/

/-- The log can be read and written, and the settings about it are what they are. -/
structure Surroundings.Recording (surroundings : Surroundings) (board : Board)
    (minutes days : Int) : Prop where
  sameMinutes : surroundings.settings.dedupMinutes = minutes
  sameDays : surroundings.settings.retentionDays = days
  reads : ∀ key, ∃ sent, board.sentRecently surroundings key minutes = .ok sent
  writes : ∀ delivery, surroundings.writeFails.hits delivery = false

/-- The log knows of the recent deliveries, and deliveries of one kind are a window apart. -/
structure Recalls (window : Int) (history : List Attempt) (log : DeliveryLog)
    (now : Instant) : Prop where
  known : ∀ attempt ∈ history, ∀ key, attempt.Delivered key →
    now.micros - attempt.time.micros < window →
    ∃ delivery ∈ log, delivery.key = key ∧ delivery.sentAt = attempt.time
  spaced : Spaced window history

namespace Recalls

variable {window : Int} {history : List Attempt} {log : DeliveryLog} {now : Instant}

theorem of_empty (window : Int) (log : DeliveryLog) (now : Instant) :
    Recalls window [] log now := by
  refine ⟨?_, List.Pairwise.nil⟩
  intro attempt inside
  cases inside

/-- An attempt that delivers nothing of a kind leaves the log as it is. -/
theorem undelivered (recalls : Recalls window history log now) {attempt : Attempt}
    (nothing : ∀ key, ¬ attempt.Delivered key) :
    Recalls window (history ++ [attempt]) log now := by
  refine ⟨?_, recalls.spaced.concat fun earlier inside key before now =>
    absurd now (nothing key)⟩
  intro other inside key delivered recent
  rcases List.mem_append.mp inside with inside | last
  · exact recalls.known other inside key delivered recent
  · rw [List.mem_singleton.mp last] at delivered
    exact absurd delivered (nothing key)

/-- A delivery is written down where none of its kind is recent. -/
theorem delivered (recalls : Recalls window history log now) {attempt : Attempt}
    {key : DeliveryKey} (role : Role) (time : attempt.time = now)
    (delivered : attempt.Delivered key)
    (apart : ∀ earlier ∈ history, earlier.Delivered key →
      window ≤ now.micros - earlier.time.micros) :
    Recalls window (history ++ [attempt]) (log ++ [⟨key, role, now⟩]) now := by
  have only : ∀ other, attempt.Delivered other → other = key := by
    intro other again
    exact Option.some.inj (again.1.symm.trans delivered.1)
  refine ⟨?_, recalls.spaced.concat fun earlier inside key' before again => ?_⟩
  · intro other inside key' told recent
    rcases List.mem_append.mp inside with inside | last
    · obtain ⟨delivery, among, same⟩ := recalls.known other inside key' told recent
      exact ⟨delivery, List.mem_append_left _ among, same⟩
    · rw [List.mem_singleton.mp last] at told ⊢
      exact ⟨_, List.mem_append_right _ List.mem_cons_self, (only key' told).symm, time.symm⟩
  · rw [time]
    exact apart earlier inside (only key' again ▸ before)

/-- What is forgotten is older than the window. -/
theorem retain (recalls : Recalls window history log now) {days : Int} {kept : DeliveryLog}
    (enough : window ≤ days * Instant.microsPerDay)
    (retained : log.retain now days = .ok kept) : Recalls window history kept now := by
  obtain ⟨cutoff, shifted, known⟩ := DeliveryLog.retain_eq_ok retained
  have back := Instant.micros_of_shift? shifted
  refine ⟨?_, recalls.spaced⟩
  intro attempt inside key told recent
  obtain ⟨delivery, among, same, time⟩ := recalls.known attempt inside key told recent
  refine ⟨delivery, (known delivery).mpr ⟨among, ?_⟩, same, time⟩
  rw [time]
  omega

theorem advance (recalls : Recalls window history log now) {later : Instant}
    (onward : now.micros ≤ later.micros) : Recalls window history log later := by
  refine ⟨?_, recalls.spaced⟩
  intro attempt inside key told recent
  exact recalls.known attempt inside key told (by omega)

end Recalls

/-- Minutes that are no more than a number of days are no longer than them. -/
theorem window_le_of_minutes_le {minutes days : Int} (enough : minutes ≤ days * 1440) :
    minutes * Instant.microsPerMinute ≤ days * Instant.microsPerDay := by
  simp only [Instant.microsPerDay, Instant.microsPerHour, Instant.microsPerMinute,
    Instant.microsPerSecond]
  omega

namespace Surroundings.Recording

variable {surroundings : Surroundings} {board : Board} {minutes days : Int}

/-- The log tells exactly whether it has a delivery of a kind within the window. -/
theorem repeats_iff (recording : surroundings.Recording board minutes days) (log : DeliveryLog)
    (key : DeliveryKey) :
    Round.repeats surroundings log board.now key
      ↔ ∃ delivery ∈ log, delivery.key = key
        ∧ board.now.micros - delivery.sentAt.micros < minutes * Instant.microsPerMinute := by
  obtain ⟨sent, read⟩ := recording.reads key
  rw [Board.sentRecently] at read
  split at read
  · cases read
  next span spanned =>
    split at read
    · cases read
    next found =>
      rw [DeliveryLog.sentWithin] at read
      split at read
      next cutoff shifted =>
        have cut : cutoff.micros = board.now.micros - minutes * Instant.microsPerMinute := by
          rw [Instant.micros_of_shift? shifted, Instant.eq_of_span? spanned]
          omega
        rw [Round.repeats, if_neg found, recording.sameMinutes, spanned]
        dsimp only
        rw [DeliveryLog.sentWithin, shifted]
        simp only [DeliveryLog.sentSince, List.any_eq_true, Bool.and_eq_true, decide_eq_true_eq,
          cut]
        refine exists_congr fun delivery => and_congr_right fun _ => and_congr_right fun _ => ?_
        omega
      · cases read

/-- Where the log has no recent delivery of a kind there was none. -/
theorem apart_of_not_repeats (recording : surroundings.Recording board minutes days)
    {history : List Attempt} {log : DeliveryLog} {key : DeliveryKey}
    (recalls : Recalls (minutes * Instant.microsPerMinute) history log board.now)
    (first : ¬ Round.repeats surroundings log board.now key) :
    ∀ earlier ∈ history, earlier.Delivered key →
      minutes * Instant.microsPerMinute ≤ board.now.micros - earlier.time.micros := by
  intro earlier inside delivered
  by_contra recent
  obtain ⟨delivery, among, same, time⟩ := recalls.known earlier inside key delivered (by omega)
  apply first
  rw [recording.repeats_iff]
  refine ⟨delivery, among, same, ?_⟩
  rw [time]
  omega

/-- A round keeps the log in step with what was delivered, even if it ends early. -/
theorem recalls_dispatch (recording : surroundings.Recording board minutes days)
    (transition : Transition) (dues : List Due) {history : List Attempt} {log : DeliveryLog}
    (recalls : Recalls (minutes * Instant.microsPerMinute) history log board.now) :
    Recalls (minutes * Instant.microsPerMinute)
      (history ++ (Round.dispatch surroundings board.now transition dues log).attempts)
      (Round.dispatch surroundings board.now transition dues log).log board.now := by
  -- every attempt joins the history that the rest of the round is held against
  induction dues generalizing history log with
  | nil => simpa [Round.dispatch] using recalls
  | cons due rest ih =>
    rw [Round.dispatch]
    dsimp only
    by_cases again : Round.repeats surroundings log board.now (due.key transition)
    · rw [if_pos again]
      exact ih recalls
    · rw [if_neg again]
      have failing : ∀ reception, reception ≠ .delivered → ∀ key,
          ¬ Attempt.Delivered ⟨due.message, some (due.key transition), reception, board.now⟩
            key := fun _ failed _ delivered => failed delivered.2
      cases received : surroundings.outlets.receive due.message with
      | crashed failure => exact recalls.undelivered (failing _ (by simp))
      | refused =>
        have later := ih (recalls.undelivered (failing .refused (by simp)))
        rw [List.append_assoc] at later
        exact later
      | delivered =>
        let attempt : Attempt :=
          ⟨due.message, some (due.key transition), .delivered, board.now⟩
        have delivered : attempt.Delivered (due.key transition) := ⟨rfl, rfl⟩
        have apart := recording.apart_of_not_repeats recalls again
        have later := ih (recalls.delivered due.role rfl delivered apart)
        rw [List.append_assoc] at later
        rw [Round.record, recording.writes]
        exact later

theorem upholds_recalls (recording : surroundings.Recording board minutes days)
    (enough : minutes ≤ days * 1440) {operation : Operation} (onward : operation.isOnward) :
    surroundings.Upholds operation board.now (Recalls (minutes * Instant.microsPerMinute)) where
  attempt nothing recalls := recalls.undelivered nothing
  round transition dues recalls := recording.recalls_dispatch transition dues recalls
  retain retained recalls :=
    recalls.retain (window_le_of_minutes_le enough) (recording.sameDays ▸ retained)
  advance asked shifted recalls :=
    recalls.advance (Operation.micros_le_of_isOnward onward asked shifted)

end Surroundings.Recording

namespace Board

variable {board : Board} {minutes days : Int}

/-- Along a run the log can be read and written. -/
def Recording (minutes days : Int) (board : Board) (run : List (Surroundings × Operation)) :
    Prop :=
  ∀ first surroundings operation rest, run = first ++ (surroundings, operation) :: rest →
    surroundings.Recording (board.after first) minutes days

theorem recording_nil : board.Recording minutes days [] := by
  intro first surroundings operation rest split
  cases first <;> cases split

theorem recording_cons {surroundings : Surroundings} {operation : Operation}
    {rest : List (Surroundings × Operation)} (now : surroundings.Recording board minutes days)
    (later : (board.perform surroundings operation).board.Recording minutes days rest) :
    board.Recording minutes days ((surroundings, operation) :: rest) := by
  intro first surroundings' operation' rest' split
  cases first with
  | nil =>
    cases split
    exact now
  | cons head first =>
    cases split
    exact later first surroundings' operation' rest' rfl

/-- While the log can be read and written, and keeps deliveries at least as long as they are
not to be repeated, deliveries of one kind are at least that long apart, whatever was in the
log at the start. -/
theorem spaced_attempts {run : List (Surroundings × Operation)} (enough : minutes ≤ days * 1440)
    (recording : board.Recording minutes days run) (onward : ∀ entry ∈ run, entry.2.isOnward) :
    Spaced (minutes * Instant.microsPerMinute) (board.attempts run) := by
  have start := Recalls.of_empty (minutes * Instant.microsPerMinute) board.log board.now
  refine (upheld_after run (fun first surroundings operation rest split => ?_) start).spaced
  have member : (surroundings, operation) ∈ run := by simp [split]
  exact (recording first surroundings operation rest split).upholds_recalls enough
    (onward _ member)

end Board

end Rendezvous
