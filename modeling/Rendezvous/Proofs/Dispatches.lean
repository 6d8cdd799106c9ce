import Rendezvous.Proofs.Addressees
import Rendezvous.Proofs.Mailboxes
import Rendezvous.Proofs.Spacing
import Rendezvous.Proofs.Tallies

/-!
# What a check of the threshold sends

While the log can be read and written and messages fail by refusal alone, everything that is due
is sent, but for what the log knows of at that moment, and the log gains what was delivered.
-/

namespace Rendezvous

/-! ## What is due -/

/-- The messages with a text to the chat services, in the order in which they are sent. -/
def ChatMessage.drafts (channels : Channels) (text : String) : List ChatMessage :=
  [.discord channels.discord.url text, .slack channels.slack.url text,
    .telegram channels.telegram.botToken channels.telegram.chatId text]

/-- Whether the channel of a message is enabled, and the message has an address. -/
def Channels.serves (channels : Channels) : ChatMessage → Bool
  | .discord url _ => channels.discord.enabled && url ≠ ""
  | .slack url _ => channels.slack.enabled && url ≠ ""
  | .telegram botToken chatId _ => channels.telegram.enabled && botToken ≠ "" && chatId ≠ ""

namespace Due

def toOwner (owner : User) (message : ChatMessage) : Due := ⟨.chat message, .owner, owner.id⟩

def toRecipient (surroundings : Surroundings) (records : Records) (calendar : Calendar)
    (transition : Transition) (recipient : Recipient) : Due where
  message := .mail (letter surroundings.settings calendar transition
    (records.namesOn calendar.id transition.day) recipient)
  role := if recipient.isOwner then .owner else .participant
  recipientId := recipient.recipientId

/-- What is to be sent of a transition: a message on each chat channel of the owner that is set
up, and a mail to each of some recipients. -/
def expected (surroundings : Surroundings) (records : Records) (calendar : Calendar)
    (config : NotifyConfig) (transition : Transition) (recipients : List Recipient) : List Due :=
  (records.informedOwner? calendar config).toList.flatMap (fun owner =>
      ((ChatMessage.drafts config.channels (Notice.text calendar.name transition)).filter
        config.channels.serves).map (toOwner owner))
    ++ if (config.notifyOwner ∨ config.notifyParticipants) ∧ config.channels.email
        ∧ surroundings.outlets.mailConfigured then
      recipients.map (toRecipient surroundings records calendar transition)
    else
      []

theorem chatMessages_eq (channels : Channels) (text : String) :
    chatMessages channels text = (ChatMessage.drafts channels text).filter channels.serves := by
  unfold chatMessages ChatMessage.drafts
  simp only [List.filter_cons, List.filter_nil, Channels.serves, Bool.and_eq_true,
    decide_eq_true_eq, and_assoc]
  split <;> split <;> split <;> rfl

theorem chats_eq (records : Records) (calendar : Calendar) (config : NotifyConfig)
    (transition : Transition) :
    chats records calendar config transition
      = (records.informedOwner? calendar config).toList.flatMap fun owner =>
        ((ChatMessage.drafts config.channels (Notice.text calendar.name transition)).filter
          config.channels.serves).map (toOwner owner) := by
  unfold chats Records.informedOwner?
  cases config.notifyOwner with
  | false => rfl
  | true =>
    cases records.users.get? calendar.ownerId with
    | none => rfl
    | some owner => simp [chatMessages_eq, toOwner]

theorem all_eq_expected (surroundings : Surroundings) (records : Records) (calendar : Calendar)
    (config : NotifyConfig) (transition : Transition) :
    all surroundings records calendar config transition
      = expected surroundings records calendar config transition
        (records.recipients calendar config transition.day) := by
  unfold all expected mails
  rw [chats_eq]
  rfl

/-! ## What sending leads to -/

def attempt (surroundings : Surroundings) (now : Instant) (transition : Transition) (due : Due) :
    Attempt where
  message := due.message
  about := some (due.key transition)
  reception := surroundings.outlets.receive due.message
  time := now

/-- What the log gains by sending some of what is due. -/
def entries (surroundings : Surroundings) (now : Instant) (transition : Transition)
    (dues : List Due) : DeliveryLog :=
  (dues.filter fun due => surroundings.outlets.receive due.message = .delivered).map
    fun due => ⟨due.key transition, due.role, now⟩

theorem entries_append (surroundings : Surroundings) (now : Instant) (transition : Transition)
    (first rest : List Due) :
    entries surroundings now transition (first ++ rest)
      = entries surroundings now transition first ++ entries surroundings now transition rest := by
  simp [entries]

end Due

/-- Whether a log has a delivery of a kind that is not as old as a window. -/
def DeliveryLog.Recent (log : DeliveryLog) (now : Instant) (window : Int) (key : DeliveryKey) :
    Prop :=
  ∃ delivery ∈ log, delivery.key = key ∧ now.micros - delivery.sentAt.micros < window

namespace Round

/-- A part of what is due, in order, which leaves out exactly what is recent in the log at that
moment. -/
structure Takes (surroundings : Surroundings) (now : Instant) (transition : Transition)
    (window : Int) (dues : List Due) (log : DeliveryLog) (taken : List Due) : Prop where
  inOrder : taken.Sublist dues
  omits : ∀ before due after, dues = before ++ due :: after →
    let sofar := log
      ++ Due.entries surroundings now transition (taken.filter fun other => other ∈ before)
    (due ∉ taken ↔ sofar.Recent now window (due.key transition))

variable {surroundings : Surroundings} {now : Instant} {transition : Transition} {window : Int}
  {due : Due} {rest taken : List Due} {log : DeliveryLog}

theorem takes_nil : Takes surroundings now transition window [] log [] := by
  refine ⟨List.Sublist.refl _, ?_⟩
  intro before due after split
  simp at split

theorem filter_mem_cons (untaken : due ∉ taken) (before : List Due) :
    taken.filter (fun other => other ∈ due :: before)
      = taken.filter fun other => other ∈ before := by
  apply List.filter_congr
  intro other inside
  have apart : other ≠ due := fun equal => untaken (equal ▸ inside)
  simp [apart]

theorem Takes.omit (takes : Takes surroundings now transition window rest log taken)
    (once : due ∉ rest) (recent : log.Recent now window (due.key transition)) :
    Takes surroundings now transition window (due :: rest) log taken := by
  have untaken : due ∉ taken := fun inside => once (takes.inOrder.subset inside)
  refine ⟨takes.inOrder.cons due, ?_⟩
  intro before other after split
  cases before with
  | nil =>
    cases split
    simpa [untaken, Due.entries] using recent
  | cons first before =>
    obtain ⟨rfl, later⟩ := List.cons.inj split
    dsimp only
    rw [filter_mem_cons untaken]
    exact takes.omits before other after later

theorem Takes.take
    (takes : Takes surroundings now transition window rest
      (log ++ Due.entries surroundings now transition [due]) taken)
    (once : due ∉ rest) (apart : ¬ log.Recent now window (due.key transition)) :
    Takes surroundings now transition window (due :: rest) log (due :: taken) := by
  have untaken : due ∉ taken := fun inside => once (takes.inOrder.subset inside)
  refine ⟨takes.inOrder.cons_cons due, ?_⟩
  intro before other after split
  cases before with
  | nil =>
    cases split
    simpa [Due.entries] using apart
  | cons first before =>
    obtain ⟨rfl, later⟩ := List.cons.inj split
    have different : other ≠ due := by
      rintro rfl
      exact once (later ▸ List.mem_append_right _ List.mem_cons_self)
    have same : (due :: taken).filter (fun other => other ∈ due :: before)
        = [due] ++ taken.filter fun other => other ∈ before := by
      rw [List.filter_cons_of_pos (by simp), List.singleton_append, filter_mem_cons untaken]
    dsimp only
    rw [same, Due.entries_append, ← List.append_assoc, List.mem_cons, not_or]
    simpa [different] using takes.omits before other after later

/-- While the log can be written and nothing crashes, whatever is not suppressed is sent, and the
log gains it if it is delivered. -/
theorem dispatch_cons (writes : ∀ delivery, surroundings.writeFails.hits delivery = false)
    (sends : ∀ failure, surroundings.outlets.receive due.message ≠ .crashed failure) :
    dispatch surroundings now transition (due :: rest) log
      = if repeats surroundings log now (due.key transition) then
          dispatch surroundings now transition rest log
        else
          let later := dispatch surroundings now transition rest
            (log ++ Due.entries surroundings now transition [due])
          { later with attempts := due.attempt surroundings now transition :: later.attempts } := by
  rw [dispatch]
  dsimp only
  split
  · rfl
  · rw [Due.attempt]
    cases received : surroundings.outlets.receive due.message with
    | crashed failure => exact absurd received (sends failure)
    | refused => simp [Due.entries, received]
    | delivered => simp [Due.entries, received, record, writes]

end Round

namespace Surroundings.Dependable

variable {surroundings : Surroundings} {board : Board} {minutes days : Int}

/-- A round takes its part of what is due, sends it, and enters what was delivered. -/
theorem exists_takes (dependable : surroundings.Dependable board minutes days)
    (transition : Transition) {dues : List Due} (nodup : dues.Nodup) (log : DeliveryLog) :
    ∃ taken, Round.Takes surroundings board.now transition (minutes * Instant.microsPerMinute) dues
        log taken
      ∧ Round.dispatch surroundings board.now transition dues log
        = ⟨log ++ Due.entries surroundings board.now transition taken,
            taken.map (Due.attempt surroundings board.now transition), none⟩ := by
  -- the rest is due against a log that may have gained the first
  induction dues generalizing log with
  | nil => exact ⟨[], Round.takes_nil, by simp [Round.dispatch, Due.entries]⟩
  | cons due rest ih =>
    obtain ⟨once, nodup⟩ := List.nodup_cons.mp nodup
    rw [Round.dispatch_cons dependable.writes (dependable.sends due.message)]
    have known := dependable.recording.repeats_iff log (due.key transition)
    by_cases again : Round.repeats surroundings log board.now (due.key transition)
    · obtain ⟨taken, takes, sent⟩ := ih nodup log
      refine ⟨taken, takes.omit once (known.mp again), ?_⟩
      rw [if_pos again, sent]
    · obtain ⟨taken, takes, sent⟩ :=
        ih nodup (log ++ Due.entries surroundings board.now transition [due])
      refine ⟨due :: taken, takes.take once fun recent => again (known.mpr recent), ?_⟩
      rw [if_neg again, sent, List.append_assoc, ← Due.entries_append]
      rfl

end Surroundings.Dependable

/-! ## Checks -/

namespace Step

/-- A step that sends nothing and leaves the log of a board as it is. -/
def Withholds {α : Type} (step : Step α) (board : Board) : Prop :=
  step.attempts = [] ∧ step.board.log = board.log

/-- A step that sends what is due for a transition to those on the mailing list and the owner, but
for what the log knows of, and enters what is delivered in the order in which it is sent. -/
def Dispatches {α : Type} (step : Step α) (surroundings : Surroundings) (board : Board)
    (calendar : Calendar) (config : NotifyConfig) (transition : Transition) : Prop :=
  ∃ recipients taken,
    board.records.mailingList calendar config transition.day = .ok recipients
    ∧ Round.Takes surroundings board.now transition
      (surroundings.settings.dedupMinutes * Instant.microsPerMinute)
      (Due.expected surroundings board.records calendar config transition recipients)
      board.log taken
    ∧ step.attempts = taken.map (Due.attempt surroundings board.now transition)
    ∧ step.board.log = board.log ++ Due.entries surroundings board.now transition taken

end Step

namespace Board

/-- A crossing on a date that can be looked through is dispatched. -/
theorem dispatches_announce {surroundings : Surroundings} {board : Board} {calendar : Calendar}
    {transition : Transition}
    (dependable : surroundings.Dependable board surroundings.settings.dedupMinutes
      surroundings.settings.retentionDays)
    (checked : board.records.checkSpan calendar.id transition.day transition.day = .ok ())
    (crossed : transition.crossing ≠ .unchanged) (config : NotifyConfig) (outages : Nat) :
    let step := announce surroundings { board with countOutages := outages } calendar config
      transition
    step.outcome = .ok (some transition)
      ∧ step.Dispatches surroundings board calendar config transition := by
  have nodup : (Due.all surroundings board.records calendar config transition).Nodup :=
    (Due.nodup_all ..).of_map
  obtain ⟨taken, takes, sent⟩ := dependable.exists_takes transition nodup board.log
  rw [announce, if_neg crossed]
  dsimp only
  rw [sent]
  refine ⟨rfl, board.records.recipients calendar config transition.day, taken, ?_, ?_, rfl, rfl⟩
  · exact Records.mailingList_eq_ok_iff.mpr ⟨fun _ => checked, rfl⟩
  · rw [← Due.all_eq_expected]
    exact takes

/-- Where there is no calendar, or it has nothing enabled, a check tells nothing.  Otherwise it
fails with the count, or classifies it: an unchanged count tells nothing, and a crossing is
dispatched. -/
theorem checkThreshold_dispatches (surroundings : Surroundings) (board : Board)
    (calendarId : String) (day : Date) (previous : Int)
    (dependable : surroundings.Dependable board surroundings.settings.dedupMinutes
      surroundings.settings.retentionDays) :
    let step := board.checkThreshold surroundings calendarId day previous
    ((∀ calendar config, board.records.calendars.get? calendarId = some calendar →
        calendar.notifyConfig = some config → config.enabled = false) →
      step.outcome = .ok none ∧ step.Withholds board)
    ∧ ∀ calendar config, board.records.calendars.get? calendarId = some calendar →
      calendar.notifyConfig = some config → config.enabled →
      (∀ failure, (board.count calendar.id day).1 = .error failure →
        step.outcome = .error failure ∧ step.Withholds board)
      ∧ ∀ total, (board.count calendar.id day).1 = .ok total →
        let transition : Transition :=
          ⟨calendar.id, day, previous, total, calendar.threshold,
            .classify previous total calendar.threshold⟩
        step.outcome = .ok (some transition)
        ∧ (transition.crossing = .unchanged → step.Withholds board)
        ∧ (transition.crossing ≠ .unchanged →
          step.Dispatches surroundings board calendar config transition) := by
  intro step
  constructor
  · intro disabled
    have untold : board.notified? calendarId = none := by
      rw [Option.eq_none_iff_forall_not_mem]
      rintro ⟨calendar, config⟩ notified
      obtain ⟨found, configured, enabled⟩ := (notified?_eq_some_iff _).mp notified
      cases (disabled calendar config found configured).symm.trans enabled
    have same : step = .answer board none :=
      checkThreshold_of_unnotified surroundings board untold day previous
    rw [same]
    exact ⟨rfl, rfl, rfl⟩
  · intro calendar config found configured enabled
    have same : step = _ := checkThreshold_of_notified surroundings board
      ((notified?_eq_some_iff board).mpr ⟨found, configured, enabled⟩) day previous
    rw [same]
    constructor
    · intro failure failed
      rw [failed]
      exact ⟨rfl, rfl, rfl⟩
    · intro total counted transition
      rw [counted]
      by_cases crossed : transition.crossing = .unchanged
      · dsimp only
        rw [announce, if_pos crossed]
        exact ⟨rfl, fun _ => ⟨rfl, rfl⟩, fun other => absurd crossed other⟩
      · obtain ⟨answered, dispatches⟩ := dispatches_announce dependable
          (count_eq_ok counted).1 crossed config (board.countOutages - 1)
        exact ⟨answered, fun unchanged => absurd unchanged crossed, fun _ => dispatches⟩

/-- The board of a visit within the hour, with the other of the two participants there. -/
def sampleReturned : Board :=
  { sampleVisited with
    records :=
      { sampleVisited.records with
        availabilities :=
          ⟨[.sample "first" "bob" sampleVisited.now], Table.nodup_single _⟩ } }

/-- That the threshold is reached is told to the participant who is there, and not to the owner,
who was told half an hour ago. -/
theorem checkThreshold_dispatches_sample :
    let surroundings := Surroundings.sampleMailing
    let step := sampleReturned.checkThreshold surroundings "club" .sample 0
    surroundings.Dependable sampleReturned surroundings.settings.dedupMinutes
      surroundings.settings.retentionDays
    ∧ step.attempts.map Attempt.mailbox? = [some "home@x"]
    ∧ ∃ calendar config, sampleReturned.records.calendars.get? "club" = some calendar
      ∧ calendar.notifyConfig = some config ∧ config.enabled
      ∧ (sampleReturned.count calendar.id .sample).1 = .ok 1
      ∧ step.Dispatches surroundings sampleReturned calendar config
        ⟨calendar.id, .sample, 0, 1, calendar.threshold, .reached⟩ := by
  intro surroundings step
  have dependable : surroundings.Dependable sampleReturned surroundings.settings.dedupMinutes
      surroundings.settings.retentionDays := by
    obtain ⟨minutes, days, reads, writes⟩ :=
      recording_sampleMailing (show (sampleReturned.now.shift? _).isSome by decide +kernel)
    refine ⟨minutes, days, reads, writes, ?_⟩
    intro message failure
    cases message <;> simp [surroundings, Surroundings.sampleMailing, Outlets.refusing]
  have known : (sampleReturned.notified? "club").any fun found =>
      (sampleReturned.count found.1.id .sample).1 = .ok 1
        ∧ Crossing.classify 0 1 found.1.threshold = .reached := by
    decide +kernel
  obtain ⟨⟨calendar, config⟩, notified, facts⟩ := (Option.any_eq_true _ _).mp known
  obtain ⟨counted, crossed⟩ := of_decide_eq_true facts
  obtain ⟨found, configured, enabled⟩ := (notified?_eq_some_iff _).mp notified
  obtain ⟨-, checks⟩ :=
    checkThreshold_dispatches surroundings sampleReturned "club" .sample 0 dependable
  obtain ⟨-, -, dispatches⟩ := (checks calendar config found configured enabled).2 1 counted
  have reached : Crossing.classify 0 (1 : Nat) calendar.threshold = .reached := crossed
  rw [reached] at dispatches
  exact ⟨dependable, by decide +kernel, calendar, config, found, configured, enabled, counted,
    dispatches Crossing.noConfusion⟩

end Board

end Rendezvous
