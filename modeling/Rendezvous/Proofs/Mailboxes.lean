import Rendezvous.Proofs.Recollection
import Rendezvous.Proofs.Rounds

/-!
# What a mailbox gets

One round writes to no address twice.  From one round to the next the log goes by who is written
to, and not by where: two mails of one kind come to one address within the window only where two
records carry it, and one round wrote to it for the one and another round for the other.
-/

namespace Rendezvous

/-- The address that a message goes to by mail. -/
def Message.address? : Message → Option String
  | .mail letter => some letter.address
  | .chat _ => none

/-- The address that an attempt is to tell of a crossing. -/
def Attempt.mailbox? (attempt : Attempt) : Option String :=
  attempt.about.bind fun _ => attempt.message.address?

/-- Whether an attempt delivered a mail of a kind to an address. -/
def Attempt.Mailed (attempt : Attempt) (key : DeliveryKey) (address : String) : Prop :=
  attempt.Delivered key ∧ attempt.message.address? = some address

/-- Two kinds that tell of one crossing on one date of a calendar, to whomever. -/
structure DeliveryKey.Alike (a b : DeliveryKey) : Prop where
  calendarId : a.calendarId = b.calendarId
  day : a.day = b.day
  eventType : a.eventType = b.eventType

theorem DeliveryKey.Alike.eq {a b : DeliveryKey} (alike : a.Alike b)
    (recipientId : a.recipientId = b.recipientId) (channel : a.channel = b.channel) : a = b := by
  obtain ⟨calendarId, day, eventType⟩ := alike
  cases a
  cases b
  dsimp only at calendarId day eventType recipientId channel
  rw [calendarId, day, eventType, recipientId, channel]

theorem Message.channel_of_address? {message : Message} {address : String}
    (goes : message.address? = some address) : message.channel = .email := by
  cases message with
  | mail letter => rfl
  | chat message => cases goes

/-! ## What is due to whom -/

namespace Due

variable {surroundings : Surroundings} {records : Records} {calendar : Calendar}
  {config : NotifyConfig} {transition : Transition}

/-- A mail is due to a recipient, for whom the delivery counts. -/
theorem exists_recipient {due : Due} {address : String}
    (inside : due ∈ all surroundings records calendar config transition)
    (goes : due.message.address? = some address) :
    ∃ recipient ∈ records.recipients calendar config transition.day,
      recipient.email = address ∧ recipient.recipientId = due.recipientId := by
  rw [all, List.mem_append] at inside
  rcases inside with chat | mail
  · obtain ⟨message, same⟩ := chat_of_mem_chats chat
    rw [same] at goes
    cases goes
  · rw [mails] at mail
    split at mail
    · obtain ⟨recipient, among, rfl⟩ := List.mem_map.mp mail
      exact ⟨recipient, among, Option.some.inj goes, rfl⟩
    · cases mail

/-- No two mails are due to one address. -/
theorem nodup_addresses :
    ((all surroundings records calendar config transition).filterMap fun due =>
      due.message.address?).Nodup := by
  have chats : (chats records calendar config transition).filterMap
      (fun due => due.message.address?) = [] := by
    refine List.filterMap_eq_nil_iff.mpr fun due inside => ?_
    obtain ⟨message, same⟩ := chat_of_mem_chats inside
    rw [same]
    rfl
  rw [all, List.filterMap_append, chats, List.nil_append, mails]
  split
  · -- the letter of a recipient goes to the recipient's address
    rw [List.filterMap_map]
    change (List.filterMap (some ∘ Recipient.email) _).Nodup
    rw [List.filterMap_eq_map]
    exact Recipient.nodup_distinct _
  · exact List.nodup_nil

end Due

/-! ## What a step sends to whom -/

namespace Round

variable {surroundings : Surroundings} {now : Instant} {transition : Transition}

/-- Every attempt of a round is at something that is due. -/
theorem exists_due_of_mem_dispatch {dues : List Due} {log : DeliveryLog} {attempt : Attempt}
    (made : attempt ∈ (dispatch surroundings now transition dues log).attempts) :
    ∃ due ∈ dues, attempt.message = due.message
      ∧ attempt.about = some (due.key transition) := by
  have among := attempts_dispatch_sublist surroundings now transition dues log
  obtain ⟨due, inside, same⟩ := List.mem_map.mp (among.subset (List.mem_map_of_mem made))
  exact ⟨due, inside, (congrArg Prod.fst same).symm, (congrArg Prod.snd same).symm⟩

/-- A round writes to addresses that mail is due to, in the same order. -/
theorem mailboxes_dispatch_sublist (dues : List Due) (log : DeliveryLog) :
    ((dispatch surroundings now transition dues log).attempts.filterMap
        Attempt.mailbox?).Sublist
      (dues.filterMap fun due => due.message.address?) := by
  have among := (attempts_dispatch_sublist surroundings now transition dues log).filterMap
    fun pair => pair.2.bind fun _ => pair.1.address?
  rw [List.filterMap_map, List.filterMap_map] at among
  exact among

end Round

namespace Board

variable {surroundings : Surroundings} {board : Board} {operation : Operation}

/-- Whatever a step sends about a crossing was due. -/
theorem exists_due_of_mem_attempts {attempt : Attempt} {key : DeliveryKey}
    (made : attempt ∈ (board.perform surroundings operation).attempts)
    (about : attempt.about = some key) :
    ∃ calendar config transition, ∃ due ∈ Due.all surroundings
        (board.perform surroundings operation).board.records calendar config transition,
      (board.perform surroundings operation).board.notified? transition.calendarId
        = some (calendar, config)
      ∧ attempt.message = due.message ∧ key = due.key transition := by
  rcases perform_announces surroundings board operation with
    unannounced | ⟨transition, changed, calendar, config, log, now, notified, follows⟩
  · cases (unannounced.about attempt made).symm.trans about
  · rw [follows.attempts, announce] at made
    rw [announce] at follows
    split at made
    next => cases made
    next crossed =>
      obtain ⟨due, inside, message, about'⟩ := Round.exists_due_of_mem_dispatch made
      have records : (board.perform surroundings operation).board.records = changed.records := by
        rw [follows.board, if_neg crossed]
      refine ⟨calendar, config, transition, due, records ▸ inside, ?_, message, ?_⟩
      · rw [notified?, records]
        exact notified
      · exact Option.some.inj (about.symm.trans about')

/-- A step writes to no address twice. -/
theorem nodup_mailboxes (surroundings : Surroundings) (board : Board) (operation : Operation) :
    ((board.perform surroundings operation).attempts.filterMap Attempt.mailbox?).Nodup := by
  rcases perform_announces surroundings board operation with
    unannounced | ⟨transition, changed, calendar, config, log, now, notified, follows⟩
  · have nothing : (board.perform surroundings operation).attempts.filterMap Attempt.mailbox?
        = [] := by
      refine List.filterMap_eq_nil_iff.mpr fun attempt made => ?_
      rw [Attempt.mailbox?, unannounced.about attempt made]
      rfl
    rw [nothing]
    exact List.nodup_nil
  · rw [follows.attempts, announce]
    split
    next => exact List.nodup_nil
    next crossed =>
      exact List.Nodup.sublist (Round.mailboxes_dispatch_sublist _ _) Due.nodup_addresses

theorem channel_of_mem_attempts {attempt : Attempt} {key : DeliveryKey}
    (made : attempt ∈ (board.perform surroundings operation).attempts)
    (about : attempt.about = some key) : key.channel = attempt.message.channel := by
  obtain ⟨calendar, config, transition, due, -, -, message, rfl⟩ :=
    exists_due_of_mem_attempts made about
  rw [message, Due.key]

/-- A mail about a crossing goes to one of those who are to be written to, at that one's
address. -/
theorem exists_recipient_of_mem_attempts {attempt : Attempt} {key : DeliveryKey}
    {address : String} (made : attempt ∈ (board.perform surroundings operation).attempts)
    (mailed : attempt.Mailed key address) :
    ∃ calendar config,
      (board.perform surroundings operation).board.notified? key.calendarId
        = some (calendar, config)
      ∧ ∃ recipient ∈ (board.perform surroundings operation).board.records.recipients calendar
          config key.day, recipient.email = address ∧ recipient.recipientId = key.recipientId := by
  obtain ⟨⟨about, -⟩, goes⟩ := mailed
  obtain ⟨calendar, config, transition, due, inside, notified, message, rfl⟩ :=
    exists_due_of_mem_attempts made about
  obtain ⟨recipient, among, same⟩ := Due.exists_recipient inside (message ▸ goes)
  exact ⟨calendar, config, notified, recipient, among, same⟩

/-! ## Runs -/

theorem exists_step_of_mem_attempts {run : List (Surroundings × Operation)} {attempt : Attempt}
    (made : attempt ∈ board.attempts run) :
    ∃ first surroundings operation rest, run = first ++ (surroundings, operation) :: rest
      ∧ attempt ∈ ((board.after first).perform surroundings operation).attempts := by
  induction run generalizing board with
  | nil => cases made
  | cons head rest ih =>
    obtain ⟨surroundings, operation⟩ := head
    rw [attempts, Board.run, List.flatMap_cons, List.mem_append] at made
    rcases made with made | made
    · exact ⟨[], surroundings, operation, rest, rfl, made⟩
    · obtain ⟨first, surroundings', operation', rest', same, made⟩ := ih made
      exact ⟨(surroundings, operation) :: first, surroundings', operation', rest',
        congrArg _ same, made⟩

theorem channel_of_mailed {run : List (Surroundings × Operation)} {attempt : Attempt}
    {key : DeliveryKey} {address : String} (made : attempt ∈ board.attempts run)
    (mailed : attempt.Mailed key address) : key.channel = .email := by
  obtain ⟨first, surroundings, operation, rest, -, made⟩ := exists_step_of_mem_attempts made
  rw [channel_of_mem_attempts made mailed.1.1, Message.channel_of_address? mailed.2]

variable {minutes days : Int}

/-- While the log can be read and written, and keeps deliveries at least as long as they are
not to be repeated, two mails that tell of one kind of crossing on a date at one address are at
least that long apart if the address is that of the same record both times.  Within a step no
address is written to twice, and each is that of somebody who is to be written to. -/
theorem mailboxes_spaced (board : Board) (run : List (Surroundings × Operation))
    (enough : minutes ≤ days * 1440) (recording : board.Recording minutes days run)
    (onward : ∀ entry ∈ run, entry.2.isOnward) :
    (board.attempts run).Pairwise (fun earlier later => ∀ first second address,
      earlier.Mailed first address → later.Mailed second address → first.Alike second →
        first.recipientId = second.recipientId →
          minutes * Instant.microsPerMinute ≤ later.time.micros - earlier.time.micros)
    ∧ ∀ first surroundings operation rest, run = first ++ (surroundings, operation) :: rest →
      let step := (board.after first).perform surroundings operation
      (step.attempts.filterMap Attempt.mailbox?).Nodup
      ∧ ∀ attempt ∈ step.attempts, ∀ key address, attempt.Mailed key address →
        ∃ calendar config, step.board.notified? key.calendarId = some (calendar, config)
          ∧ ∃ recipient ∈ step.board.records.recipients calendar config key.day,
            recipient.email = address ∧ recipient.recipientId = key.recipientId := by
  refine ⟨(spaced_attempts enough recording onward).imp_of_mem ?_, ?_⟩
  · intro earlier later before after apart first second address mailed mailed' alike same
    have channel : first.channel = second.channel := by
      rw [channel_of_mailed before mailed, channel_of_mailed after mailed']
    have one : first = second := alike.eq same channel
    exact apart first mailed.1 (one ▸ mailed'.1)
  · intro first surroundings operation rest _
    exact ⟨nodup_mailboxes surroundings (board.after first) operation,
      fun attempt made key address mailed => exists_recipient_of_mem_attempts made mailed⟩

/-- The board with mail, and two participants who share an address. -/
def sampleShared : Board :=
  let shared (id name : String) : Participant :=
    { Participant.sample id name with email := some "home@x", emailVerified := true }
  { sampleMailed with
    records :=
      { sampleMailed.records with
        participants := ⟨[shared "ann" "Ann", shared "bob" "Bob"], by decide⟩ } }

end Board

/-- Surroundings in which nothing fails and mail can be sent. -/
def Surroundings.sampleMailing : Surroundings :=
  { Surroundings.sample with outlets := .refusing true [] [] }

namespace Board

/-- One of two participants who share an address comes and goes, and half an hour passes. -/
def sampleVisit : List (Surroundings × Operation) :=
  [.sampleEntry "ann", .sampleWithdrawal "ann", .advance 1800000000].map (.sampleMailing, ·)

/-- The other participant comes after that. -/
def sampleRelay : List (Surroundings × Operation) :=
  sampleVisit ++ [(.sampleMailing, .sampleEntry "bob")]

/-- The board on which the other participant comes. -/
def sampleVisited : Board :=
  let told (crossing recipientId : String) (role : Role) : Delivery :=
    ⟨⟨"club", .sample, crossing, recipientId, .email⟩, role, sampleShared.now⟩
  { sampleShared with
    log :=
      [told "threshold_reached" "owner" .owner, told "threshold_reached" "ann" .participant,
        told "threshold_lost" "owner" .owner]
    now := { sampleShared.now with micros := sampleShared.now.micros + 1800000000 }
    issued := 1 }

theorem after_sampleVisit : sampleShared.after sampleVisit = sampleVisited := by
  decide +kernel

theorem attempts_sampleRelay :
    sampleShared.attempts sampleRelay = sampleShared.attempts sampleVisit
      ++ sampleVisited.attempts [(.sampleMailing, .sampleEntry "bob")] := by
  rw [sampleRelay, attempts_append, after_sampleVisit]

theorem recording_sampleMailing {board : Board}
    (clock : (board.now.shift? (-3600000000)).isSome) :
    Surroundings.sampleMailing.Recording board 60 30 := by
  obtain ⟨cutoff, shifted⟩ := Option.isSome_iff_exists.mp clock
  refine ⟨rfl, rfl, fun key => ⟨board.log.sentSince key cutoff, ?_⟩, fun _ => rfl⟩
  change board.log.sentWithin board.now 3600000000 key = _
  rw [DeliveryLog.sentWithin, shifted]

theorem recording_sampleRelay : sampleShared.Recording 60 30 sampleRelay := by
  refine recording_cons (recording_sampleMailing (by decide +kernel)) ?_
  refine recording_cons (recording_sampleMailing (by decide +kernel)) ?_
  refine recording_cons (recording_sampleMailing (by decide +kernel)) ?_
  exact recording_cons (recording_sampleMailing (by decide +kernel)) recording_nil

/-- The shared address is written to for the one and for the other, each once. -/
theorem mailboxes_spaced_sample :
    (60 : Int) ≤ 30 * 1440 ∧ sampleShared.Recording 60 30 sampleRelay
    ∧ (∀ entry ∈ sampleRelay, entry.2.isOnward)
    ∧ (sampleShared.attempts sampleRelay).filterMap Attempt.mailbox?
      = ["o@x", "home@x", "o@x", "home@x"]
    ∧ (sampleShared.attempts sampleRelay).Pairwise (fun earlier later =>
      ∀ first second address, earlier.Mailed first address → later.Mailed second address →
        first.Alike second → first.recipientId = second.recipientId →
          60 * Instant.microsPerMinute ≤ later.time.micros - earlier.time.micros) := by
  have onward : ∀ entry ∈ sampleRelay, entry.2.isOnward := by decide
  obtain ⟨spaced, -⟩ :=
    mailboxes_spaced sampleShared sampleRelay (by decide) recording_sampleRelay onward
  refine ⟨by decide, recording_sampleRelay, onward, ?_, spaced⟩
  rw [attempts_sampleRelay, List.filterMap_append]
  decide +kernel

/-- The shared address is told twice within the hour that the threshold is reached, for the one
participant and for the other. -/
theorem mailed_twice_of_shared_address :
    (60 : Int) ≤ 30 * 1440 ∧ sampleShared.Recording 60 30 sampleRelay
    ∧ (∀ entry ∈ sampleRelay, entry.2.isOnward)
    ∧ ¬ (sampleShared.attempts sampleRelay).Pairwise (fun earlier later =>
      ∀ first second address, earlier.Mailed first address → later.Mailed second address →
        first.Alike second →
          60 * Instant.microsPerMinute ≤ later.time.micros - earlier.time.micros) := by
  refine ⟨by decide, recording_sampleRelay, by decide, fun spaced => ?_⟩
  let kind (recipientId : String) : DeliveryKey :=
    ⟨"club", .sample, "threshold_reached", recipientId, .email⟩
  have first : (sampleShared.attempts sampleVisit).any fun attempt =>
      attempt.about = some (kind "ann") ∧ attempt.reception = .delivered
        ∧ attempt.message.address? = some "home@x" ∧ attempt.time = sampleShared.now := by
    decide +kernel
  have second : (sampleVisited.attempts [(.sampleMailing, .sampleEntry "bob")]).any fun attempt =>
      attempt.about = some (kind "bob") ∧ attempt.reception = .delivered
        ∧ attempt.message.address? = some "home@x" ∧ attempt.time = sampleVisited.now := by
    decide +kernel
  obtain ⟨earlier, before, told⟩ := List.any_eq_true.mp first
  obtain ⟨later, after, told'⟩ := List.any_eq_true.mp second
  obtain ⟨about, delivered, goes, time⟩ := of_decide_eq_true told
  obtain ⟨about', delivered', goes', time'⟩ := of_decide_eq_true told'
  rw [attempts_sampleRelay] at spaced
  have apart := (List.pairwise_append.mp spaced).2.2 earlier before later after (kind "ann")
    (kind "bob") "home@x" ⟨⟨about, delivered⟩, goes⟩ ⟨⟨about', delivered'⟩, goes'⟩
    ⟨rfl, rfl, rfl⟩
  rw [time, time'] at apart
  exact absurd apart (by decide)

end Board

end Rendezvous
