import Rendezvous.Delivery.Mail
import Rendezvous.Delivery.Webhook
import Rendezvous.Proofs.Uniqueness

/-!
# What a round attempts

A round goes on past a message that is refused and ends with one that crashes.  Everything
due is attempted once if nothing before it crashed and the log does not suppress it, and not
at all otherwise.
-/

namespace Rendezvous

/-! ## What is due goes to different places -/

theorem Recipient.nodup_distinct (recipients : List Recipient) :
    ((distinct recipients).map Recipient.email).Nodup := by
  induction recipients with
  | nil => exact List.nodup_nil
  | cons recipient rest ih =>
    rw [distinct, List.map_cons, List.nodup_cons]
    refine ⟨?_, (List.filter_sublist.map Recipient.email).nodup ih⟩
    intro again
    obtain ⟨other, kept, same⟩ := List.mem_map.mp again
    have different := (List.mem_filter.mp kept).2
    exact of_decide_eq_true different same

namespace Due

theorem nodup_chatMessages (channels : Channels) (text : String) :
    (chatMessages channels text).Nodup := by
  rw [chatMessages]
  split <;> split <;> split <;> simp

variable {surroundings : Surroundings} {records : Records} {calendar : Calendar}
  {config : NotifyConfig} {transition : Transition}

theorem chat_of_mem_chats {due : Due}
    (inside : due ∈ chats records calendar config transition) :
    ∃ message, due.message = .chat message := by
  rw [chats] at inside
  split at inside
  · split at inside
    · obtain ⟨message, -, rfl⟩ := List.mem_map.mp inside
      exact ⟨message, rfl⟩
    · cases inside
  · cases inside

theorem mail_of_mem_mails {due : Due}
    (inside : due ∈ mails surroundings records calendar config transition) :
    ∃ letter, due.message = .mail letter := by
  rw [mails] at inside
  split at inside
  · obtain ⟨recipient, -, rfl⟩ := List.mem_map.mp inside
    exact ⟨_, rfl⟩
  · cases inside

variable (surroundings records calendar config transition)

theorem nodup_chats : ((chats records calendar config transition).map Due.message).Nodup := by
  rw [chats]
  split
  · split
    · rw [List.map_map]
      exact (nodup_chatMessages _ _).map fun _ _ => Message.chat.inj
    · exact List.nodup_nil
  · exact List.nodup_nil

theorem nodup_mails :
    ((mails surroundings records calendar config transition).map Due.message).Nodup := by
  rw [mails]
  split
  · have apart : ((records.recipients calendar config transition.day).map Recipient.email).Nodup :=
      Recipient.nodup_distinct _
    rw [List.map_map]
    refine List.Nodup.map_on ?_ apart.of_map
    intro one insideOne other insideOther same
    -- letters differ in their addresses
    have address : one.email = other.email := congrArg Letter.address (Message.mail.inj same)
    exact List.inj_on_of_nodup_map apart insideOne insideOther address
  · exact List.nodup_nil

/-- No message is due twice. -/
theorem nodup_all :
    ((all surroundings records calendar config transition).map Due.message).Nodup := by
  rw [all, List.map_append, List.nodup_append]
  refine ⟨nodup_chats .., nodup_mails .., ?_⟩
  intro _ chat _ mail same
  obtain ⟨first, insideFirst, rfl⟩ := List.mem_map.mp chat
  obtain ⟨second, insideSecond, rfl⟩ := List.mem_map.mp mail
  obtain ⟨message, isChat⟩ := chat_of_mem_chats insideFirst
  obtain ⟨letter, isMail⟩ := mail_of_mem_mails insideSecond
  rw [isChat, isMail] at same
  cases same

end Due

/-! ## Rounds -/

namespace Round

/-- Goes on with a round, unless it has ended early. -/
def andThen (round : Round) (next : DeliveryLog → Round) : Round :=
  match round.failure with
  | some _ => round
  | none =>
      let later := next round.log
      { later with attempts := round.attempts ++ later.attempts }

variable (surroundings : Surroundings) (now : Instant) (transition : Transition)

/-- A round over two lists is a round over the first, and then over the second. -/
theorem dispatch_append (first rest : List Due) (log : DeliveryLog) :
    dispatch surroundings now transition (first ++ rest) log
      = (dispatch surroundings now transition first log).andThen
        (dispatch surroundings now transition rest) := by
  induction first generalizing log with
  | nil => rfl
  | cons due later ih =>
    rw [List.cons_append, dispatch, dispatch]
    dsimp only
    split
    · exact ih log
    · cases surroundings.outlets.receive due.message with
      | crashed failure => rfl
      | delivered =>
        dsimp only
        rw [ih, andThen, andThen]
        dsimp only
        split <;> rfl
      | refused =>
        dsimp only
        rw [ih, andThen, andThen]
        dsimp only
        split <;> rfl

/-- A round ends early where an attempt crashed, and only there. -/
theorem failure_dispatch_eq_none_iff (dues : List Due) (log : DeliveryLog) :
    let round := dispatch surroundings now transition dues log
    round.failure = none
      ↔ ∀ attempt ∈ round.attempts, ∀ failure, attempt.reception ≠ .crashed failure := by
  induction dues generalizing log with
  | nil => simp [dispatch]
  | cons due rest ih =>
    rw [dispatch]
    dsimp only
    split
    · exact ih log
    · cases surroundings.outlets.receive due.message with
      | crashed failure => simp
      | delivered => simpa using ih _
      | refused => simpa using ih _

/-- What a round attempts, and what about, is among what is due, in the same order. -/
theorem attempts_dispatch_sublist (dues : List Due) (log : DeliveryLog) :
    ((dispatch surroundings now transition dues log).attempts.map fun attempt =>
        (attempt.message, attempt.about)).Sublist
      (dues.map fun due => (due.message, some (due.key transition))) := by
  induction dues generalizing log with
  | nil => exact List.Sublist.refl _
  | cons due rest ih =>
    rw [dispatch, List.map_cons]
    dsimp only
    split
    · exact (ih log).cons _
    · cases surroundings.outlets.receive due.message with
      | crashed failure => exact (List.nil_sublist _).cons_cons _
      | delivered => exact (ih _).cons_cons _
      | refused => exact (ih _).cons_cons _

theorem messages_dispatch_sublist (dues : List Due) (log : DeliveryLog) :
    ((dispatch surroundings now transition dues log).attempts.map Attempt.message).Sublist
      (dues.map Due.message) := by
  have among := (attempts_dispatch_sublist surroundings now transition dues log).map Prod.fst
  rw [List.map_map, List.map_map] at among
  exact among

variable {surroundings now transition}

/-- A round adds to the log only what it delivered. -/
theorem mem_log_dispatch {dues : List Due} {log : DeliveryLog} {delivery : Delivery}
    (inside : delivery ∈ (dispatch surroundings now transition dues log).log) :
    delivery ∈ log
      ∨ ∃ attempt ∈ (dispatch surroundings now transition dues log).attempts,
        attempt.reception = .delivered ∧ attempt.about = some delivery.key := by
  induction dues generalizing log with
  | nil => exact .inl inside
  | cons due rest ih =>
    rw [dispatch] at inside ⊢
    dsimp only at inside ⊢
    by_cases again : repeats surroundings log now (due.key transition)
    · rw [if_pos again] at inside ⊢
      exact ih inside
    · rw [if_neg again] at inside ⊢
      cases received : surroundings.outlets.receive due.message with
      | crashed failure =>
        rw [received] at inside
        exact .inl inside
      | refused =>
        rw [received] at inside
        obtain stored | ⟨attempt, among, made⟩ := ih inside
        · exact .inl stored
        · exact .inr ⟨attempt, List.mem_cons_of_mem _ among, made⟩
      | delivered =>
        rw [received] at inside
        obtain stored | ⟨attempt, among, made⟩ := ih inside
        · rw [record] at stored
          split at stored
          · exact .inl stored
          · obtain stored | new := List.mem_append.mp stored
            · exact .inl stored
            · rw [List.mem_singleton.mp new]
              exact .inr ⟨_, List.mem_cons_self, rfl, rfl⟩
        · exact .inr ⟨attempt, List.mem_cons_of_mem _ among, made⟩

theorem count_dispatch_cons {due : Due} {rest : List Due} (log : DeliveryLog)
    (once : due.message ∉ rest.map Due.message) :
    ((dispatch surroundings now transition (due :: rest) log).attempts.map
        Attempt.message).count due.message
      = if repeats surroundings log now (due.key transition) then 0 else 1 := by
  have unsaid (log : DeliveryLog) :
      ((dispatch surroundings now transition rest log).attempts.map Attempt.message).count
        due.message = 0 :=
    List.count_eq_zero.mpr fun inside =>
      once ((messages_dispatch_sublist surroundings now transition rest log).subset inside)
  rw [dispatch]
  dsimp only
  split
  · exact unsaid log
  · cases surroundings.outlets.receive due.message with
    | crashed failure => simp
    | delivered => simpa using unsaid _
    | refused => simpa using unsaid _

/-- What a round attempts begins with what it attempts of a first part. -/
theorem attempts_dispatch_prefix (first rest : List Due) (log : DeliveryLog) :
    (dispatch surroundings now transition first log).attempts
      <+: (dispatch surroundings now transition (first ++ rest) log).attempts := by
  rw [dispatch_append, andThen]
  split
  · exact List.prefix_refl _
  · exact List.prefix_append _ _

/-- A message is attempted once if nothing before it crashed and the log does not suppress
it, and not at all otherwise. -/
theorem count_dispatch {dues before after : List Due} {due : Due}
    (nodup : (dues.map Due.message).Nodup) (split : dues = before ++ due :: after)
    (log : DeliveryLog) :
    let sofar := dispatch surroundings now transition before log
    ((dispatch surroundings now transition dues log).attempts.map Attempt.message).count
        due.message
      = if sofar.failure = none
          ∧ repeats surroundings sofar.log now (due.key transition) = false then 1 else 0 := by
  intro sofar
  rw [split, List.map_append, List.map_cons, List.nodup_append, List.nodup_cons] at nodup
  obtain ⟨-, ⟨once, -⟩, apart⟩ := nodup
  have unsaid : (sofar.attempts.map Attempt.message).count due.message = 0 :=
    List.count_eq_zero.mpr fun inside =>
      apart _ ((messages_dispatch_sublist surroundings now transition before log).subset inside) _
        List.mem_cons_self rfl
  rw [split, dispatch_append, andThen]
  cases ended : sofar.failure with
  | some failure => simpa [ended] using unsaid
  | none =>
    dsimp only
    rw [List.map_append, List.count_append, unsaid, count_dispatch_cons _ once]
    cases repeats surroundings sofar.log now (due.key transition) <;> rfl

end Round

/-! ## Announcements -/

/-- Of everything due for a crossing, a message is attempted exactly once if no attempt before
it crashed and neither the log nor a delivery before it suppresses it, and not at all
otherwise. -/
theorem Board.attempted_once (surroundings : Surroundings) (board : Board)
    (operation : Operation) :
    let step := board.perform surroundings operation
    ∀ transition ∈ step.transitions, transition.crossing ≠ .unchanged →
      ∃ calendar config, step.board.notified? transition.calendarId = some (calendar, config)
        ∧ ∀ before due after,
          Due.all surroundings step.board.records calendar config transition
            = before ++ due :: after →
          let sofar := Round.dispatch surroundings board.now transition before board.log
          (step.attempts.map Attempt.message).count due.message
              = (if sofar.failure = none ∧ Round.repeats surroundings sofar.log board.now
                  (due.key transition) = false then 1 else 0)
            ∧ sofar.attempts <+: step.attempts
            ∧ (sofar.failure = none ↔ ∀ attempt ∈ sofar.attempts, ∀ failure,
              attempt.reception ≠ .crashed failure)
            ∧ ∀ delivery ∈ sofar.log, delivery ∈ board.log
              ∨ ∃ attempt ∈ sofar.attempts,
                attempt.reception = .delivered ∧ attempt.about = some delivery.key := by
  intro step transition inside crossed
  obtain ⟨changed, calendar, config, log, now, notified, follows⟩ :=
    follows_announce_of_mem_perform inside
  rw [announce, if_neg crossed] at follows
  have records : step.board.records = changed.records := by rw [follows.board]
  have known : step.board.notified? transition.calendarId = some (calendar, config) := by
    rw [follows.board]
    exact notified
  refine ⟨calendar, config, known, fun before due after split => ?_⟩
  rw [records] at split
  rw [follows.attempts, log, now]
  refine ⟨Round.count_dispatch (Due.nodup_all ..) split board.log, ?_,
    Round.failure_dispatch_eq_none_iff .., fun _ => Round.mem_log_dispatch⟩
  rw [split]
  exact Round.attempts_dispatch_prefix before (due :: after) board.log

/-! ## What comes of sending -/

/-- What a round makes of sending: only a failure that the channel reports is a refusal. -/
def Reception.of : Except Failure Unit → Reception
  | .ok _ => .delivered
  | .error (.undelivered _) => .refused
  | .error failure => .crashed failure

/-- Outlets that send letters in mail sessions and post messages to the chat services, given
what goes wrong with each session and what each post is answered with. -/
def Outlets.connected (settings : Settings) (telegramUrl : String) (now : Instant)
    (faults : Letter → Option MailFault) (answers : ChatMessage → PostAnswer) : Outlets where
  mailConfigured := settings.mailConfigured
  receive
    | .mail letter => .of (MailSession.run settings letter (faults letter)).2
    | .chat message => .of (message.send telegramUrl now (answers message)).1

/-! ## A round that ends early -/

namespace Board

/-- The sample calendar with mail in place of chat, and one participant who gets mail too. -/
def sampleMailed : Board :=
  let config : NotifyConfig :=
    { NotifyConfig.sample with
      notifyParticipants := true
      channels := ⟨true, ⟨false, ""⟩, ⟨false, ""⟩, ⟨false, "", ""⟩⟩ }
  { sample with
    records :=
      { sample.records with
        calendars :=
          ⟨[{ Calendar.sample with notifyConfig := some config }], List.nodup_singleton _⟩
        participants :=
          ⟨[{ Participant.sample "ann" "Ann" with email := some "ann@x", emailVerified := true }],
            List.nodup_singleton _⟩ } }

end Board

/-- Surroundings in which the session with the owner breaks off in some way. -/
def Surroundings.sampleBroken (trouble : MailTrouble) : Surroundings :=
  let settings :=
    { Settings.standard with smtpHost := some "mail.test", smtpFrom := some "quorum@mail.test" }
  { Surroundings.sample with
    settings := settings
    outlets := .connected settings ChatMessage.telegramUrl Board.sample.now
      (fun letter => if letter.address = "o@x" then some ⟨.send, trouble⟩ else none)
      fun _ => .status 200 }

namespace Board

/-- The owner is not reached, and the participant is written to all the same. -/
theorem attempted_once_sample :
    let surroundings := Surroundings.sampleBroken (.transport "timed out")
    let step := sampleMailed.perform surroundings (.sampleEntry "ann")
    let transition : Transition := ⟨"club", .sample, 0, 1, 1, .reached⟩
    transition ∈ step.transitions ∧ transition.crossing ≠ .unchanged
      ∧ step.attempts.map Attempt.reception = [.refused, .delivered]
      ∧ ∃ calendar config owner participant,
        step.board.notified? "club" = some (calendar, config)
        ∧ Due.all surroundings step.board.records calendar config transition
          = [owner, participant]
        ∧ (step.attempts.map Attempt.message).count participant.message = 1 := by
  intro surroundings step transition
  have inside : transition ∈ step.transitions := by decide +kernel
  obtain ⟨calendar, config, notified, once⟩ :=
    attempted_once surroundings sampleMailed (.sampleEntry "ann") transition inside (by decide)
  have facts : (step.board.notified? "club").all fun found =>
      let dues := Due.all surroundings step.board.records found.1 found.2 transition
      let sofar := Round.dispatch surroundings sampleMailed.now transition (dues.take 1)
        sampleMailed.log
      dues.length = 2 ∧ sofar.failure = none ∧ (dues.drop 1).all fun due =>
        Round.repeats surroundings sofar.log sampleMailed.now (due.key transition) = false := by
    decide +kernel
  have known : step.board.notified? "club" = some (calendar, config) := notified
  rw [known, Option.all_some, decide_eq_true_eq] at facts
  obtain ⟨two, unbroken, unsent⟩ := facts
  obtain ⟨owner, participant, both⟩ := List.length_eq_two.mp two
  rw [both] at unbroken unsent
  have free := of_decide_eq_true (List.all_eq_true.mp unsent participant List.mem_cons_self)
  have written := (once [owner] participant [] both).1
  rw [if_pos ⟨unbroken, free⟩] at written
  exact ⟨inside, by decide, by decide +kernel, calendar, config, owner, participant, known, both,
    written⟩

/-- Mail to the owner breaks off for no reason of the connection's, and the participant who is
due next, and was never written to, is not written to. -/
theorem unattempted_after_crash :
    ¬ ∀ (surroundings : Surroundings) (board : Board) (operation : Operation),
      let step := board.perform surroundings operation
      ∀ transition ∈ step.transitions, transition.crossing ≠ .unchanged →
        ∀ calendar config, step.board.notified? transition.calendarId = some (calendar, config) →
        ∀ due ∈ Due.all surroundings step.board.records calendar config transition,
          Round.repeats surroundings step.board.log step.board.now (due.key transition) = false →
          (step.attempts.map Attempt.message).count due.message = 1 := by
  intro always
  let surroundings := Surroundings.sampleBroken (.other .unreadable)
  let step := sampleMailed.perform surroundings (.sampleEntry "ann")
  let transition : Transition := ⟨"club", .sample, 0, 1, 1, .reached⟩
  have inside : transition ∈ step.transitions := by decide +kernel
  have missed : (step.board.notified? "club").any fun found =>
      ((Due.all surroundings step.board.records found.1 found.2 transition).drop 1).any fun due =>
        Round.repeats surroundings step.board.log step.board.now (due.key transition) = false
          ∧ (step.attempts.map Attempt.message).count due.message = 0 := by
    decide +kernel
  cases known : step.board.notified? "club" with
  | none =>
    rw [known] at missed
    cases missed
  | some found =>
    rw [known, Option.any_some] at missed
    obtain ⟨due, expected, unsent⟩ := List.any_eq_true.mp missed
    obtain ⟨free, never⟩ := of_decide_eq_true unsent
    have once := always surroundings sampleMailed (.sampleEntry "ann") transition inside
      (by decide) found.1 found.2 known due (List.mem_of_mem_drop expected) free
    cases never.symm.trans once

end Board

end Rendezvous
