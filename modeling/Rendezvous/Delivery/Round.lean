import Rendezvous.Delivery.Recipient
import Rendezvous.Notice.Message
import Rendezvous.Surroundings

/-!
# Rounds of announcements

A crossed threshold is announced to the owner on every chat channel that is set up, and
then by mail to every recipient.  What was delivered not long ago is left out.  A message
that is refused does not keep the next one from being sent; one that crashes ends the
round.
-/

namespace Rendezvous

structure Due where
  message : Message
  role : Role
  recipientId : String
deriving DecidableEq

namespace Due

def key (due : Due) (transition : Transition) : DeliveryKey where
  calendarId := transition.calendarId
  day := transition.day
  eventType := transition.crossing.name
  recipientId := due.recipientId
  channel := due.message.channel

def chatMessages (channels : Channels) (text : String) : List ChatMessage :=
  (if channels.discord.enabled ∧ channels.discord.url ≠ "" then
    [.discord channels.discord.url text] else [])
  ++ (if channels.slack.enabled ∧ channels.slack.url ≠ "" then
    [.slack channels.slack.url text] else [])
  ++ (if channels.telegram.enabled ∧ channels.telegram.botToken ≠ ""
      ∧ channels.telegram.chatId ≠ "" then
    [.telegram channels.telegram.botToken channels.telegram.chatId text] else [])

def chats (records : Records) (calendar : Calendar) (config : NotifyConfig)
    (transition : Transition) : List Due :=
  if config.notifyOwner then
    match records.users.get? calendar.ownerId with
    | some owner =>
        (chatMessages config.channels (Notice.text calendar.name transition)).map
          fun message => ⟨.chat message, .owner, owner.id⟩
    | none => []
  else
    []

/-- The page of a calendar, as its participant sees it where there is one. -/
def calendarUrl (settings : Settings) (calendar : Calendar) (participantId : Option String) :
    String :=
  let url := settings.baseUrl ++ "/c/" ++ calendar.publicToken
  match participantId.filter (· ≠ "") with
  | some participant => url ++ "/p/" ++ participant
  | none => url

def letter (settings : Settings) (calendar : Calendar) (transition : Transition)
    (names : List String) (recipient : Recipient) : Letter where
  address := recipient.email
  subject := Notice.subject (some recipient.locale)
  body := Notice.html calendar.name transition
    (calendarUrl settings calendar recipient.participantId) (some recipient.locale) names
    recipient.participantId.isSome

def mails (surroundings : Surroundings) (records : Records) (calendar : Calendar)
    (config : NotifyConfig) (transition : Transition) : List Due :=
  if (config.notifyOwner ∨ config.notifyParticipants) ∧ config.channels.email
      ∧ surroundings.outlets.mailConfigured then
    let names := records.namesOn calendar.id transition.day
    (records.recipients calendar config transition.day).map fun recipient =>
      ⟨.mail (letter surroundings.settings calendar transition names recipient),
        if recipient.isOwner then .owner else .participant, recipient.recipientId⟩
  else
    []

/-- Everything that is due for a transition, in the order in which it is sent. -/
def all (surroundings : Surroundings) (records : Records) (calendar : Calendar)
    (config : NotifyConfig) (transition : Transition) : List Due :=
  chats records calendar config transition
    ++ mails surroundings records calendar config transition

end Due

/-- What a round did: the log after it, the attempts in order, and the failure that ended
it early. -/
structure Round where
  log : DeliveryLog
  attempts : List Attempt
  failure : Option Failure

namespace Round

/-- Whether a key is known to have been delivered within the time of the settings.  A log
that does not answer knows of none. -/
def repeats (surroundings : Surroundings) (log : DeliveryLog) (now : Instant)
    (key : DeliveryKey) : Bool :=
  if surroundings.lookupFails.hits key then false
  else
    match Instant.span? surroundings.settings.dedupMinutes Instant.microsPerMinute with
    | none => false
    | some span =>
        match log.sentWithin now span key with
        | .ok sent => sent
        | .error _ => false

def record (surroundings : Surroundings) (log : DeliveryLog) (delivery : Delivery) :
    DeliveryLog :=
  if surroundings.writeFails.hits delivery then log else log ++ [delivery]

def dispatch (surroundings : Surroundings) (now : Instant) (transition : Transition) :
    List Due → DeliveryLog → Round
  | [], log => ⟨log, [], none⟩
  | due :: rest, log =>
      let key := due.key transition
      if repeats surroundings log now key then
        dispatch surroundings now transition rest log
      else
        let reception := surroundings.outlets.receive due.message
        let attempt : Attempt := ⟨due.message, some key, reception, now⟩
        match reception with
        | .crashed failure => ⟨log, [attempt], some failure⟩
        | .delivered =>
            let later := dispatch surroundings now transition rest
              (record surroundings log ⟨key, due.role, now⟩)
            { later with attempts := attempt :: later.attempts }
        | .refused =>
            let later := dispatch surroundings now transition rest log
            { later with attempts := attempt :: later.attempts }

end Round

end Rendezvous
