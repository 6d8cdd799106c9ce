import Rendezvous.Contribution

/-!
# Recipients of mail

The owner of a calendar, and the participants who are available on the date and have
confirmed their address.  Each address is written to once, the owner's first.
-/

namespace Rendezvous

structure Recipient where
  email : String
  name : String
  locale : String
  /-- The id of the owner as a user, or of the participant. -/
  recipientId : String
  participantId : Option String
  isOwner : Bool
deriving DecidableEq

namespace Recipient

/-- The owner; the first participant of the same name is taken to be the owner too. -/
def ofOwner (participants : List Participant) (owner : User) : Recipient where
  email := owner.email
  name := owner.displayName
  locale := owner.locale
  recipientId := owner.id
  participantId := (participants.find? fun participant =>
    participant.name = owner.displayName).map Participant.id
  isOwner := true

def ofParticipant? (participant : Participant) : Option Recipient :=
  if participant.emailVerified then
    (participant.email.filter (· ≠ "")).map fun address =>
      { email := address
        name := participant.name
        locale := participant.locale
        recipientId := participant.id
        participantId := some participant.id
        isOwner := false }
  else
    none

/-- Keeps the first recipient of each address. -/
def distinct : List Recipient → List Recipient
  | [] => []
  | recipient :: rest =>
      recipient :: (distinct rest).filter fun other => other.email ≠ recipient.email

end Recipient

namespace Records

def availableOn (records : Records) (calendarId : String) (day : Date) : List Participant :=
  (records.participantsOf calendarId).filter fun participant =>
    records.isAvailable calendarId day participant.id

def namesOn (records : Records) (calendarId : String) (day : Date) : List String :=
  (records.availableOn calendarId day).map Participant.name

def recipients (records : Records) (calendar : Calendar) (config : NotifyConfig)
    (day : Date) : List Recipient :=
  let owner :=
    if config.notifyOwner then
      (records.users.get? calendar.ownerId).toList.map
        (Recipient.ofOwner (records.participantsOf calendar.id))
    else
      []
  let participants :=
    if config.notifyParticipants then
      (records.availableOn calendar.id day).filterMap Recipient.ofParticipant?
    else
      []
  Recipient.distinct (owner ++ participants)

/-- The recipients, unless somebody has to be looked up on a date that cannot be looked
through. -/
def mailingList (records : Records) (calendar : Calendar) (config : NotifyConfig)
    (day : Date) : Except Failure (List Recipient) := do
  if config.notifyParticipants then records.checkSpan calendar.id day day
  pure (records.recipients calendar config day)

end Records

end Rendezvous
