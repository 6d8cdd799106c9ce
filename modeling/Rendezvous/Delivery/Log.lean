import Rendezvous.Failure
import Rendezvous.Instant
import Rendezvous.Threshold

/-!
# The delivery log

Every message that was delivered leaves a line in the log.  The log tells whether a
message of the same kind went to the same recipient not long ago, and forgets what is
older than the retention time.
-/

namespace Rendezvous

inductive Channel where
  | email
  | discord
  | slack
  | telegram
deriving DecidableEq

namespace Channel

def all : List Channel := [.email, .discord, .slack, .telegram]

def name : Channel → String
  | .email => "email"
  | .discord => "discord"
  | .slack => "slack"
  | .telegram => "telegram"

def ofName? (name : String) : Option Channel :=
  all.find? fun channel => channel.name = name

end Channel

inductive Role where
  | owner
  | participant
deriving DecidableEq

namespace Role

def all : List Role := [.owner, .participant]

def name : Role → String
  | .owner => "owner"
  | .participant => "participant"

end Role

/-- What two deliveries have to share for the second to repeat the first. -/
structure DeliveryKey where
  calendarId : String
  day : Date
  eventType : String
  recipientId : String
  channel : Channel
deriving DecidableEq

structure Delivery where
  key : DeliveryKey
  role : Role
  sentAt : Instant
deriving DecidableEq

abbrev DeliveryLog := List Delivery

namespace DeliveryLog

def sentSince (log : DeliveryLog) (key : DeliveryKey) (cutoff : Instant) : Bool :=
  log.any fun delivery => delivery.key = key && cutoff.micros < delivery.sentAt.micros

/-- Whether a delivery of a key came within a span of microseconds before now. -/
def sentWithin (log : DeliveryLog) (now : Instant) (span : Int) (key : DeliveryKey) :
    Except Failure Bool :=
  match now.shift? (-span) with
  | some cutoff => .ok (log.sentSince key cutoff)
  | none => .error .beyondCalendar

/-- The log without the deliveries that are more than a number of days old. -/
def retain (log : DeliveryLog) (now : Instant) (days : Int) : Except Failure DeliveryLog :=
  match (Instant.span? days Instant.microsPerDay).bind fun span => now.shift? (-span) with
  | none => .error .beyondCalendar
  | some cutoff => .ok (log.filter fun delivery => cutoff.micros ≤ delivery.sentAt.micros)

end DeliveryLog

end Rendezvous
