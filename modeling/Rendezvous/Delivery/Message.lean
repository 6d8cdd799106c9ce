import Rendezvous.Delivery.Log

/-!
# Messages on their way

A message goes by mail or to one of the chat services.  The outlets say how each
message is received.
-/

namespace Rendezvous

structure Letter where
  address : String
  subject : String
  body : String
deriving DecidableEq

inductive ChatMessage where
  | discord (url text : String)
  | slack (url text : String)
  | telegram (botToken chatId text : String)
deriving DecidableEq

namespace ChatMessage

def channel : ChatMessage → Channel
  | .discord .. => .discord
  | .slack .. => .slack
  | .telegram .. => .telegram

def text : ChatMessage → String
  | .discord _ text | .slack _ text | .telegram _ _ text => text

/-- Where the text goes: an address, or the bot and the chat. -/
def target : ChatMessage → String
  | .discord url _ | .slack url _ => url
  | .telegram botToken chatId _ => botToken ++ "|" ++ chatId

end ChatMessage

inductive Message where
  | mail (letter : Letter)
  | chat (message : ChatMessage)
deriving DecidableEq

def Message.channel : Message → Channel
  | .mail _ => .email
  | .chat message => message.channel

inductive Reception where
  | delivered
  /-- The service reports that the message did not leave. -/
  | refused
  /-- Sending breaks off in a way that nobody expects. -/
  | crashed (failure : Failure)
deriving DecidableEq

structure Outlets where
  mailConfigured : Bool
  receive : Message → Reception

namespace Outlets

/-- Outlets that refuse mail to some addresses and everything on some channels. -/
def refusing (mailConfigured : Bool) (addresses : List String) (channels : List Channel) :
    Outlets where
  mailConfigured := mailConfigured
  receive
    | .mail letter => if addresses.contains letter.address then .refused else .delivered
    | .chat message => if channels.contains message.channel then .refused else .delivered

end Outlets

/-- A message that was sent, when, and how it was received; the key is missing where the
message does not announce a crossed threshold. -/
structure Attempt where
  message : Message
  about : Option DeliveryKey
  reception : Reception
  time : Instant
deriving DecidableEq

def Attempt.arrived (attempts : List Attempt) : List Message :=
  (attempts.filter fun attempt => attempt.reception = .delivered).map Attempt.message

end Rendezvous
