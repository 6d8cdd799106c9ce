import Rendezvous.Delivery.Message
import Rendezvous.Form.Payload
import Rendezvous.Text.Blank
import Rendezvous.Web.Url

/-!
# Chat services

Each chat service takes a document at an address of its own.  Any status from 200 to
299 says that the message was taken.
-/

namespace Rendezvous

structure Post where
  url : Url
  body : Payload

inductive PostAnswer where
  | status (code : Int)
  | failed (reason : String)
  | crashed (failure : Failure)

namespace ChatMessage

def title : String := "Quorum Calendar Notification"

/-- The colour of the bar beside an announcement. -/
def colour : Int := 5814783

def telegramUrl : String := "https://api.telegram.org"

/-- The address that a message is posted to and the document that carries it, if the message
has somewhere to go. -/
def posting (telegramUrl : String) (now : Instant) :
    ChatMessage → Except Undelivered (String × Payload)
  | .discord url text =>
      if url = "" then .error (.webhookNotConfigured Channel.discord.name)
      else .ok (url, .record
        [("content", .text text),
          ("embeds", .list [.record
            [("title", .text title),
              ("description", .text text),
              ("color", .integer colour),
              ("timestamp", .text now.iso)]])])
  | .slack url text =>
      if url = "" then .error (.webhookNotConfigured Channel.slack.name)
      else .ok (url, .record
        [("text", .text text),
          ("blocks", .list [.record
            [("type", .text "section"),
              ("text", .record [("type", .text "mrkdwn"), ("text", .text text)])]])])
  | .telegram botToken chatId text =>
      if botToken = "" ∨ chatId = "" then .error .telegramNotConfigured
      else .ok (Text.withoutSlashes telegramUrl ++ "/bot" ++ botToken ++ "/sendMessage", .record
        [("chat_id", .text chatId),
          ("text", .text text),
          ("parse_mode", .text "Markdown")])

/-- What an answer means for the message.  An answer is of no use where the address it comes
from has no scheme. -/
def outcome (channel : Channel) (url : Url) : PostAnswer → Except Failure Unit
  | .status code =>
      if url.scheme = "" then .error .noHost
      else if 200 ≤ code ∧ code ≤ 299 then .ok ()
      else .error (.undelivered (.badStatus channel.name code))
  | .failed reason => .error (.undelivered (.requestFailed channel.name reason))
  | .crashed failure => .error failure

def send (telegramUrl : String) (now : Instant) (answer : PostAnswer)
    (message : ChatMessage) : Except Failure Unit × List Post :=
  match message.posting telegramUrl now with
  | .error reason => (.error (.undelivered reason), [])
  | .ok (address, body) =>
      match Url.resolve .nowhere address with
      | .error failure => (.error failure, [])
      | .ok url => (outcome message.channel url answer, [⟨url, body⟩])

end ChatMessage

end Rendezvous
