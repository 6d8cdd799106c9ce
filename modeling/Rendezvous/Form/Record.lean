import Rendezvous.Delivery.Log
import Rendezvous.Form.Basic
import Rendezvous.Store.Record

/-!
# Forms of the records

Everything that is stored besides calendars, and the log.
-/

namespace Rendezvous

namespace Slot

def read (fields : Fields) : Checked Slot :=
  Slot.mk
    <$> fields.nullable "start_time" Reader.text
    <*> fields.nullable "end_time" Reader.text

def write (slot : Slot) : Fields :=
  [("start_time", .optionalText slot.start), ("end_time", .optionalText slot.stop)]

end Slot

namespace User

def form : Form User where
  read preset fields := User.mk
    <$> fields.defaulted "id" preset.id Reader.text
    <*> fields.required "email" Reader.text
    <*> fields.required "display_name" Reader.text
    <*> fields.defaulted "locale" "en" Reader.text
  write user :=
    [("id", .text user.id), ("email", .text user.email),
      ("display_name", .text user.displayName), ("locale", .text user.locale)]

end User

namespace Participant

def form : Form Participant where
  read preset fields := Participant.mk
    <$> fields.defaulted "id" preset.id Reader.text
    <*> fields.required "calendar_id" Reader.text
    <*> fields.required "name" Reader.text
    <*> fields.nullable "email" Reader.text
    <*> fields.defaulted "email_verified" false Reader.flag
    <*> fields.defaulted "locale" "en" Reader.text
    <*> fields.nullable "verification_token" Reader.text
    <*> fields.nullable "verification_expires_at" Reader.instant
    <*> fields.defaulted "created_at" preset.now Reader.instant
  write participant :=
    [("id", .text participant.id),
      ("calendar_id", .text participant.calendarId),
      ("name", .text participant.name),
      ("email", .optionalText participant.email),
      ("email_verified", .flag participant.emailVerified),
      ("locale", .text participant.locale),
      ("verification_token", .optionalText participant.verificationToken),
      ("verification_expires_at", .optional Payload.instant participant.verificationExpiresAt),
      ("created_at", .instant participant.createdAt)]

end Participant

namespace Availability

def form : Form Availability where
  read preset fields := Availability.mk
    <$> fields.defaulted "id" preset.id Reader.text
    <*> fields.required "participant_id" Reader.text
    <*> fields.required "date" Reader.date
    <*> Slot.read fields
    <*> fields.nullable "note" Reader.text
    <*> fields.defaulted "source" .manual (Reader.choice Source.all Source.name)
    <*> fields.nullable "recurrence_id" Reader.text
    <*> fields.defaulted "created_at" preset.now Reader.instant
    <*> fields.defaulted "updated_at" preset.now Reader.instant
  write availability :=
    [("id", .text availability.id),
      ("participant_id", .text availability.participantId),
      ("date", .day availability.day)]
    ++ availability.slot.write
    ++ [("note", .optionalText availability.note),
      ("source", .text availability.source.name),
      ("recurrence_id", .optionalText availability.recurrenceId),
      ("created_at", .instant availability.createdAt),
      ("updated_at", .instant availability.updatedAt)]

end Availability

namespace Recurrence

def form : Form Recurrence where
  read preset fields := Recurrence.mk
    <$> fields.defaulted "id" preset.id Reader.text
    <*> fields.required "participant_id" Reader.text
    <*> fields.required "day_of_week" Reader.weekday
    <*> Slot.read fields
    <*> fields.nullable "note" Reader.text
    <*> fields.required "start_date" Reader.date
    <*> fields.nullable "end_date" Reader.date
    <*> fields.defaulted "created_at" preset.now Reader.instant
  write recurrence :=
    [("id", .text recurrence.id),
      ("participant_id", .text recurrence.participantId),
      ("day_of_week", .ofNat recurrence.weekday)]
    ++ recurrence.slot.write
    ++ [("note", .optionalText recurrence.note),
      ("start_date", .day recurrence.firstDate),
      ("end_date", .optionalDay recurrence.lastDate),
      ("created_at", .instant recurrence.createdAt)]

end Recurrence

namespace Exclusion

def form : Form Exclusion where
  read preset fields := Exclusion.mk
    <$> fields.defaulted "id" preset.id Reader.text
    <*> fields.required "recurrence_id" Reader.text
    <*> fields.required "excluded_date" Reader.date
    <*> fields.defaulted "created_at" preset.now Reader.instant
  write exclusion :=
    [("id", .text exclusion.id),
      ("recurrence_id", .text exclusion.recurrenceId),
      ("excluded_date", .day exclusion.day),
      ("created_at", .instant exclusion.createdAt)]

end Exclusion

namespace Delivery

def form : Form Delivery where
  read preset fields :=
    (fun calendarId day eventType role recipientId channel sentAt =>
      (⟨⟨calendarId, day, eventType, recipientId, channel⟩, role, sentAt⟩ : Delivery))
    <$> fields.required "calendar_id" Reader.text
    <*> fields.required "date" Reader.date
    <*> fields.required "event_type" Reader.text
    <*> fields.required "recipient_type" (Reader.choice Role.all Role.name)
    <*> fields.required "recipient_id" Reader.text
    <*> fields.required "channel" (Reader.choice Channel.all Channel.name)
    <*> fields.defaulted "sent_at" preset.now Reader.instant
  write delivery :=
    [("calendar_id", .text delivery.key.calendarId),
      ("date", .day delivery.key.day),
      ("event_type", .text delivery.key.eventType),
      ("recipient_type", .text delivery.role.name),
      ("recipient_id", .text delivery.key.recipientId),
      ("channel", .text delivery.key.channel.name),
      ("sent_at", .instant delivery.sentAt)]

/-- A delivery under an id of its own. -/
def entryForm : Form (String × Delivery) where
  read preset fields := Prod.mk
    <$> fields.defaulted "id" preset.id Reader.text
    <*> form.read preset fields
  write entry := ("id", .text entry.1) :: form.write entry.2

end Delivery

end Rendezvous
