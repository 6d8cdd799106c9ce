import Rendezvous.Form.Record
import Rendezvous.Report
import Rendezvous.Request

/-!
# Forms of requests and reports
-/

namespace Rendezvous

def AvailabilityRequest.noteLimit : Nat := 1000

def RecurrenceRequest.noteLimit : Nat := 500

namespace AvailabilityRequest

def form : Form AvailabilityRequest where
  read _ fields := AvailabilityRequest.mk
    <$> fields.required "date" Reader.text
    <*> fields.nullable "start_time" Reader.text
    <*> fields.nullable "end_time" Reader.text
    <*> fields.nullable "note" (Reader.textBetween 0 noteLimit)
  write request :=
    [("date", .text request.day),
      ("start_time", .optionalText request.start),
      ("end_time", .optionalText request.stop),
      ("note", .optionalText request.note)]

end AvailabilityRequest

namespace AvailabilityPatch

def form : Form AvailabilityPatch where
  read _ fields := AvailabilityPatch.mk
    <$> fields.given "start_time" Reader.text
    <*> fields.given "end_time" Reader.text
    <*> fields.given "note" (Reader.textBetween 0 AvailabilityRequest.noteLimit)
  write patch :=
    [("start_time", .optionalText patch.start.join),
      ("end_time", .optionalText patch.stop.join),
      ("note", .optionalText patch.note.join)]

end AvailabilityPatch

namespace RecurrenceRequest

def form : Form RecurrenceRequest where
  read _ fields := RecurrenceRequest.mk
    <$> fields.nullable "day_of_week" Reader.integer
    <*> fields.nullable "start_time" Reader.text
    <*> fields.nullable "end_time" Reader.text
    <*> fields.nullable "note" (Reader.textBetween 0 noteLimit)
    <*> fields.required "start_date" Reader.text
    <*> fields.nullable "end_date" Reader.text
  write request :=
    [("day_of_week", .optional Payload.integer request.weekday),
      ("start_time", .optionalText request.start),
      ("end_time", .optionalText request.stop),
      ("note", .optionalText request.note),
      ("start_date", .text request.firstDate),
      ("end_date", .optionalText request.lastDate)]

end RecurrenceRequest

namespace ExclusionRequest

def form : Form ExclusionRequest where
  read _ fields := ExclusionRequest.mk <$> fields.required "excluded_date" Reader.text
  write request := [("excluded_date", .text request.day)]

end ExclusionRequest

namespace EmailRequest

def form : Form EmailRequest where
  read _ fields := EmailRequest.mk <$> fields.required "email" (Reader.textBetween 3 320)
  write request := [("email", .text request.email)]

end EmailRequest

namespace Receipt

def form : Form Receipt where
  read _ fields := Receipt.mk
    <$> fields.required "id" Reader.text
    <*> fields.required "participant_id" Reader.text
    <*> fields.required "participant_name" Reader.text
    <*> fields.required "date" Reader.date
    <*> Slot.read fields
    <*> fields.nullable "note" Reader.text
    <*> fields.required "created_at" Reader.instant
    <*> fields.required "updated_at" Reader.instant
  write receipt :=
    [("id", .text receipt.id),
      ("participant_id", .text receipt.participantId),
      ("participant_name", .text receipt.participantName),
      ("date", .day receipt.day)]
    ++ receipt.slot.write
    ++ [("note", .optionalText receipt.note),
      ("created_at", .instant receipt.createdAt),
      ("updated_at", .instant receipt.updatedAt)]

end Receipt

namespace ScheduleEntry

def form : Form ScheduleEntry where
  read _ fields := ScheduleEntry.mk
    <$> fields.required "id" Reader.text
    <*> fields.required "date" Reader.date
    <*> Slot.read fields
    <*> fields.nullable "note" Reader.text
    <*> fields.required "created_at" Reader.instant
    <*> fields.required "updated_at" Reader.instant
  write entry :=
    [("id", .text entry.id), ("date", .day entry.day)]
    ++ entry.slot.write
    ++ [("note", .optionalText entry.note),
      ("created_at", .instant entry.createdAt),
      ("updated_at", .instant entry.updatedAt)]

end ScheduleEntry

namespace Profile

def form : Form Profile where
  read _ fields := Profile.mk
    <$> fields.required "id" Reader.text
    <*> fields.required "name" Reader.text
    <*> fields.nullable "email" Reader.text
    <*> fields.defaulted "email_verified" false Reader.flag
  write profile :=
    [("id", .text profile.id),
      ("name", .text profile.name),
      ("email", .optionalText profile.email),
      ("email_verified", .flag profile.emailVerified)]

end Profile

namespace Schedule

def form : Form Schedule where
  read preset fields := Schedule.mk
    <$> fields.required "participant" (Profile.form.nested preset)
    <*> fields.defaulted "availabilities" [] (Reader.list (ScheduleEntry.form.nested preset))
  write schedule :=
    [("participant", Profile.form.payload schedule.participant),
      ("availabilities", ScheduleEntry.form.payloads schedule.entries)]

end Schedule

namespace Contribution

def form : Form Contribution where
  read _ fields := Contribution.mk
    <$> fields.nullable "participant_id" Reader.text
    <*> fields.required "participant_name" Reader.text
    <*> Slot.read fields
    <*> fields.nullable "note" Reader.text
  write contribution :=
    [("participant_id", .optionalText contribution.participantId),
      ("participant_name", .text contribution.participantName)]
    ++ contribution.slot.write
    ++ [("note", .optionalText contribution.note)]

end Contribution

namespace DaySummary

def form : Form DaySummary where
  read preset fields := DaySummary.mk
    <$> fields.required "date" Reader.date
    <*> fields.required "total_count" Reader.integer
    <*> fields.defaulted "participants" [] (Reader.list (Contribution.form.nested preset))
  write summary :=
    [("date", .day summary.day),
      ("total_count", .integer summary.total),
      ("participants", Contribution.form.payloads summary.contributions)]

end DaySummary

namespace BusyTime

def form : Form BusyTime where
  read _ fields := BusyTime.mk
    <$> fields.required "start_time" Reader.text
    <*> fields.required "end_time" Reader.text
    <*> fields.required "max_count" Reader.integer
  write time :=
    [("start_time", .text time.start), ("end_time", .text time.stop),
      ("max_count", .integer time.count)]

end BusyTime

namespace RecurrenceListing

def form : Form RecurrenceListing where
  read preset fields := RecurrenceListing.mk
    <$> Recurrence.form.read preset fields
    <*> fields.defaulted "exceptions" [] (Reader.list (Exclusion.form.nested preset))
  write listing := Recurrence.form.write listing.recurrence
    ++ [("exceptions", Exclusion.form.payloads listing.exclusions)]

end RecurrenceListing

namespace Transition

def form : Form Transition where
  read _ fields := Transition.mk
    <$> fields.required "calendar_id" Reader.text
    <*> fields.required "date" Reader.date
    <*> fields.required "previous_count" Reader.integer
    <*> fields.required "new_count" Reader.integer
    <*> fields.required "threshold" Reader.integer
    <*> fields.required "transition_type" (Reader.choice Crossing.all Crossing.name)
  write transition :=
    [("calendar_id", .text transition.calendarId),
      ("date", .day transition.day),
      ("previous_count", .integer transition.previous),
      ("new_count", .integer transition.current),
      ("threshold", .integer transition.threshold),
      ("transition_type", .text transition.crossing.name)]

end Transition

end Rendezvous
