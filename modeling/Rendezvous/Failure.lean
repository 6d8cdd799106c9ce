import Rendezvous.Date
import Rendezvous.Fault

/-!
# Refusals and failures

A refusal is a rule of the service that a request breaks; it is told to the caller
with a message.  A failure is a refusal or anything else that keeps an operation
from finishing.
-/

namespace Rendezvous

namespace Refusal

inductive Kind where
  | general
  | calendarNotFound
  | participantNotFound
  | invalidDate
  | invalidTime
  | invalidTimeRange
  | outsideAllowedHours
  | durationTooShort
  | availabilityExists
  | availabilityNotFound
  | recurrenceNotFound
  | recurrenceOverlap
  | invalidDayOfWeek
  | weekdayNotAllowed
  | dateInPast
  | invalidVerificationToken
  | emailVerification
deriving DecidableEq

def Kind.message : Kind → String
  | .general => "domain error"
  | .calendarNotFound => "calendar not found"
  | .participantNotFound => "participant not found"
  | .invalidDate => "invalid date format, expected YYYY-MM-DD"
  | .invalidTime => "invalid time format, expected HH:MM"
  | .invalidTimeRange => "end time must be after start time"
  | .outsideAllowedHours => "time range does not fit within allowed hours for this day"
  | .durationTooShort => "availability duration is less than the minimum required"
  | .availabilityExists => "availability already exists for this date"
  | .availabilityNotFound => "availability not found"
  | .recurrenceNotFound => "recurrence not found"
  | .recurrenceOverlap => "recurrence overlaps with an existing recurrence on the same day"
  | .invalidDayOfWeek => "day_of_week must be between 0 (Sunday) and 6 (Saturday)"
  | .weekdayNotAllowed => "this day of the week is not allowed for this calendar"
  | .dateInPast => "cannot modify availability for past dates"
  | .invalidVerificationToken => "invalid or expired verification token"
  | .emailVerification => "email verification is not possible for this participant"

/-- The message of a kind, replaced by a wording that is given and not empty. -/
def Kind.messageOr (kind : Kind) : Option String → String
  | none => kind.message
  | some wording => if wording = "" then kind.message else wording

/-- Status codes: what does not exist is 404, what is in the way is 409, all else 400. -/
def Kind.status : Kind → Nat
  | .calendarNotFound | .participantNotFound | .availabilityNotFound | .recurrenceNotFound => 404
  | .availabilityExists | .recurrenceOverlap => 409
  | _ => 400

end Refusal

inductive Refusal where
  | calendarNotFound
  | participantNotFound
  | malformedDate
  | beforeCalendar (first : Date)
  | afterCalendar (last : Date)
  | datesReversed
  | malformedTime
  | emptyTimeRange
  | outsideAllowedHours
  | tooShort
  | availabilityExists
  | availabilityNotFound
  | recurrenceNotFound
  | recurrenceOverlap
  | invalidDayOfWeek
  | weekdayNotAllowed
  | dateInPast
  | invalidVerificationToken
  | malformedAddress
  | alreadyVerified
  | noAddress
deriving DecidableEq

namespace Refusal

def kind : Refusal → Kind
  | .calendarNotFound => .calendarNotFound
  | .participantNotFound => .participantNotFound
  | .malformedDate | .beforeCalendar _ | .afterCalendar _ | .datesReversed => .invalidDate
  | .malformedTime => .invalidTime
  | .emptyTimeRange => .invalidTimeRange
  | .outsideAllowedHours => .outsideAllowedHours
  | .tooShort => .durationTooShort
  | .availabilityExists => .availabilityExists
  | .availabilityNotFound => .availabilityNotFound
  | .recurrenceNotFound => .recurrenceNotFound
  | .recurrenceOverlap => .recurrenceOverlap
  | .invalidDayOfWeek => .invalidDayOfWeek
  | .weekdayNotAllowed => .weekdayNotAllowed
  | .dateInPast => .dateInPast
  | .invalidVerificationToken => .invalidVerificationToken
  | .malformedAddress | .alreadyVerified | .noAddress => .emailVerification

/-- The wording that says more than the kind does. -/
def wording? : Refusal → Option String
  | .beforeCalendar first => some ("date is before calendar start date (" ++ first.iso ++ ")")
  | .afterCalendar last => some ("date is after calendar end date (" ++ last.iso ++ ")")
  | .datesReversed => some "end date must not be before start date"
  | .malformedAddress => some "invalid email address"
  | .alreadyVerified => some "email already verified"
  | .noAddress => some "no email address set for this participant"
  | _ => none

def message (refusal : Refusal) : String :=
  refusal.kind.messageOr refusal.wording?

end Refusal

inductive Undelivered where
  | webhookNotConfigured (channel : String)
  | telegramNotConfigured
  | requestFailed (channel reason : String)
  | badStatus (channel : String) (status : Int)
  | mailNotConfigured
  | mailFailed (address reason : String)
deriving DecidableEq

def Undelivered.message : Undelivered → String
  | .webhookNotConfigured channel => channel ++ " webhook URL not configured"
  | .telegramNotConfigured => "telegram bot token or chat id not configured"
  | .requestFailed channel reason => channel ++ " request failed: " ++ reason
  | .badStatus channel status => channel ++ " returned status " ++ toString status
  | .mailNotConfigured => "SMTP is not configured"
  | .mailFailed address reason => "SMTP send to " ++ address ++ " failed: " ++ reason

inductive Failure where
  /-- A rule of the service is broken. -/
  | refused (refusal : Refusal)
  /-- The form of the request is at fault. -/
  | invalid (faults : List Fault)
  /-- The store already holds a record of this participant and day. -/
  | duplicate (participant : String) (day : Date)
  | undelivered (reason : Undelivered)
  /-- A text is not one of the values it stands for. -/
  | unreadable
  /-- A value that should be text is none. -/
  | notText
  /-- A date or an instant leaves the calendar. -/
  | beyondCalendar
  /-- A day is needed that the last week of the calendar lacks. -/
  | weekCutOff
  /-- A number is too large to reckon with. -/
  | tooLarge
  /-- Of two instants that are compared, one has no offset. -/
  | incomparable
  /-- A part that is needed does not answer. -/
  | outage
  /-- A thing that is needed is not there. -/
  | absent
  /-- A thing is there that cannot be set. -/
  | readOnly
  /-- Two things go by one name. -/
  | clash
  | badAddress
  | noHost
  | unknownScheme
  /-- A header of a letter would contain another one. -/
  | nestedHeader
  /-- A header of a letter has a line that is no continuation. -/
  | brokenHeader
  | badEncoding
  | unknownCharset
  /-- Bytes in a header of a letter are none of its charset. -/
  | outsideCharset
deriving DecidableEq

/-- Refuses unless a condition holds. -/
def Refusal.unless (condition : Bool) (refusal : Refusal) : Except Failure Unit :=
  if condition then .ok () else .error (.refused refusal)

def Failure.message? : Failure → Option String
  | .refused refusal => some refusal.message
  | .duplicate participant day => some (participant ++ " already has " ++ day.iso)
  | .undelivered reason => some reason.message
  | _ => none

/-- A class of failure that is worded by whoever raises it. -/
inductive FailureClass where
  | refusal (kind : Refusal.Kind)
  | duplicate
  | undelivered
deriving DecidableEq

namespace FailureClass

/-- Refusals fall back on the message of their kind, the others on none at all. -/
def message : FailureClass → Option String → String
  | .refusal kind, wording => kind.messageOr wording
  | _, wording => wording.getD ""

def isRefusal : FailureClass → Bool
  | .refusal _ => true
  | _ => false

end FailureClass

end Rendezvous
