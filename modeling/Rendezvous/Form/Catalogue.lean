import Rendezvous.Form.Configuration
import Rendezvous.Form.Exchange

/-!
# The catalogue of forms

Every form by its name.  Configuration and transitions are frozen: once made, none of
their fields can be set.
-/

namespace Rendezvous

/-- A form of the catalogue: how it fills fields in, and whether the result is frozen. -/
structure Sheet where
  name : String
  frozen : Bool
  fill : Preset → Fields → Checked Fields

namespace Sheet

def ofForm {α : Type} (name : String) (frozen : Bool) (form : Form α) : Sheet where
  name := name
  frozen := frozen
  fill preset fields := (form.read preset fields).map form.write

def all : List Sheet :=
  [ofForm "TimeWindow" true Window.form,
    ofForm "AllowedHours" true AllowedHours.form,
    ofForm "EmailChannelConfig" true Channels.emailForm,
    ofForm "WebhookChannelConfig" true Channels.webhookForm,
    ofForm "TelegramChannelConfig" true Channels.telegramForm,
    ofForm "ChannelConfig" true Channels.form,
    ofForm "ReminderConfig" true Reminders.form,
    ofForm "NotifyConfig" true NotifyConfig.form,
    ofForm "Calendar" true Calendar.form,
    ofForm "User" false User.form,
    ofForm "Participant" false Participant.form,
    ofForm "Availability" false Availability.form,
    ofForm "Recurrence" false Recurrence.form,
    ofForm "RecurrenceException" false Exclusion.form,
    ofForm "RecurrenceWithExceptions" false RecurrenceListing.form,
    ofForm "ThresholdTransition" true Transition.form,
    ofForm "NotificationLogEntry" false Delivery.entryForm,
    ofForm "CreateAvailabilityRequest" false AvailabilityRequest.form,
    ofForm "UpdateAvailabilityRequest" false AvailabilityPatch.form,
    ofForm "CreateRecurrenceRequest" false RecurrenceRequest.form,
    ofForm "UpdateRecurrenceRequest" false RecurrenceRequest.form,
    ofForm "CreateExceptionRequest" false ExclusionRequest.form,
    ofForm "AddEmailRequest" false EmailRequest.form,
    ofForm "AvailabilityResponse" false Receipt.form,
    ofForm "AvailabilityItem" false ScheduleEntry.form,
    ofForm "ParticipantInfo" false Profile.form,
    ofForm "ParticipantAvailabilities" false Schedule.form,
    ofForm "ParticipantAvailabilitySummary" false Contribution.form,
    ofForm "DateAvailabilitySummary" false DaySummary.form,
    ofForm "ThresholdSegment" false BusyTime.form]

def ofName? (name : String) : Option Sheet :=
  all.find? fun sheet => sheet.name = name

def build (sheet : Sheet) (preset : Preset) (fields : Fields) :
    Except Failure (Fields × List String) := do
  let filled ← (sheet.fill preset fields).toExcept
  pure (filled, fields.names.filter fun name => (filled.value? name).isSome)

/-- What every form tells of itself, and nobody can set. -/
def ownWords : List String := ["model_extra", "model_fields_set"]

/-- Names that begin with an underscore belong to whoever uses the form, and not to the
form. -/
def isPrivate (name : String) : Bool := name.toList.head? = some '_'

/-- Sets a field of a filled form and reads it back.  Private names can be set on frozen
forms too. -/
def assign (sheet : Sheet) (preset : Preset) (fields : Fields) (name : String)
    (value : Payload) : Except Failure Payload := do
  let filled ← (sheet.fill preset fields).toExcept
  if isPrivate name then pure value
  else if sheet.frozen then .error (.invalid [⟨[name], .frozen⟩])
  else if (filled.value? name).isSome then pure value
  else if ownWords.contains name then .error .readOnly
  else .error .unreadable

end Sheet

end Rendezvous
