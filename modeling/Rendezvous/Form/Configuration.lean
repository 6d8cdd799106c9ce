import Rendezvous.Calendar
import Rendezvous.Form.Basic

/-!
# Forms of the configuration

Calendars and what they are configured with.  Nearly everything has a standard value.
-/

namespace Rendezvous

namespace Window

def form : Form Window where
  read _ fields := Window.mk
    <$> fields.nullable "start" Reader.text
    <*> fields.nullable "end" Reader.text
  write window :=
    [("start", .optionalText window.opens), ("end", .optionalText window.closes)]

end Window

namespace AllowedHours

def standard : AllowedHours := ⟨[], .unbounded, .unbounded⟩

def form : Form AllowedHours where
  read preset fields := AllowedHours.mk
    <$> fields.defaulted "weekdays" [] (Reader.byInteger (Window.form.nested preset))
    <*> fields.defaulted "holidays" Window.unbounded (Window.form.nested preset)
    <*> fields.defaulted "holiday_eves" Window.unbounded (Window.form.nested preset)
  write hours :=
    [("weekdays", .record (hours.weekdays.map fun entry =>
        (toString entry.1, Window.form.payload entry.2))),
      ("holidays", Window.form.payload hours.holidays),
      ("holiday_eves", Window.form.payload hours.holidayEves)]

end AllowedHours

namespace Channels

/-- The form of the mail channel, which is only on or off. -/
def emailForm : Form Bool where
  read _ fields := fields.defaulted "enabled" false Reader.flag
  write enabled := [("enabled", .flag enabled)]

def webhookForm : Form WebhookChannel where
  read _ fields := WebhookChannel.mk
    <$> fields.defaulted "enabled" false Reader.flag
    <*> fields.defaulted "webhook_url" "" Reader.text
  write channel := [("enabled", .flag channel.enabled), ("webhook_url", .text channel.url)]

def telegramForm : Form TelegramChannel where
  read _ fields := TelegramChannel.mk
    <$> fields.defaulted "enabled" false Reader.flag
    <*> fields.defaulted "bot_token" "" Reader.text
    <*> fields.defaulted "chat_id" "" Reader.text
  write channel :=
    [("enabled", .flag channel.enabled), ("bot_token", .text channel.botToken),
      ("chat_id", .text channel.chatId)]

def standard : Channels := ⟨false, ⟨false, ""⟩, ⟨false, ""⟩, ⟨false, "", ""⟩⟩

def form : Form Channels where
  read preset fields := Channels.mk
    <$> fields.defaulted "email" standard.email (emailForm.nested preset)
    <*> fields.defaulted "discord" standard.discord (webhookForm.nested preset)
    <*> fields.defaulted "slack" standard.slack (webhookForm.nested preset)
    <*> fields.defaulted "telegram" standard.telegram (telegramForm.nested preset)
  write channels :=
    [("email", emailForm.payload channels.email),
      ("discord", webhookForm.payload channels.discord),
      ("slack", webhookForm.payload channels.slack),
      ("telegram", telegramForm.payload channels.telegram)]

end Channels

namespace Reminders

/-- Reminders are off; they would come a day ahead. -/
def standard : Reminders := ⟨false, 24⟩

def form : Form Reminders where
  read _ fields := Reminders.mk
    <$> fields.defaulted "enabled" false Reader.flag
    <*> fields.defaulted "hours_before" 24 (Reader.between 1 168)
  write reminders :=
    [("enabled", .flag reminders.enabled), ("hours_before", .ofNat reminders.hoursBefore)]

end Reminders

namespace NotifyConfig

def form : Form NotifyConfig where
  read preset fields := NotifyConfig.mk
    <$> fields.defaulted "enabled" false Reader.flag
    <*> fields.defaulted "notify_owner" false Reader.flag
    <*> fields.defaulted "notify_participants" false Reader.flag
    <*> fields.defaulted "channels" Channels.standard (Channels.form.nested preset)
    <*> fields.defaulted "reminders" Reminders.standard (Reminders.form.nested preset)
  write config :=
    [("enabled", .flag config.enabled),
      ("notify_owner", .flag config.notifyOwner),
      ("notify_participants", .flag config.notifyParticipants),
      ("channels", Channels.form.payload config.channels),
      ("reminders", Reminders.form.payload config.reminders)]

end NotifyConfig

namespace Calendar

def everyWeekday : List Int := [0, 1, 2, 3, 4, 5, 6]

def form : Form Calendar where
  read preset fields :=
    (fun id ownerId name publicToken timezone weekdays policy eves hours
        (leastHours : { n : Nat // 0 ≤ n }) (threshold : { n : Nat // 1 ≤ n }) lock
        first last config =>
      ({ id := id
         ownerId := ownerId
         name := name
         publicToken := publicToken
         timezone := timezone
         allowedWeekdays := weekdays
         holidayPolicy := policy
         allowHolidayEves := eves
         allowedHours := hours
         leastHours := leastHours.val
         threshold := threshold.val
         lockParticipants := lock
         firstDate := first
         lastDate := last
         notifyConfig := config
         one_le_threshold := threshold.property } : Calendar))
    <$> fields.defaulted "id" preset.id Reader.text
    <*> fields.required "owner_id" Reader.text
    <*> fields.required "name" Reader.text
    <*> fields.defaulted "public_token" preset.token Reader.text
    <*> fields.defaulted "timezone" "UTC" Reader.text
    <*> fields.defaulted "allowed_weekdays" everyWeekday (Reader.list Reader.integer)
    <*> fields.defaulted "holidays_policy" .ignore
      (Reader.choice HolidayPolicy.all HolidayPolicy.name)
    <*> fields.defaulted "allow_holiday_eves" false Reader.flag
    <*> fields.defaulted "allowed_hours" AllowedHours.standard
      (AllowedHours.form.nested preset)
    <*> fields.defaulted "min_duration_hours" ⟨0, Nat.le_refl 0⟩ (Reader.atLeast 0)
    <*> fields.defaulted "threshold" ⟨1, Nat.le_refl 1⟩ (Reader.atLeast 1)
    <*> fields.defaulted "lock_participants" false Reader.flag
    <*> fields.nullable "start_date" Reader.date
    <*> fields.nullable "end_date" Reader.date
    <*> fields.nullable "notify_config" (NotifyConfig.form.nested preset)
  write calendar :=
    [("id", .text calendar.id),
      ("owner_id", .text calendar.ownerId),
      ("name", .text calendar.name),
      ("public_token", .text calendar.publicToken),
      ("timezone", .text calendar.timezone),
      ("allowed_weekdays", .list (calendar.allowedWeekdays.map Payload.integer)),
      ("holidays_policy", .text calendar.holidayPolicy.name),
      ("allow_holiday_eves", .flag calendar.allowHolidayEves),
      ("allowed_hours", AllowedHours.form.payload calendar.allowedHours),
      ("min_duration_hours", .ofNat calendar.leastHours),
      ("threshold", .ofNat calendar.threshold),
      ("lock_participants", .flag calendar.lockParticipants),
      ("start_date", .optionalDay calendar.firstDate),
      ("end_date", .optionalDay calendar.lastDate),
      ("notify_config", .optional NotifyConfig.form.payload calendar.notifyConfig)]

end Calendar

end Rendezvous
