import Rendezvous.Window
import Rendezvous.Holiday

/-!
# Calendars

A calendar is what its owner configured: the days and hours that participants may
choose, how many of them are enough, and who is told when that number is reached or
lost.
-/

namespace Rendezvous

/-- What a public holiday does to the weekdays that are allowed. -/
inductive HolidayPolicy where
  | ignore
  | allow
  | block
deriving DecidableEq

namespace HolidayPolicy

def all : List HolidayPolicy := [.ignore, .allow, .block]

def name : HolidayPolicy → String
  | .ignore => "ignore"
  | .allow => "allow"
  | .block => "block"

def ofName? (name : String) : Option HolidayPolicy :=
  all.find? fun policy => policy.name = name

end HolidayPolicy

structure AllowedHours where
  weekdays : List (Int × Window)
  holidays : Window
  holidayEves : Window
deriving DecidableEq

/-- The window of a weekday, unbounded where none is configured. -/
def AllowedHours.onWeekday (hours : AllowedHours) (weekday : Int) : Window :=
  match hours.weekdays.find? fun entry => entry.1 = weekday with
  | some entry => entry.2
  | none => .unbounded

structure WebhookChannel where
  enabled : Bool
  url : String
deriving DecidableEq

structure TelegramChannel where
  enabled : Bool
  botToken : String
  chatId : String
deriving DecidableEq

structure Channels where
  email : Bool
  discord : WebhookChannel
  slack : WebhookChannel
  telegram : TelegramChannel
deriving DecidableEq

structure Reminders where
  enabled : Bool
  hoursBefore : Nat
deriving DecidableEq

structure NotifyConfig where
  enabled : Bool
  notifyOwner : Bool
  notifyParticipants : Bool
  channels : Channels
  reminders : Reminders
deriving DecidableEq

/-- A calendar; at least one participant is needed to reach its threshold. -/
structure Calendar where
  id : String
  ownerId : String
  name : String
  publicToken : String
  timezone : String
  allowedWeekdays : List Int
  holidayPolicy : HolidayPolicy
  allowHolidayEves : Bool
  allowedHours : AllowedHours
  leastHours : Nat
  threshold : Nat
  lockParticipants : Bool
  firstDate : Option Date
  lastDate : Option Date
  notifyConfig : Option NotifyConfig
  one_le_threshold : 1 ≤ threshold
deriving DecidableEq

namespace Calendar

/-- The country that the time zone lies in. -/
def country (calendar : Calendar) (holidays : Holidays) : String :=
  holidays.zones.country calendar.timezone

def allowsWeekday (calendar : Calendar) (weekday : Int) : Bool :=
  calendar.allowedWeekdays.contains weekday

/-- The window of a weekday, whatever the holidays. -/
def weekdayWindow (calendar : Calendar) (weekday : Int) : Window :=
  calendar.allowedHours.onWeekday weekday

end Calendar

end Rendezvous
