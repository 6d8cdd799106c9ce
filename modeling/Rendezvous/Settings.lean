import Rendezvous.Form.Reader
import Rendezvous.Text.Case

/-!
# Settings

What the service is configured with when it starts: from named fields, or from the
environment, where every name carries a common stem and its case does not count.
-/

namespace Rendezvous

structure Settings where
  appUrl : String
  logLevel : String
  logJson : Bool
  smtpHost : Option String
  smtpPort : Int
  smtpUsername : Option String
  smtpPassword : Option String
  smtpFrom : Option String
  smtpUseTls : Bool
  smtpUseSsl : Bool
  /-- Seconds that a call to another service may take. -/
  externalTimeout : Double
  /-- Minutes within which a message is not sent again. -/
  dedupMinutes : Int
  /-- Days after which a delivery may be forgotten. -/
  retentionDays : Int
  notifyWorkers : Int
  /-- Hours for which a verification token is good. -/
  verificationHours : Int

namespace Settings

def standard : Settings where
  appUrl := "http://localhost:8080"
  logLevel := "INFO"
  logJson := false
  smtpHost := none
  smtpPort := 587
  smtpUsername := none
  smtpPassword := none
  smtpFrom := none
  smtpUseTls := true
  smtpUseSsl := false
  externalTimeout := .ofNat 10
  dedupMinutes := 60
  retentionDays := 30
  notifyWorkers := 4
  verificationHours := 24

/-- Whether mail can be sent: a host and a sender are known, and neither is empty. -/
def mailConfigured (settings : Settings) : Bool :=
  settings.smtpHost.any (· ≠ "") && settings.smtpFrom.any (· ≠ "")

def baseUrl (settings : Settings) : String :=
  Text.withoutSlashes settings.appUrl

/-- Reads settings from named fields, each with its standard value. -/
def read (fields : Fields) : Checked Settings :=
  Settings.mk
    <$> fields.defaulted "app_url" standard.appUrl Reader.text
    <*> fields.defaulted "log_level" standard.logLevel Reader.text
    <*> fields.defaulted "log_json" standard.logJson Reader.flag
    <*> fields.nullable "smtp_host" Reader.text
    <*> fields.defaulted "smtp_port" standard.smtpPort Reader.integer
    <*> fields.nullable "smtp_username" Reader.text
    <*> fields.nullable "smtp_password" Reader.text
    <*> fields.nullable "smtp_from" Reader.text
    <*> fields.defaulted "smtp_use_tls" standard.smtpUseTls Reader.flag
    <*> fields.defaulted "smtp_use_ssl" standard.smtpUseSsl Reader.flag
    <*> fields.defaulted "external_timeout_seconds" standard.externalTimeout Reader.double
    <*> fields.defaulted "notification_dedup_minutes" standard.dedupMinutes Reader.integer
    <*> fields.defaulted "notification_retention_days" standard.retentionDays Reader.integer
    <*> fields.defaulted "notify_workers" standard.notifyWorkers Reader.integer
    <*> fields.defaulted "email_verification_hours" standard.verificationHours Reader.integer

def write (settings : Settings) : Fields :=
  [("app_url", .text settings.appUrl),
    ("log_level", .text settings.logLevel),
    ("log_json", .flag settings.logJson),
    ("smtp_host", .optionalText settings.smtpHost),
    ("smtp_port", .integer settings.smtpPort),
    ("smtp_username", .optionalText settings.smtpUsername),
    ("smtp_password", .optionalText settings.smtpPassword),
    ("smtp_from", .optionalText settings.smtpFrom),
    ("smtp_use_tls", .flag settings.smtpUseTls),
    ("smtp_use_ssl", .flag settings.smtpUseSsl),
    ("external_timeout_seconds", .real settings.externalTimeout),
    ("notification_dedup_minutes", .integer settings.dedupMinutes),
    ("notification_retention_days", .integer settings.retentionDays),
    ("notify_workers", .integer settings.notifyWorkers),
    ("email_verification_hours", .integer settings.verificationHours)]

/-- What the names of the environment begin with, in lower case. -/
def stem : List Char := "quorum_".toList

def field? (entry : String × String) : Option (String × Payload) :=
  let name := entry.1.toList.map Text.small
  if stem.isPrefixOf name then
    some (String.ofList (name.drop stem.length), .text entry.2)
  else
    none

/-- Whether an environment can hold a variable: no null character ends its name or its value
early, and no equals sign its name. -/
def isHoldable (entry : String × String) : Bool :=
  !entry.1.toList.contains '=' && !entry.1.toList.contains '\x00'
    && !entry.2.toList.contains '\x00'

/-- Reads settings from the variables of the environment; of two spellings of one name
the later counts. -/
def ofEnvironment (entries : List (String × String)) : Except Failure Settings :=
  if entries.all isHoldable then (read (entries.reverse.filterMap field?)).toExcept
  else .error .unreadable

end Settings

end Rendezvous
