import Rendezvous.Form.Reader

/-!
# Forms

A form reads a kind of record from named fields and writes it back.  Some fields may be
left out because the service makes them up: an id, a token, or the present instant.
-/

namespace Rendezvous

/-- What the service fills in where a record leaves it out. -/
structure Preset where
  id : String
  token : String
  now : Instant

structure Form (α : Type) where
  read : Preset → Fields → Checked α
  write : α → Fields

namespace Form

variable {α β : Type}

def nested (form : Form α) (preset : Preset) : Reader α
  | .record fields => form.read preset fields
  | _ => .fault .record

def body (form : Form α) (preset : Preset) : Reader α
  | .record fields => form.read preset fields
  | _ => .fault .body

def payload (form : Form α) (value : α) : Payload :=
  .record (form.write value)

def payloads (form : Form α) (values : List α) : Payload :=
  .list (values.map form.payload)

end Form

namespace Payload

def day (date : Date) : Payload := .text date.iso

def instant (instant : Instant) : Payload := .text instant.zulu

def optionalDay (date : Option Date) : Payload := .optional day date

end Payload

end Rendezvous
