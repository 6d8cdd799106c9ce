import Rendezvous.Form.Payload
import Rendezvous.Slot

/-!
# Values of any kind

Dates and times that come without a form, so that they may be any value at all.
-/

namespace Rendezvous

/-- A date from a value; what is no text is no date either. -/
def Date.ofPayload : Payload → Except Failure Date
  | .text value => Date.request value
  | _ => .error (.refused .malformedDate)

namespace TimeOfDay

def ofPayload : Payload → Except Failure String
  | .text value => ofText value
  | _ => .error .notText

def ofPayloadOptional (payload : Payload) : Except Failure (Option String) :=
  if payload.isVacant then .ok none else (ofPayload payload).map some

end TimeOfDay

end Rendezvous
