import Rendezvous.Delivery.Message
import Rendezvous.Holiday
import Rendezvous.Settings

/-!
# Surroundings

What the service depends on and does not change itself: its settings, the holidays,
the ways out, and when its log cannot be read or written.
-/

namespace Rendezvous

/-- The calls that fail, each on its own. -/
structure Outage (Call : Type) where
  hits : Call → Bool

namespace Outage

def none {Call : Type} : Outage Call := ⟨fun _ => false⟩

/-- Every look-up of certain recipients fails. -/
instance : Coe (String → Bool) (Outage DeliveryKey) :=
  ⟨fun fails => ⟨fun key => fails key.recipientId⟩⟩

/-- Every line is lost, or none is. -/
instance : Coe Bool (Outage Delivery) := ⟨fun fails => ⟨fun _ => fails⟩⟩

end Outage

structure Surroundings where
  settings : Settings
  holidays : Holidays
  /-- A day to take for the present one, whatever the clock says. -/
  today : Option Date
  outlets : Outlets
  /-- The deliveries that cannot be looked up. -/
  lookupFails : Outage DeliveryKey
  /-- The deliveries that cannot be written down. -/
  writeFails : Outage Delivery

end Rendezvous
