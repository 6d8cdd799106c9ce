/-!
# Requests

What callers ask for, as they wrote it: dates and times are still texts.
-/

namespace Rendezvous

structure AvailabilityRequest where
  day : String
  start : Option String
  stop : Option String
  note : Option String
deriving DecidableEq

/-- The parts of an availability to change.  A part that is not given stays; an empty
time is taken away. -/
structure AvailabilityPatch where
  start : Option (Option String)
  stop : Option (Option String)
  note : Option (Option String)
deriving DecidableEq

structure RecurrenceRequest where
  weekday : Option Int
  start : Option String
  stop : Option String
  note : Option String
  firstDate : String
  lastDate : Option String
deriving DecidableEq

structure ExclusionRequest where
  day : String
deriving DecidableEq

structure EmailRequest where
  email : String
deriving DecidableEq

end Rendezvous
