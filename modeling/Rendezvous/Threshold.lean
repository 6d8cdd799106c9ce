import Rendezvous.Date

/-!
# Crossing the threshold

A change of the number of participants reaches the threshold, loses it, or does
neither.  A negative count before the change means that it is not known; then only
reaching can be told.
-/

namespace Rendezvous

inductive Crossing where
  | reached
  | lost
  | unchanged
deriving DecidableEq

namespace Crossing

def all : List Crossing := [.reached, .lost, .unchanged]

def name : Crossing → String
  | .reached => "threshold_reached"
  | .lost => "threshold_lost"
  | .unchanged => "none"

def classify (previous current threshold : Int) : Crossing :=
  if previous < 0 then
    if threshold ≤ current then .reached else .unchanged
  else if previous < threshold ∧ threshold ≤ current then .reached
  else if threshold ≤ previous ∧ current < threshold then .lost
  else .unchanged

end Crossing

/-- The count before a change where it could not be read. -/
def unknownCount : Int := -1

structure Transition where
  calendarId : String
  day : Date
  previous : Int
  current : Int
  threshold : Int
  crossing : Crossing
deriving DecidableEq

end Rendezvous
