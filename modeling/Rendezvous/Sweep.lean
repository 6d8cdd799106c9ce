import Rendezvous.Slot

/-!
# Who is there at the same time

Slots of one day become intervals of minutes.  The day is cut at every end of an
interval, and each piece between neighbouring cuts is counted by the intervals that
cover it.  `coverage` says the same of a single minute without any cuts.
-/

namespace Rendezvous

structure Interval where
  start : Int
  stop : Int
deriving DecidableEq

structure Piece where
  start : Int
  stop : Int
  count : Nat
deriving DecidableEq

/-- A slot as minutes, if both of its times are times of the clock. -/
def Slot.interval? (slot : Slot) : Option Interval :=
  let start := (TimeOfDay.given slot.start).getD TimeOfDay.dayStart
  let stop := (TimeOfDay.given slot.stop).getD TimeOfDay.dayEnd
  if TimeOfDay.isValid start && TimeOfDay.isValid stop then do
    let first ← TimeOfDay.minutes? start
    let last ← TimeOfDay.minutes? stop
    pure ⟨first, last⟩
  else
    none

namespace Sweep

def spans (start stop : Int) (interval : Interval) : Bool :=
  interval.start ≤ start && stop ≤ interval.stop

/-- The number of intervals that hold the minute from `minute` to `minute + 1`. -/
def coverage (intervals : List Interval) (minute : Int) : Nat :=
  intervals.countP (spans minute (minute + 1))

def insertCut (cut : Int) : List Int → List Int
  | [] => [cut]
  | next :: rest =>
      if cut < next then cut :: next :: rest
      else if cut = next then next :: rest
      else next :: insertCut cut rest

/-- Both ends of every interval and some further cuts, in ascending order. -/
def cuts (intervals : List Interval) (further : List Int) : List Int :=
  (further ++ intervals.flatMap fun interval => [interval.start, interval.stop]).foldr
    insertCut []

def piecesBetween (intervals : List Interval) : List Int → List Piece
  | start :: stop :: rest =>
      ⟨start, stop, intervals.countP (spans start stop)⟩
        :: piecesBetween intervals (stop :: rest)
  | _ => []

def pieces (intervals : List Interval) (further : List Int) : List Piece :=
  piecesBetween intervals (cuts intervals further)

/-- The largest number of slots that share a piece of the day. -/
def maxSimultaneous (slots : List Slot) : Nat :=
  ((pieces (slots.filterMap Slot.interval?) []).map Piece.count).foldr max 0

/-- Joins pieces that reach a threshold and follow each other directly.  The count of a
joined piece is the largest of its parts. -/
def join (threshold : Int) : List Piece → List Piece
  | [] => []
  | piece :: rest =>
      if piece.count < threshold then join threshold rest
      else
        match join threshold rest with
        | next :: later =>
            if piece.stop = next.start then
              ⟨piece.start, next.stop, max piece.count next.count⟩ :: later
            else
              piece :: next :: later
        | [] => [piece]

/-- The parts of the day on which at least `threshold` slots overlap. -/
def busyPieces (slots : List Slot) (threshold : Int) : List Piece :=
  match slots.filterMap Slot.interval? with
  | [] => []
  | intervals => join threshold (pieces intervals [0, TimeOfDay.lastMinute])

/-- Minutes from the latest start to the earliest stop.  A whole day is left where no
slot gives a start, or none gives a stop. -/
def feasibleMinutes (slots : List Slot) : Except Failure Int := do
  let starts ← (slots.filterMap fun slot => TimeOfDay.given slot.start).mapM TimeOfDay.minutes
  let stops ← (slots.filterMap fun slot => TimeOfDay.given slot.stop).mapM TimeOfDay.minutes
  match starts.max?, stops.min? with
  | some latest, some earliest => pure (max 0 (earliest - latest))
  | _, _ => pure (24 * 60)

def feasibleHours (slots : List Slot) : Except Failure Double := do
  let minutes ← feasibleMinutes slots
  TimeOfDay.hours minutes

end Sweep

end Rendezvous
