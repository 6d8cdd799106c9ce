import Rendezvous.Proofs.Coverage
import Rendezvous.Proofs.Decisions

/-!
# Slots as intervals

A slot with valid times is an interval of minutes, where the edges of the day stand for times that
are missing.  What is done to the times of a slot is said of its interval.
-/

namespace Rendezvous

/-! ## Valid times -/

namespace TimeOfDay

theorem isValid_empty : isValid "" = false := by decide

/-- A valid time is given. -/
theorem given_of_isValid {text : String} (valid : isValid text) :
    given (some text) = some text := by
  have filled : text ≠ "" := by
    rintro rfl
    simp [isValid_empty] at valid
  simp [given, filled]

theorem minutes_of_minutes? {text : String} {minutes : Int}
    (known : minutes? text = some minutes) : TimeOfDay.minutes text = .ok minutes := by
  rw [TimeOfDay.minutes, known]

theorem minutesBetween_of_minutes? {start stop : String} {first last : Int}
    (early : minutes? start = some first) (late : minutes? stop = some last) :
    minutesBetween start stop = .ok (max (last - first) 0) := by
  rw [minutesBetween, minutes_of_minutes? late, Except.ok_bind, minutes_of_minutes? early]
  rfl

theorem compare_of_minutes? {a b : String} {first second : Int}
    (early : minutes? a = some first) (late : minutes? b = some second) :
    compare a b = .ok (Ord.compare first second) := by
  rw [compare, minutes_of_minutes? early, Except.ok_bind, minutes_of_minutes? late]
  rfl

theorem minutes?_dayStart : minutes? dayStart = some 0 := by decide

theorem minutes?_dayEnd : minutes? dayEnd = some lastMinute := by decide

/-- Valid times are within the day. -/
theorem bounds_of_isValid {text : String} {minute : Int} (valid : isValid text)
    (known : minutes? text = some minute) : 0 ≤ minute ∧ minute ≤ lastMinute := by
  obtain ⟨minute', small, known'⟩ := legible_of_isValid valid
  cases known.symm.trans known'
  exact ⟨Int.natCast_nonneg _, Int.ofNat_le.mpr small⟩

end TimeOfDay

open TimeOfDay (minutes?)

/-! ## Intervals -/

namespace Interval

variable {a b : Interval} {start stop : Int}

/-- An interval with its ends in order. -/
def inOrder (interval : Interval) : Interval :=
  ⟨min interval.start interval.stop, max interval.start interval.stop⟩

def length (interval : Interval) : Int := interval.stop - interval.start

/-- What two intervals share; where that is nothing, it does not end after it starts. -/
def meet (a b : Interval) : Interval :=
  ⟨max a.start b.start, min a.stop b.stop⟩

/-- Two intervals that share at least a minute. -/
def Overlaps (a b : Interval) : Prop :=
  ∃ start stop, start < stop ∧ Sweep.spans start stop a ∧ Sweep.spans start stop b

theorem inOrder_of_le (forward : a.start ≤ a.stop) : a.inOrder = a := by
  unfold inOrder
  congr 1 <;> omega

theorem inOrder_of_lt (backward : a.stop < a.start) : a.inOrder = ⟨a.stop, a.start⟩ := by
  unfold inOrder
  congr 1 <;> omega

theorem spans_iff : Sweep.spans start stop a ↔ a.start ≤ start ∧ stop ≤ a.stop := by
  simp [Sweep.spans]

theorem spans_meet :
    Sweep.spans start stop (a.meet b) ↔ Sweep.spans start stop a ∧ Sweep.spans start stop b := by
  simp only [spans_iff, meet]
  omega

theorem overlaps_iff : a.Overlaps b ↔ (a.meet b).start < (a.meet b).stop := by
  constructor
  · rintro ⟨start, stop, forward, own, other⟩
    have shared := spans_iff.mp (spans_meet.mpr ⟨own, other⟩)
    omega
  · intro forward
    refine ⟨_, _, forward, spans_meet.mp (spans_iff.mpr ?_)⟩
    exact ⟨Int.le_refl _, Int.le_refl _⟩

end Interval

/-! ## Slots -/

/-- Times that are missing or valid. -/
structure Slot.IsValid (slot : Slot) : Prop where
  start : ∀ text ∈ slot.start, TimeOfDay.isValid text
  stop : ∀ text ∈ slot.stop, TimeOfDay.isValid text

namespace Slot

/-- Whether a slot has both times. -/
def isComplete (slot : Slot) : Bool :=
  slot.start.isSome && slot.stop.isSome

/-- Whether a slot has neither time. -/
def isWholeDay (slot : Slot) : Bool :=
  slot.start.isNone && slot.stop.isNone

/-- Whether a slot has one time, and its other side is left open. -/
def isHalf (slot : Slot) : Bool :=
  slot.start.isSome != slot.stop.isSome

/-- Both times are there and are the same minute. -/
def IsInstant (slot : Slot) (asked : Interval) : Prop :=
  slot.isComplete ∧ asked.start = asked.stop

variable {slot : Slot} {start stop : String} {asked : Interval} {first last : Int}

theorem isValid_complete (timely : TimeOfDay.isValid start) (timely' : TimeOfDay.isValid stop) :
    IsValid ⟨some start, some stop⟩ := by
  constructor <;> rintro _ ⟨⟩ <;> assumption

theorem IsValid.opening_eq (valid : slot.IsValid) :
    slot.opening = slot.start.getD TimeOfDay.dayStart := by
  unfold opening
  cases begins : slot.start with
  | none => rfl
  | some start => rw [TimeOfDay.given_of_isValid (valid.start start begins)]

theorem IsValid.closing_eq (valid : slot.IsValid) :
    slot.closing = slot.stop.getD TimeOfDay.dayEnd := by
  unfold closing
  cases ends : slot.stop with
  | none => rfl
  | some stop => rw [TimeOfDay.given_of_isValid (valid.stop stop ends)]

theorem IsValid.isValid_start (valid : slot.IsValid) :
    TimeOfDay.isValid (slot.start.getD TimeOfDay.dayStart) := by
  cases begins : slot.start with
  | none => decide
  | some start => exact valid.start start begins

theorem IsValid.isValid_stop (valid : slot.IsValid) :
    TimeOfDay.isValid (slot.stop.getD TimeOfDay.dayEnd) := by
  cases ends : slot.stop with
  | none => decide
  | some stop => exact valid.stop stop ends

theorem IsValid.isTimed (valid : slot.IsValid) : slot.isTimed := by
  unfold Slot.isTimed
  rw [valid.opening_eq, valid.closing_eq, valid.isValid_start, valid.isValid_stop]
  rfl

theorem IsValid.exists_interval? (valid : slot.IsValid) : ∃ asked, slot.interval? = some asked :=
  Option.isSome_iff_exists.mp (slot.isSome_interval?.trans valid.isTimed)

/-- The ends of the interval are the minutes of the times, or of the edges of the day. -/
theorem IsValid.minutes? (valid : slot.IsValid) (known : slot.interval? = some asked) :
    TimeOfDay.minutes? (slot.start.getD TimeOfDay.dayStart) = some asked.start
      ∧ TimeOfDay.minutes? (slot.stop.getD TimeOfDay.dayEnd) = some asked.stop := by
  rw [← valid.opening_eq, ← valid.closing_eq]
  exact (interval?_eq_some_iff.mp known).2

theorem exists_of_isComplete (complete : slot.isComplete) :
    ∃ start stop, slot = ⟨some start, some stop⟩ := by
  rcases slot with ⟨_ | start, _ | stop⟩ <;> simp [isComplete] at complete
  exact ⟨start, stop, rfl⟩

theorem ordered_of_incomplete (half : slot.isComplete = false) : slot.ordered = .ok slot := by
  rcases slot with ⟨_ | start, _ | stop⟩ <;> simp [isComplete] at half <;>
    simp [ordered, TimeOfDay.given]

theorem isEmpty_of_incomplete (half : slot.isComplete = false) : slot.isEmpty = .ok false := by
  rcases slot with ⟨_ | start, _ | stop⟩ <;> simp [isComplete] at half <;>
    simp [isEmpty, TimeOfDay.given]

/-- A missing side is an edge of the day, so the other one is not out of order. -/
theorem forward_of_incomplete (valid : slot.IsValid) (known : slot.interval? = some asked)
    (half : slot.isComplete = false) : asked.start ≤ asked.stop := by
  obtain ⟨begins, ends⟩ := valid.minutes? known
  obtain ⟨⟨early, early'⟩, late, late'⟩ := bounds_of_interval? known
  cases here : slot.start with
  | none =>
    simp only [here, Option.getD_none, TimeOfDay.minutes?_dayStart, Option.some.injEq] at begins
    omega
  | some start =>
    have room : slot.stop = none := by
      simpa [isComplete, here] using half
    simp only [room, Option.getD_none, TimeOfDay.minutes?_dayEnd, Option.some.injEq] at ends
    omega

section Complete

variable (timely : TimeOfDay.isValid start) (timely' : TimeOfDay.isValid stop)
  (begins : minutes? start = some first) (ends : minutes? stop = some last)

include timely timely' begins ends

/-- Two valid times are the ends of an interval. -/
theorem interval?_complete :
    (⟨some start, some stop⟩ : Slot).interval? = some ⟨first, last⟩ := by
  apply interval?_eq_some_iff.mpr
  simp [isTimed, opening, closing, TimeOfDay.given_of_isValid, timely, timely', begins, ends]

theorem ordered_complete :
    (⟨some start, some stop⟩ : Slot).ordered
      = .ok (if last < first then ⟨some stop, some start⟩ else ⟨some start, some stop⟩) := by
  simp only [ordered, TimeOfDay.given_of_isValid timely, TimeOfDay.given_of_isValid timely',
    TimeOfDay.compare_of_minutes? begins ends, Except.ok_bind, Int.compare_eq_gt]
  rfl

theorem isEmpty_complete :
    (⟨some start, some stop⟩ : Slot).isEmpty = .ok (decide (first = last)) := by
  simp only [isEmpty, TimeOfDay.given_of_isValid timely, TimeOfDay.given_of_isValid timely',
    TimeOfDay.compare_of_minutes? begins ends, Except.ok_bind, Int.compare_eq_eq]
  rfl

end Complete

/-- A slot is put in order as its interval is, and is empty where two times are the same minute. -/
theorem exists_ordered (valid : slot.IsValid) (known : slot.interval? = some asked) :
    ∃ ordered, slot.ordered = .ok ordered ∧ ordered.IsValid
      ∧ ordered.interval? = some asked.inOrder ∧ ordered.isComplete = slot.isComplete
      ∧ ∃ empty, ordered.isEmpty = .ok empty ∧ (empty ↔ slot.IsInstant asked) := by
  by_cases complete : slot.isComplete
  · obtain ⟨start, stop, rfl⟩ := exists_of_isComplete complete
    obtain ⟨begins, ends⟩ := valid.minutes? known
    have timely := valid.start start rfl
    have timely' := valid.stop stop rfl
    rw [ordered_complete timely timely' begins ends]
    by_cases backward : asked.stop < asked.start
    · rw [if_pos backward, Interval.inOrder_of_lt backward]
      refine ⟨_, rfl, isValid_complete timely' timely,
        interval?_complete timely' timely ends begins, rfl, _,
        isEmpty_complete timely' timely ends begins, ?_⟩
      simp [IsInstant, complete, eq_comm]
    · rw [if_neg backward, Interval.inOrder_of_le (Int.not_lt.mp backward)]
      refine ⟨_, rfl, valid, known, rfl, _, isEmpty_complete timely timely' begins ends, ?_⟩
      simp [IsInstant, complete]
  · have half := Bool.eq_false_iff.mpr complete
    rw [Interval.inOrder_of_le (forward_of_incomplete valid known half)]
    refine ⟨slot, ordered_of_incomplete half, valid, known, rfl, _, isEmpty_of_incomplete half, ?_⟩
    simp [IsInstant, half]

end Slot

end Rendezvous
