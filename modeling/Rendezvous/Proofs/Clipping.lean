import Rendezvous.Proofs.Intervals
import Rendezvous.Proofs.Readable
import Rendezvous.Proofs.Rounding

/-!
# Fitting is intersection

A slot that is fitted into a window keeps the minutes that both share.  Where nothing limits the
slot, and one side of it is left open, it is kept as it is and nothing about it is checked.
-/

namespace Rendezvous

open TimeOfDay (minutes?)

/-! ## Windows -/

namespace Window

theorem isValid_iff {window : Window} :
    window.isValid ↔ (∀ text ∈ window.opens, TimeOfDay.isValid text)
      ∧ ∀ text ∈ window.closes, TimeOfDay.isValid text := by
  rw [isValid, Bool.and_eq_true, Option.all_eq_true, Option.all_eq_true]
  exact Iff.rfl

/-- The hours of a window, where a missing bound is the edge of the day. -/
def hours (window : Window) : Slot := ⟨window.opens, window.closes⟩

variable {window : Window} {leastHours : Nat} {slot : Slot} {start stop : String}
  {asked room : Interval} {first last : Int}

theorem isValid_hours (valid : window.isValid) : window.hours.IsValid := by
  obtain ⟨opens, closes⟩ := isValid_iff.mp valid
  exact ⟨opens, closes⟩

theorem bounds_of_isUnbounded (free : window.isUnbounded) :
    window.opens = none ∧ window.closes = none := by
  simpa [isUnbounded] using free

/-- A start that is not before the opening stays. -/
theorem adjustStart_of_le {opening : Int} (timely : TimeOfDay.isValid start)
    (opens : minutes? (window.opens.getD TimeOfDay.dayStart) = some opening)
    (begins : minutes? start = some first) (after : opening ≤ first) :
    window.adjustStart (some start) = .ok (some start) := by
  unfold adjustStart
  rw [TimeOfDay.given_of_isValid timely]
  cases bound : window.opens with
  | none => rfl
  | some earliest =>
    rw [bound, Option.getD_some] at opens
    have order : Ord.compare first opening ≠ .lt := by
      rw [Ne, Int.compare_eq_lt]
      omega
    simp only [TimeOfDay.compare_of_minutes? begins opens, Except.ok_bind, if_neg order]
    rfl

/-- A stop that is not after the closing stays. -/
theorem adjustStop_of_le {closing : Int} (timely : TimeOfDay.isValid stop)
    (closes : minutes? (window.closes.getD TimeOfDay.dayEnd) = some closing)
    (ends : minutes? stop = some last) (before : last ≤ closing) :
    window.adjustStop (some stop) = .ok (some stop) := by
  unfold adjustStop
  rw [TimeOfDay.given_of_isValid timely]
  cases bound : window.closes with
  | none => rfl
  | some latest =>
    rw [bound, Option.getD_some] at closes
    have order : Ord.compare last closing ≠ .gt := by
      rw [Ne, Int.compare_eq_gt]
      omega
    simp only [TimeOfDay.compare_of_minutes? ends closes, Except.ok_bind, if_neg order]
    rfl

/-- A start that is before the opening, or missing, is moved to the opening. -/
theorem exists_adjustStart (valid : window.isValid) {side : Option String}
    (valid' : ∀ text ∈ side, TimeOfDay.isValid text) {opening : Int}
    (opens : minutes? (window.opens.getD TimeOfDay.dayStart) = some opening)
    (begins : minutes? (side.getD TimeOfDay.dayStart) = some first) :
    ∃ text, window.adjustStart side = .ok (some text) ∧ TimeOfDay.isValid text
      ∧ minutes? text = some (max first opening) := by
  have bounded : TimeOfDay.isValid (window.opens.getD TimeOfDay.dayStart) :=
    (isValid_hours valid).isValid_start
  have least := (TimeOfDay.bounds_of_isValid bounded opens).1
  cases side with
  | none =>
    rw [Option.getD_none, TimeOfDay.minutes?_dayStart, Option.some.injEq] at begins
    refine ⟨_, ?_, bounded, ?_⟩
    · cases bound : window.opens <;> simp [adjustStart, bound, TimeOfDay.given]
    · rw [opens, ← begins, max_eq_right least]
  | some text =>
    rw [Option.getD_some] at begins
    have timely := valid' text rfl
    by_cases after : opening ≤ first
    · refine ⟨text, adjustStart_of_le timely opens begins after, timely, ?_⟩
      rw [begins, max_eq_left after]
    · have before : Ord.compare first opening = .lt := Int.compare_eq_lt.mpr (Int.not_le.mp after)
      refine ⟨_, ?_, bounded, ?_⟩
      · unfold adjustStart
        rw [TimeOfDay.given_of_isValid timely]
        cases bound : window.opens with
        | none =>
          -- nothing is before the start of the day
          have early := (TimeOfDay.bounds_of_isValid timely begins).1
          rw [bound, Option.getD_none, TimeOfDay.minutes?_dayStart, Option.some.injEq] at opens
          omega
        | some earliest =>
          rw [bound, Option.getD_some] at opens
          simp only [TimeOfDay.compare_of_minutes? begins opens, Except.ok_bind, before]
          rfl
      · rw [opens, max_eq_right (Int.le_of_lt (Int.not_le.mp after))]

/-- A stop that is after the closing, or missing, is moved to the closing. -/
theorem exists_adjustStop (valid : window.isValid) {side : Option String}
    (valid' : ∀ text ∈ side, TimeOfDay.isValid text) {closing : Int}
    (closes : minutes? (window.closes.getD TimeOfDay.dayEnd) = some closing)
    (ends : minutes? (side.getD TimeOfDay.dayEnd) = some last) :
    ∃ text, window.adjustStop side = .ok (some text) ∧ TimeOfDay.isValid text
      ∧ minutes? text = some (min last closing) := by
  have bounded : TimeOfDay.isValid (window.closes.getD TimeOfDay.dayEnd) :=
    (isValid_hours valid).isValid_stop
  have most := (TimeOfDay.bounds_of_isValid bounded closes).2
  cases side with
  | none =>
    rw [Option.getD_none, TimeOfDay.minutes?_dayEnd, Option.some.injEq] at ends
    refine ⟨_, ?_, bounded, ?_⟩
    · cases bound : window.closes <;> simp [adjustStop, bound, TimeOfDay.given]
    · rw [closes, ← ends, min_eq_right most]
  | some text =>
    rw [Option.getD_some] at ends
    have timely := valid' text rfl
    by_cases before : last ≤ closing
    · refine ⟨text, adjustStop_of_le timely closes ends before, timely, ?_⟩
      rw [ends, min_eq_left before]
    · have after : Ord.compare last closing = .gt := Int.compare_eq_gt.mpr (Int.not_le.mp before)
      refine ⟨_, ?_, bounded, ?_⟩
      · unfold adjustStop
        rw [TimeOfDay.given_of_isValid timely]
        cases bound : window.closes with
        | none =>
          have late := (TimeOfDay.bounds_of_isValid timely ends).2
          rw [bound, Option.getD_none, TimeOfDay.minutes?_dayEnd, Option.some.injEq] at closes
          omega
        | some latest =>
          rw [bound, Option.getD_some] at closes
          simp only [TimeOfDay.compare_of_minutes? ends closes, Except.ok_bind, after]
          rfl
      · rw [closes, min_eq_right (Int.le_of_lt (Int.not_le.mp before))]

/-- A slot is moved into a window that limits it by keeping what both share. -/
theorem exists_adjust (valid : window.isValid) (timed : slot.IsValid)
    (limited : window.isUnbounded = false ∨ slot.isComplete)
    (known : slot.interval? = some asked) (offered : window.hours.interval? = some room) :
    ∃ start stop, window.adjust slot = .ok ⟨some start, some stop⟩
      ∧ TimeOfDay.isValid start ∧ TimeOfDay.isValid stop
      ∧ minutes? start = some (asked.meet room).start
      ∧ minutes? stop = some (asked.meet room).stop := by
  obtain ⟨begins, ends⟩ := timed.minutes? known
  have bounds := (isValid_hours valid).minutes? offered
  obtain ⟨opens, closes⟩ : minutes? (window.opens.getD TimeOfDay.dayStart) = some room.start
    ∧ minutes? (window.closes.getD TimeOfDay.dayEnd) = some room.stop := bounds
  unfold adjust
  by_cases free : window.isUnbounded
  · obtain ⟨start, stop, rfl⟩ :=
      Slot.exists_of_isComplete (limited.resolve_left (by simp [free]))
    obtain ⟨⟨early, -⟩, -, late⟩ := Slot.bounds_of_interval? known
    obtain ⟨unopened, unclosed⟩ := bounds_of_isUnbounded free
    rw [unopened, Option.getD_none, TimeOfDay.minutes?_dayStart, Option.some.injEq] at opens
    rw [unclosed, Option.getD_none, TimeOfDay.minutes?_dayEnd, Option.some.injEq] at closes
    have whole : asked.meet room = asked := by
      unfold Interval.meet
      rw [← opens, ← closes, max_eq_left early, min_eq_left late]
    rw [if_pos free, whole]
    exact ⟨start, stop, rfl, timed.start start rfl, timed.stop stop rfl, begins, ends⟩
  · rw [if_neg free]
    obtain ⟨start, moved, timely, begins'⟩ := exists_adjustStart valid timed.start opens begins
    obtain ⟨stop, moved', timely', ends'⟩ := exists_adjustStop valid timed.stop closes ends
    rw [moved, moved']
    exact ⟨start, stop, rfl, timely, timely', begins', ends'⟩

/-- The length of a slot is checked in minutes. -/
theorem checkLength_eq (timely : TimeOfDay.isValid start) (timely' : TimeOfDay.isValid stop)
    (begins : minutes? start = some first) (ends : minutes? stop = some last) :
    checkLength leastHours ⟨some start, some stop⟩
      = if last ≤ first then .error (.refused .outsideAllowedHours)
        else if last - first < 60 * leastHours then .error (.refused .tooShort)
        else .ok () := by
  unfold checkLength
  simp only [TimeOfDay.given_of_isValid timely, TimeOfDay.given_of_isValid timely',
    TimeOfDay.compare_of_minutes? begins ends, Except.ok_bind]
  by_cases backward : last ≤ first
  · have order : Ord.compare first last ≠ .lt := by
      rw [Ne, Int.compare_eq_lt]
      omega
    rw [if_pos order, if_pos backward]
  · have order : ¬ Ord.compare first last ≠ .lt :=
      not_not.mpr (Int.compare_eq_lt.mpr (Int.not_le.mp backward))
    rw [if_neg order, if_neg backward]
    by_cases free : leastHours = 0
    · rw [if_pos free, if_neg (by omega)]
    · have early := (TimeOfDay.bounds_of_isValid timely begins).1
      have late := (TimeOfDay.bounds_of_isValid timely' ends).2
      have day : TimeOfDay.lastMinute = 1439 := rfl
      have whole : max (last - first) 0 = ((last - first).toNat : Int) := by omega
      have within : (last - first).toNat ≤ 1440 := by omega
      obtain ⟨hours, reckoned, -, below⟩ := TimeOfDay.exists_hours within
      rw [if_neg free, TimeOfDay.minutesBetween_of_minutes? begins ends, Except.ok_bind, whole,
        reckoned, Except.ok_bind]
      have same : hours.isBelow leastHours ↔ last - first < 60 * leastHours := by
        rw [below]
        omega
      simp only [same]

/-- A slot that a window limits comes out of it as what both share, where that is enough. -/
theorem exists_fit (leastHours : Nat) (valid : window.isValid) (timed : slot.IsValid)
    (limited : window.isUnbounded = false ∨ slot.isComplete)
    (known : slot.interval? = some asked) (offered : window.hours.interval? = some room) :
    let shared := asked.inOrder.meet room
    ∃ start stop, TimeOfDay.isValid start ∧ TimeOfDay.isValid stop
      ∧ minutes? start = some shared.start ∧ minutes? stop = some shared.stop
      ∧ (slot.IsInstant asked → window.fit leastHours slot = .error (.refused .emptyTimeRange))
      ∧ (¬ slot.IsInstant asked → window.fit leastHours slot
        = if shared.stop ≤ shared.start then .error (.refused .outsideAllowedHours)
          else if shared.length < 60 * leastHours then .error (.refused .tooShort)
          else .ok ⟨some start, some stop⟩) := by
  intro shared
  obtain ⟨ordered, inOrder, timed', known', complete, empty, decided, settled⟩ :=
    Slot.exists_ordered timed known
  rw [← complete] at limited
  obtain ⟨start, stop, moved, timely, timely', begins, ends⟩ :=
    exists_adjust valid timed' limited known' offered
  refine ⟨start, stop, timely, timely', begins, ends, ?_, ?_⟩
  · intro instant
    rw [fit, inOrder, Except.ok_bind, decided, Except.ok_bind, if_pos (settled.mpr instant)]
  · intro lasting
    rw [fit, inOrder, Except.ok_bind, decided, Except.ok_bind,
      if_neg fun void => lasting (settled.mp void), moved, Except.ok_bind,
      checkLength_eq timely timely' begins ends]
    unfold Interval.length
    split
    · rfl
    · split <;> rfl

/-- Whatever comes out of a window that limits it has two times, between which there is enough
time. -/
theorem exists_of_fit_eq_ok (valid : window.isValid) (timed : slot.IsValid)
    (limited : window.isUnbounded = false ∨ slot.isComplete)
    (known : slot.interval? = some asked) (offered : window.hours.interval? = some room)
    {fitted : Slot} (fits : window.fit leastHours slot = .ok fitted) :
    ∃ start stop, fitted = ⟨some start, some stop⟩
      ∧ TimeOfDay.isValid start ∧ TimeOfDay.isValid stop
      ∧ minutes? start = some (asked.inOrder.meet room).start
      ∧ minutes? stop = some (asked.inOrder.meet room).stop
      ∧ (asked.inOrder.meet room).start < (asked.inOrder.meet room).stop
      ∧ 60 * leastHours ≤ (asked.inOrder.meet room).length := by
  obtain ⟨start, stop, timely, timely', begins, ends, void, lasts⟩ :=
    exists_fit leastHours valid timed limited known offered
  by_cases instant : slot.IsInstant asked
  · rw [void instant] at fits
    cases fits
  · rw [lasts instant] at fits
    split at fits
    · cases fits
    next forward =>
      split at fits
      · cases fits
      next long =>
        cases fits
        exact ⟨start, stop, rfl, timely, timely', begins, ends, Int.not_le.mp forward,
          Int.not_lt.mp long⟩

/-! ## Fitting again, and fitting the other way round -/

section Complete

variable (timely : TimeOfDay.isValid start) (timely' : TimeOfDay.isValid stop)
  (begins : minutes? start = some first) (ends : minutes? stop = some last)

include timely timely' begins ends

/-- A slot that is long enough and inside the window stays. -/
theorem fit_of_within (valid : window.isValid) (offered : window.hours.interval? = some room)
    (after : room.start ≤ first) (forward : first < last) (before : last ≤ room.stop)
    (long : 60 * leastHours ≤ last - first) :
    window.fit leastHours ⟨some start, some stop⟩ = .ok ⟨some start, some stop⟩ := by
  have bounds := (isValid_hours valid).minutes? offered
  have stays : window.adjust ⟨some start, some stop⟩ = .ok ⟨some start, some stop⟩ := by
    unfold adjust
    split
    · rfl
    · rw [adjustStart_of_le timely bounds.1 begins after,
        adjustStop_of_le timely' bounds.2 ends before]
      rfl
  rw [fit, Slot.ordered_complete timely timely' begins ends, if_neg (by omega), Except.ok_bind,
    Slot.isEmpty_complete timely timely' begins ends, Except.ok_bind, if_neg (by simp; omega),
    stays, Except.ok_bind, checkLength_eq timely timely' begins ends, if_neg (by omega),
    if_neg (by omega)]
  rfl

/-- Times are an unordered pair. -/
theorem fit_swap (window : Window) (leastHours : Nat) :
    window.fit leastHours ⟨some stop, some start⟩
      = window.fit leastHours ⟨some start, some stop⟩ := by
  have straight := Slot.ordered_complete timely timely' begins ends
  have turned := Slot.ordered_complete timely' timely ends begins
  rcases Int.lt_trichotomy first last with forward | same | backward
  · rw [if_neg (by omega)] at straight
    rw [if_pos forward] at turned
    rw [fit, fit, straight, turned]
  · have empty := Slot.isEmpty_complete timely timely' begins ends
    have empty' := Slot.isEmpty_complete timely' timely ends begins
    rw [if_neg (by omega)] at straight turned
    rw [fit, fit, straight, turned, Except.ok_bind, Except.ok_bind, empty, empty', Except.ok_bind,
      Except.ok_bind, if_pos (by simp [same]), if_pos (by simp [same])]
  · rw [if_pos backward] at straight
    rw [if_neg (by omega)] at turned
    rw [fit, fit, straight, turned]

end Complete

/-- How a slot fits into a window: two times that are the same minute are no range, and of any other
slot what it shares with the hours of the window is left, where that is a range and long enough. -/
structure Clips (window : Window) (leastHours : Nat) (slot : Slot) (asked room : Interval) :
    Prop where
  instant : window.fit leastHours slot = .error (.refused .emptyTimeRange) ↔ slot.IsInstant asked
  outside : ¬ slot.IsInstant asked →
    (window.fit leastHours slot = .error (.refused .outsideAllowedHours)
      ↔ ¬ asked.inOrder.Overlaps room)
  short : ¬ slot.IsInstant asked → asked.inOrder.Overlaps room →
    (window.fit leastHours slot = .error (.refused .tooShort)
      ↔ (asked.inOrder.meet room).length < 60 * leastHours)
  shared : ¬ slot.IsInstant asked → asked.inOrder.Overlaps room →
    ¬ (asked.inOrder.meet room).length < 60 * leastHours →
    ∃ fitted, window.fit leastHours slot = .ok fitted ∧ fitted.IsValid ∧ fitted.isComplete
      ∧ fitted.interval? = some (asked.inOrder.meet room)

theorem clips (leastHours : Nat) (valid : window.isValid) (timed : slot.IsValid)
    (limited : window.isUnbounded = false ∨ slot.isComplete)
    (known : slot.interval? = some asked) (offered : window.hours.interval? = some room) :
    window.Clips leastHours slot asked room := by
  obtain ⟨start, stop, timely, timely', begins, ends, void, lasts⟩ :=
    exists_fit leastHours valid timed limited known offered
  refine ⟨⟨?_, void⟩, ?_, ?_, ?_⟩
  · intro refused
    by_contra lasting
    rw [lasts lasting] at refused
    split at refused
    · cases refused
    · split at refused <;> cases refused
  · intro lasting
    rw [lasts lasting, Interval.overlaps_iff, Int.not_lt]
    split
    next apart => simp [apart]
    next meets =>
      split <;> simp [meets]
  · intro lasting overlaps
    rw [lasts lasting, if_neg (Int.not_le.mpr (Interval.overlaps_iff.mp overlaps))]
    split
    next short => simp [short]
    next long => simp [long]
  · intro lasting overlaps long
    rw [lasts lasting, if_neg (Int.not_le.mpr (Interval.overlaps_iff.mp overlaps)), if_neg long]
    exact ⟨_, rfl, Slot.isValid_complete timely timely', rfl,
      Slot.interval?_complete timely timely' begins ends⟩

/-- Where a window has a bound, or a slot both times, fitting the slot into the window takes what
both share: it fails where they share nothing or too little, and gives just that otherwise.  The
order of the two times does not matter, and what fits once is not changed again. -/
theorem fit_is_intersection (leastHours : Nat) (window : Window) (slot : Slot)
    (valid : window.isValid) (timed : slot.IsValid)
    (limited : window.isUnbounded = false ∨ slot.isComplete) :
    (∃ asked room, slot.interval? = some asked ∧ window.hours.interval? = some room
      ∧ window.Clips leastHours slot asked room)
    ∧ (slot.isComplete →
      window.fit leastHours ⟨slot.stop, slot.start⟩ = window.fit leastHours slot)
    ∧ ∀ fitted, window.fit leastHours slot = .ok fitted →
      window.fit leastHours fitted = .ok fitted := by
  obtain ⟨asked, known⟩ := timed.exists_interval?
  obtain ⟨room, offered⟩ := (isValid_hours valid).exists_interval?
  refine ⟨⟨asked, room, known, offered, clips leastHours valid timed limited known offered⟩, ?_, ?_⟩
  · intro complete
    obtain ⟨start, stop, rfl⟩ := Slot.exists_of_isComplete complete
    obtain ⟨begins, ends⟩ := timed.minutes? known
    exact fit_swap (timed.start start rfl) (timed.stop stop rfl) begins ends window leastHours
  · intro fitted fits
    obtain ⟨start, stop, rfl, timely, timely', begins, ends, forward, long⟩ :=
      exists_of_fit_eq_ok valid timed limited known offered fits
    apply fit_of_within timely timely' begins ends valid offered _ forward _ long
    · exact Int.le_max_right _ _
    · exact Int.min_le_right _ _

/-- Two times the wrong way round, in a window with one bound. -/
theorem fit_is_intersection_turned :
    let window : Window := ⟨some "9:00", none⟩
    let slot : Slot := ⟨some "18:30", some "07:30"⟩
    window.isValid ∧ slot.IsValid ∧ slot.isComplete
    ∧ window.Clips 2 slot ⟨1110, 450⟩ ⟨540, 1439⟩
    ∧ window.fit 2 slot = .ok ⟨some "9:00", some "18:30"⟩
    ∧ window.fit 2 ⟨some "07:30", some "18:30"⟩ = window.fit 2 slot
    ∧ window.fit 2 ⟨some "9:00", some "18:30"⟩ = .ok ⟨some "9:00", some "18:30"⟩ := by
  intro window slot
  have valid : window.isValid := by decide +kernel
  have timed : slot.IsValid := by constructor <;> decide +kernel
  have fits : window.fit 2 slot = .ok ⟨some "9:00", some "18:30"⟩ := by decide +kernel
  obtain ⟨⟨asked, room, known, offered, clips⟩, turned, again⟩ :=
    fit_is_intersection 2 window slot valid timed (.inr rfl)
  have asked_eq : slot.interval? = some ⟨1110, 450⟩ := by decide +kernel
  have room_eq : window.hours.interval? = some ⟨540, 1439⟩ := by decide +kernel
  cases asked_eq.symm.trans known
  cases room_eq.symm.trans offered
  exact ⟨valid, timed, rfl, clips, fits, turned rfl, again _ fits⟩

end Window

/-! ## What is accepted -/

/-- A slot that adds to its date: its interval is not empty, and whoever else is there, one more is
counted at some minute. -/
structure Slot.Adds (slot : Slot) (interval : Interval) : Prop where
  forward : interval.start < interval.stop
  counted : ∀ others, ∃ minute, Sweep.coverage ((slot :: others).filterMap Slot.interval?) minute
    = Sweep.coverage (others.filterMap Slot.interval?) minute + 1

/-- An interval that is no more than the first or the last minute of a day. -/
def Interval.AtEdge (interval : Interval) : Prop :=
  interval = ⟨0, 0⟩ ∨ interval = ⟨TimeOfDay.lastMinute, TimeOfDay.lastMinute⟩

namespace Slot

variable {slot : Slot} {interval : Interval}

theorem adds_of_forward (known : slot.interval? = some interval)
    (forward : interval.start < interval.stop) : slot.Adds interval := by
  refine ⟨forward, fun others => ⟨interval.start, ?_⟩⟩
  have here : Sweep.spans interval.start (interval.start + 1) interval :=
    Interval.spans_iff.mpr ⟨Int.le_refl _, forward⟩
  rw [List.filterMap_cons_some known, Sweep.coverage, List.countP_cons_of_pos here, Sweep.coverage]

/-- A slot that lacks a time lasts to the edge of the day, so it is empty only at that edge. -/
theorem adds_of_incomplete (valid : slot.IsValid) (known : slot.interval? = some interval)
    (half : slot.isComplete = false) (inside : ¬ interval.AtEdge) : slot.Adds interval := by
  apply adds_of_forward known
  have ordered := forward_of_incomplete valid known half
  apply lt_of_le_of_ne ordered
  intro same
  apply inside
  obtain ⟨begins, ends⟩ := valid.minutes? known
  rcases interval with ⟨first, last⟩
  dsimp only at same begins ends
  subst same
  rcases slot with ⟨_ | start, _ | stop⟩
  · exact .inl (by simpa [TimeOfDay.minutes?_dayStart, eq_comm] using begins)
  · exact .inl (by simpa [TimeOfDay.minutes?_dayStart, eq_comm] using begins)
  · exact .inr (by simpa [TimeOfDay.minutes?_dayEnd, eq_comm] using ends)
  · cases half

/-- What a whole day lasts is not a point. -/
theorem not_atEdge_of_isWholeDay (whole : slot.isWholeDay) (known : slot.interval? = some interval) :
    ¬ interval.AtEdge := by
  rcases slot with ⟨_ | start, _ | stop⟩ <;> simp [isWholeDay] at whole
  have day : (⟨none, none⟩ : Slot).interval? = some ⟨0, TimeOfDay.lastMinute⟩ := by decide
  cases day.symm.trans known
  unfold Interval.AtEdge
  decide

theorem isHalf_iff : slot.isHalf ↔ slot.isComplete = false ∧ slot.isWholeDay = false := by
  rcases slot with ⟨_ | start, _ | stop⟩ <;> simp [isHalf, isComplete, isWholeDay]

end Slot

namespace Window

variable {window : Window} {leastHours : Nat} {slot : Slot}

/-- Where nothing limits a slot it is kept as it is, and nothing about it is checked. -/
theorem fit_of_unlimited (free : window.isUnbounded) (half : slot.isComplete = false) :
    window.fit leastHours slot = .ok slot := by
  have unchecked : checkLength leastHours slot = .ok () := by
    rcases slot with ⟨_ | start, _ | stop⟩ <;> simp [Slot.isComplete] at half <;>
      simp [checkLength, TimeOfDay.given]
  rw [fit, Slot.ordered_of_incomplete half, Except.ok_bind, Slot.isEmpty_of_incomplete half,
    Except.ok_bind, if_neg Bool.false_ne_true, adjust, if_pos free, Except.ok_bind, unchecked]
  rfl

/-- Whatever a window accepts adds to its date, unless the window has no bound and the slot nothing
but a time at the edge of the day.  It is long enough, unless it is the whole day, or the window has
no bound and the slot lacks one time. -/
theorem accepted_adds (leastHours : Nat) (window : Window) (slot fitted : Slot)
    (valid : window.isValid) (timed : slot.IsValid)
    (fits : window.fit leastHours slot = .ok fitted) :
    ∃ interval, fitted.interval? = some interval
      ∧ (¬ (window.isUnbounded ∧ slot.isHalf ∧ interval.AtEdge) → fitted.Adds interval)
      ∧ (fitted.isWholeDay = false → ¬ (window.isUnbounded ∧ slot.isHalf) →
        60 * leastHours ≤ interval.length) := by
  obtain ⟨asked, known⟩ := timed.exists_interval?
  obtain ⟨room, offered⟩ := (isValid_hours valid).exists_interval?
  by_cases limited : window.isUnbounded = false ∨ slot.isComplete
  · obtain ⟨start, stop, rfl, timely, timely', begins, ends, forward, long⟩ :=
      exists_of_fit_eq_ok valid timed limited known offered fits
    have shared := Slot.interval?_complete timely timely' begins ends
    exact ⟨_, shared, fun _ => Slot.adds_of_forward shared forward, fun _ _ => long⟩
  · rw [not_or, Bool.not_eq_false, Bool.not_eq_true] at limited
    obtain ⟨free, half⟩ := limited
    rw [fit_of_unlimited free half] at fits
    cases fits
    refine ⟨asked, known, fun kept => ?_, fun given lasting => ?_⟩
    · apply Slot.adds_of_incomplete timed known half
      intro edge
      by_cases whole : slot.isWholeDay
      · exact Slot.not_atEdge_of_isWholeDay whole known edge
      · exact kept ⟨free, Slot.isHalf_iff.mpr ⟨half, Bool.eq_false_iff.mpr whole⟩, edge⟩
    · exact absurd ⟨free, Slot.isHalf_iff.mpr ⟨half, given⟩⟩ lasting

/-- An evening that is open at its end is closed by the edge of the day, and long enough. -/
theorem accepted_adds_evening :
    (⟨some "9:00", none⟩ : Window).isValid ∧ (⟨some "18:30", none⟩ : Slot).IsValid
    ∧ (⟨some "9:00", none⟩ : Window).fit 2 ⟨some "18:30", none⟩
      = .ok ⟨some "18:30", some "23:59"⟩
    ∧ ∃ interval, (⟨some "18:30", some "23:59"⟩ : Slot).interval? = some interval
      ∧ interval.start < interval.stop ∧ 120 ≤ interval.length := by
  have valid : (⟨some "9:00", none⟩ : Window).isValid := by decide +kernel
  have timed : (⟨some "18:30", none⟩ : Slot).IsValid := by
    constructor <;> decide +kernel
  have fits : (⟨some "9:00", none⟩ : Window).fit 2 ⟨some "18:30", none⟩
      = .ok ⟨some "18:30", some "23:59"⟩ := by decide +kernel
  obtain ⟨interval, known, adds, long⟩ := accepted_adds 2 _ _ _ valid timed fits
  refine ⟨valid, timed, fits, interval, known, (adds ?_).forward, long rfl ?_⟩
  · rintro ⟨⟨⟩, -⟩
  · rintro ⟨⟨⟩, -⟩

/-- Without a bound, a start at the last minute is accepted although it leaves no time, and one so
late that there is less time than the least as well. -/
theorem accepts_late_starts :
    unbounded.isValid ∧ (⟨some "23:59", none⟩ : Slot).IsValid
    ∧ (⟨some "22:30", none⟩ : Slot).IsValid
    ∧ unbounded.fit 0 ⟨some "23:59", none⟩ = .ok ⟨some "23:59", none⟩
    ∧ (⟨some "23:59", none⟩ : Slot).interval? = some ⟨1439, 1439⟩
    ∧ unbounded.fit 2 ⟨some "22:30", none⟩ = .ok ⟨some "22:30", none⟩
    ∧ (⟨some "22:30", none⟩ : Slot).interval? = some ⟨1350, 1439⟩ := by
  refine ⟨by decide, ⟨?_, ?_⟩, ⟨?_, ?_⟩, ?_⟩ <;> decide +kernel

end Window

end Rendezvous
