import Rendezvous.Proofs.Keeping

/-!
# Combined hours never narrow

Two windows can count on a day, that of its weekday and that of the holiday or the eve it is.  The
window of the day is made of both, and takes in whatever lies inside one of them that has both
bounds: such a slot is neither moved nor refused, unless it is too short.
-/

namespace Rendezvous

open TimeOfDay (minutes?)

/-! ## The hours of two windows -/

namespace Interval

variable {a b : Interval} {start stop : Int}

/-- The least interval that takes in two. -/
def hull (a b : Interval) : Interval :=
  ⟨min a.start b.start, max a.stop b.stop⟩

theorem spans_hull (inside : Sweep.spans start stop a ∨ Sweep.spans start stop b) :
    Sweep.spans start stop (a.hull b) := by
  simp only [spans_iff, hull] at inside ⊢
  omega

end Interval

namespace TimeOfDay

variable {a b : String} {first second : Int}

theorem exists_earlier (known : minutes? a = some first) (known' : minutes? b = some second) :
    ∃ time, earlier a b = .ok time ∧ minutes? time = some (min first second) := by
  refine ⟨_, by rw [earlier, compare_of_minutes? known known', Except.ok_bind]; rfl, ?_⟩
  split
  next order =>
    rw [known', min_eq_right (Int.le_of_lt (Int.compare_eq_gt.mp order))]
  next order =>
    rw [Int.compare_eq_gt, Int.not_lt] at order
    rw [known, min_eq_left order]

theorem exists_later (known : minutes? a = some first) (known' : minutes? b = some second) :
    ∃ time, later a b = .ok time ∧ minutes? time = some (max first second) := by
  refine ⟨_, by rw [later, compare_of_minutes? known known', Except.ok_bind]; rfl, ?_⟩
  split
  next order =>
    rw [known', max_eq_right (Int.le_of_lt (Int.compare_eq_lt.mp order))]
  next order =>
    rw [Int.compare_eq_lt, Int.not_lt] at order
    rw [known, max_eq_left order]

end TimeOfDay

namespace Window

variable {window special weekday : Window} {leastHours : Nat} {start stop : String}
  {first last : Int}

/-- A window that has both bounds, with a start and a stop between them. -/
structure Holds (window : Window) (first last : Int) : Prop where
  bounded : window.hours.isComplete
  inside : ∃ room, window.hours.interval? = some room ∧ Sweep.spans first last room

/-- Two windows that have both bounds come to the least that takes in both. -/
theorem combine_of_bounded (valid : special.isValid) (valid' : weekday.isValid)
    (bounded : special.hours.isComplete) (bounded' : weekday.hours.isComplete) {a b : Interval}
    (known : special.hours.interval? = some a) (known' : weekday.hours.interval? = some b) :
    ∃ window, special.combine weekday = .ok window ∧ window.hours.isComplete
      ∧ window.hours.interval? = some (a.hull b) := by
  obtain ⟨specialOpens, specialCloses, whole⟩ := Slot.exists_of_isComplete bounded
  obtain ⟨weekdayOpens, weekdayCloses, whole'⟩ := Slot.exists_of_isComplete bounded'
  obtain ⟨opens, closes⟩ : special.opens = some specialOpens
      ∧ special.closes = some specialCloses :=
    ⟨congrArg Slot.start whole, congrArg Slot.stop whole⟩
  obtain ⟨opens', closes'⟩ : weekday.opens = some weekdayOpens
      ∧ weekday.closes = some weekdayCloses :=
    ⟨congrArg Slot.start whole', congrArg Slot.stop whole'⟩
  have bounds := (isValid_hours valid).minutes? known
  have bounds' := (isValid_hours valid').minutes? known'
  rw [whole] at bounds
  rw [whole'] at bounds'
  obtain ⟨opening, early, begins⟩ := TimeOfDay.exists_earlier bounds.1 bounds'.1
  obtain ⟨closing, late, ends⟩ := TimeOfDay.exists_later bounds.2 bounds'.2
  simp only [Option.getD_some] at early late
  have combined : special.combine weekday = .ok ⟨some opening, some closing⟩ := by
    unfold combine
    rw [opens, closes, opens', closes']
    simp only [early, late, Except.ok_bind]
    rfl
  have legal := isValid_iff.mp (isValid_combine valid valid' combined)
  refine ⟨_, combined, rfl, ?_⟩
  exact Slot.interval?_complete (legal.1 opening rfl) (legal.2 closing rfl) begins ends

/-- A special window that lacks a bound gives way. -/
theorem combine_of_open_special (lacks : special.hours.isComplete = false) :
    special.combine weekday = .ok weekday := by
  unfold combine
  split
  next opens closes => simp [hours, Slot.isComplete, opens, closes] at lacks
  next => rfl

/-- The window of a weekday that lacks a bound gives way to a special one with both. -/
theorem combine_of_open_weekday (bounded : special.hours.isComplete)
    (lacks : weekday.hours.isComplete = false) : special.combine weekday = .ok special := by
  obtain ⟨opening, closing, whole⟩ := Slot.exists_of_isComplete bounded
  unfold combine
  split
  · split
    next opens closes => simp [hours, Slot.isComplete, opens, closes] at lacks
    next => rfl
  next absent =>
    exact absurd (congrArg Slot.stop whole) (absent opening closing (congrArg Slot.start whole))

/-- Whatever one of two windows holds is held by what they come to. -/
theorem holds_combine (valid : special.isValid) (valid' : weekday.isValid)
    (holds : special.Holds first last ∨ weekday.Holds first last) :
    ∃ window, special.combine weekday = .ok window ∧ window.Holds first last := by
  by_cases bounded : special.hours.isComplete
  · by_cases bounded' : weekday.hours.isComplete
    · obtain ⟨a, known⟩ := (isValid_hours valid).exists_interval?
      obtain ⟨b, known'⟩ := (isValid_hours valid').exists_interval?
      obtain ⟨window, combined, whole, hull⟩ :=
        combine_of_bounded valid valid' bounded bounded' known known'
      refine ⟨window, combined, whole, _, hull, Interval.spans_hull ?_⟩
      apply holds.imp
      · rintro ⟨-, room, offered, inside⟩
        cases known.symm.trans offered
        exact inside
      · rintro ⟨-, room, offered, inside⟩
        cases known'.symm.trans offered
        exact inside
    · have combined := combine_of_open_weekday bounded (Bool.eq_false_iff.mpr bounded')
      exact ⟨special, combined, holds.resolve_right fun other => bounded' other.bounded⟩
  · have combined : special.combine weekday = .ok weekday :=
      combine_of_open_special (Bool.eq_false_iff.mpr bounded)
    exact ⟨weekday, combined, holds.resolve_left fun other => bounded other.bounded⟩

/-- A slot that a window holds is kept as it is, unless it is too short. -/
theorem fit_of_holds (valid : window.isValid) (holds : window.Holds first last)
    (timely : TimeOfDay.isValid start) (timely' : TimeOfDay.isValid stop)
    (begins : minutes? start = some first) (ends : minutes? stop = some last)
    (forward : first < last) :
    window.fit leastHours ⟨some start, some stop⟩
      = if last - first < 60 * leastHours then .error (.refused .tooShort)
        else .ok ⟨some start, some stop⟩ := by
  obtain ⟨room, offered, inside⟩ := holds.inside
  obtain ⟨after, before⟩ := Interval.spans_iff.mp inside
  split
  next short =>
    have asked := Slot.interval?_complete timely timely' begins ends
    have shared : (Interval.mk first last).inOrder.meet room = ⟨first, last⟩ := by
      rw [Interval.inOrder_of_le (Int.le_of_lt forward), Interval.meet, max_eq_left after,
        min_eq_left before]
    have lasting : ¬ (Slot.mk (some start) (some stop)).IsInstant ⟨first, last⟩ :=
      fun instant => Int.ne_of_lt forward instant.2
    have overlaps : (Interval.mk first last).inOrder.Overlaps room := by
      rw [Interval.overlaps_iff, shared]
      exact forward
    have clips := clips leastHours valid (Slot.isValid_complete timely timely') (.inr rfl) asked
      offered
    apply (clips.short lasting overlaps).mpr
    rw [shared]
    exact short
  next long =>
    exact fit_of_within timely timely' begins ends valid offered after forward before
      (Int.not_lt.mp long)

end Window

/-! ## The windows of a day -/

namespace Calendar

/-- The windows that count on a day: that of its weekday, where it is allowed, and that of the
holiday or the eve that it is. -/
inductive Applies (calendar : Calendar) (holidays : Holidays) (day : Date) : Window → Prop where
  | weekday (allowed : calendar.allowsWeekday day.weekday.val) :
      Applies calendar holidays day (calendar.weekdayWindow day.weekday.val)
  | special {window : Window} (kind : calendar.Special holidays day window) :
      Applies calendar holidays day window

variable {calendar : Calendar} {holidays : Holidays} {day : Date} {part : Window}
  {first last : Int}

/-- Only the last day can fail to tell what it is the eve of. -/
theorem exists_specialWindow (calendar : Calendar) (holidays : Holidays)
    (next : day.next?.isSome) : ∃ special, calendar.specialWindow holidays day = .ok special := by
  obtain ⟨following, next⟩ := Option.isSome_iff_exists.mp next
  unfold specialWindow Holidays.isEve
  rw [next]
  split
  · exact ⟨_, rfl⟩
  · split
    · exact ⟨_, rfl⟩
    · split <;> exact ⟨_, rfl⟩

/-- The window of a day holds whatever one of the windows that count on it holds. -/
theorem holds_window (valid : calendar.allowedHours.isValid) (next : day.next?.isSome)
    (applies : calendar.Applies holidays day part) (holds : part.Holds first last) :
    ∃ window, calendar.window holidays day = .ok window ∧ window.Holds first last := by
  obtain ⟨special, found⟩ := exists_specialWindow calendar holidays next
  unfold window
  rw [found, Except.ok_bind]
  cases special with
  | none =>
    cases applies with
    | weekday allowed =>
      rw [allowed]
      exact ⟨_, rfl, holds⟩
    | special kind => cases found.symm.trans (specialWindow_eq_some_iff.mpr kind)
  | some special =>
    have valid' := isValid_weekdayWindow valid day.weekday.val
    cases applies with
    | weekday allowed =>
      rw [allowed]
      exact Window.holds_combine (isValid_specialWindow valid found) valid' (.inr holds)
    | special kind =>
      cases found.symm.trans (specialWindow_eq_some_iff.mpr kind)
      cases calendar.allowsWeekday day.weekday.val with
      | false => exact ⟨_, rfl, holds⟩
      | true => exact Window.holds_combine (isValid_specialWindow valid found) valid' (.inl holds)

/-- On any day but the last one, whether the calendar admits it or not: a slot inside a window that
counts on the day and has both bounds is kept as it is by the window of the day, unless it is too
short. -/
theorem fit_of_applies (calendar : Calendar) (holidays : Holidays) (day : Date)
    {part : Window} {start stop : String} {first last : Int}
    (valid : calendar.allowedHours.isValid) (next : day.next?.isSome)
    (applies : calendar.Applies holidays day part) (holds : part.Holds first last)
    (timely : TimeOfDay.isValid start) (timely' : TimeOfDay.isValid stop)
    (begins : minutes? start = some first) (ends : minutes? stop = some last)
    (forward : first < last) :
    ∃ window, calendar.window holidays day = .ok window
      ∧ window.fit calendar.leastHours ⟨some start, some stop⟩
        = if last - first < 60 * calendar.leastHours then .error (.refused .tooShort)
          else .ok ⟨some start, some stop⟩ := by
  obtain ⟨window, found, held⟩ := holds_window valid next applies holds
  exact ⟨window, found, Window.fit_of_holds (isValid_of_window valid found) held timely timely'
    begins ends forward⟩

/-- A calendar that is open by day on Thursdays, and in the evening before a holiday, for an hour at
least. -/
def sampleLong : Calendar :=
  { sampleEves with
    allowedWeekdays := [4]
    leastHours := 1
    allowedHours :=
      ⟨[(4, ⟨some "9:00", some "17:00"⟩)], .unbounded, ⟨some "18:00", some "22:00"⟩⟩ }

/-- On the Thursday before a holiday an evening is kept as it is. -/
theorem fit_of_applies_evening :
    let holidays : Holidays :=
      { Holidays.sample with
        named := fun country day =>
          if country = "FR" ∧ day.ordinal = Date.sample.ordinal + 1 then some "Feast" else none }
    sampleLong.allowedHours.isValid ∧ Date.sample.next?.isSome
      ∧ sampleLong.Applies holidays .sample ⟨some "18:00", some "22:00"⟩
      ∧ (⟨some "18:00", some "22:00"⟩ : Window).Holds 1170 1260
      ∧ TimeOfDay.isValid "19:30" ∧ TimeOfDay.isValid "21:00"
      ∧ minutes? "19:30" = some 1170 ∧ minutes? "21:00" = some 1260 ∧ (1170 : Int) < 1260
      ∧ sampleLong.window holidays .sample = .ok ⟨some "9:00", some "22:00"⟩
      ∧ (⟨some "9:00", some "22:00"⟩ : Window).fit 1 ⟨some "19:30", some "21:00"⟩
        = .ok ⟨some "19:30", some "21:00"⟩ := by
  intro holidays
  have valid : sampleLong.allowedHours.isValid := by decide +kernel
  have next : Date.sample.next?.isSome := by decide
  have special : sampleLong.specialWindow holidays .sample
      = .ok (some ⟨some "18:00", some "22:00"⟩) := by decide +kernel
  have applies := Applies.special (specialWindow_eq_some_iff.mp special)
  have holds : (⟨some "18:00", some "22:00"⟩ : Window).Holds 1170 1260 :=
    ⟨rfl, ⟨1080, 1320⟩, by decide +kernel, by decide⟩
  have timely : TimeOfDay.isValid "19:30" := by decide +kernel
  have timely' : TimeOfDay.isValid "21:00" := by decide +kernel
  have begins : minutes? "19:30" = some 1170 := by decide +kernel
  have ends : minutes? "21:00" = some 1260 := by decide +kernel
  have hours : sampleLong.window holidays .sample = .ok ⟨some "9:00", some "22:00"⟩ := by
    decide +kernel
  obtain ⟨window, found, kept⟩ := fit_of_applies sampleLong holidays .sample valid next applies
    holds timely timely' begins ends (by decide)
  cases hours.symm.trans found
  exact ⟨valid, next, applies, holds, timely, timely', begins, ends, by decide, hours, kept⟩

end Calendar

end Rendezvous
