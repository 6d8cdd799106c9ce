import Rendezvous.Proofs.Decisions
import Rendezvous.Proofs.Merge

/-!
# Holidays and their eves

A calendar is asked twice about a day: whether it admits the day, and which hours it has then.  Both
answers look at the holiday, the eve and the weekday, each in its own order.  They agree: a day
that its weekday does not admit has the hours of its holiday or of its eve.
-/

namespace Rendezvous

namespace Holidays

variable {holidays : Holidays} {country : String} {day : Date}

theorem ne_of_isHoliday (holiday : holidays.isHoliday country day) : country ≠ "" := by
  rintro rfl
  simp [isHoliday, name?] at holiday

theorem isEve_eq_true_iff :
    holidays.isEve country day = .ok true
      ↔ ∃ following ∈ day.next?, holidays.isHoliday country following := by
  unfold isEve
  cases day.next? <;> simp

end Holidays

namespace Calendar

/-! ## What a day is to a calendar -/

/-- A holiday that the calendar admits whatever the weekday. -/
def AllowsHoliday (calendar : Calendar) (holidays : Holidays) (day : Date) : Prop :=
  calendar.holidayPolicy = .allow ∧ holidays.isHoliday (calendar.country holidays) day

/-- A holiday that the calendar refuses whatever the weekday. -/
def BlocksHoliday (calendar : Calendar) (holidays : Holidays) (day : Date) : Prop :=
  calendar.holidayPolicy = .block ∧ holidays.isHoliday (calendar.country holidays) day

/-- The eve of a holiday, where the calendar allows eves. -/
def AllowsEve (calendar : Calendar) (holidays : Holidays) (day : Date) : Prop :=
  calendar.allowHolidayEves
    ∧ ∃ following ∈ day.next?, holidays.isHoliday (calendar.country holidays) following

/-- The window that is configured for what a day is: an allowed holiday comes before an eve. -/
inductive Special (calendar : Calendar) (holidays : Holidays) (day : Date) : Window → Prop where
  | holiday (allowed : calendar.AllowsHoliday holidays day) :
      Special calendar holidays day calendar.allowedHours.holidays
  | eve (ordinary : ¬ calendar.AllowsHoliday holidays day)
      (allowed : calendar.AllowsEve holidays day) :
      Special calendar holidays day calendar.allowedHours.holidayEves

variable {calendar : Calendar} {holidays : Holidays} {day : Date} {special : Window}

theorem AllowsEve.country_ne (allowed : calendar.AllowsEve holidays day) :
    calendar.country holidays ≠ "" := by
  obtain ⟨-, following, -, holiday⟩ := allowed
  exact Holidays.ne_of_isHoliday holiday

/-! ## The two answers -/

/-- A day is admitted for what it is, or for its weekday, unless it is a blocked holiday. -/
theorem admits_eq_true_iff :
    calendar.admits holidays day = .ok true
      ↔ ¬ calendar.BlocksHoliday holidays day
        ∧ (calendar.AllowsHoliday holidays day ∨ calendar.AllowsEve holidays day
          ∨ calendar.allowsWeekday day.weekday.val) := by
  unfold admits Admission.dateAllowed
  dsimp only
  split
  next blocked =>
    simp [BlocksHoliday, blocked]
  next free =>
    have unblocked : ¬ calendar.BlocksHoliday holidays day := fun blocked => free blocked.symm
    split
    next allowed =>
      exact iff_of_true rfl ⟨unblocked, .inl allowed.symm⟩
    next ordinary =>
      have unheld : ¬ calendar.AllowsHoliday holidays day := fun allowed => ordinary allowed.symm
      split
      next weekday =>
        exact iff_of_true rfl ⟨unblocked, .inr (.inr weekday)⟩
      next weekday =>
        have closed : ¬ calendar.allowsWeekday day.weekday.val := weekday
        split
        next eves =>
          simp [Holidays.isEve_eq_true_iff, unblocked, unheld, closed, AllowsEve, eves.2]
        next eves =>
          have plain : ¬ calendar.AllowsEve holidays day :=
            fun allowed => eves ⟨allowed.country_ne, allowed.1⟩
          simp [unheld, plain, closed]

/-- The special window of a day is the one that is configured for what the day is. -/
theorem specialWindow_eq_some_iff :
    calendar.specialWindow holidays day = .ok (some special)
      ↔ calendar.Special holidays day special := by
  unfold specialWindow
  split
  next nowhere =>
    apply iff_of_false (by simp)
    rintro (⟨-, holiday⟩ | ⟨-, allowed⟩)
    · exact Holidays.ne_of_isHoliday holiday nowhere
    · exact allowed.country_ne nowhere
  next somewhere =>
    split
    next allowed =>
      constructor
      · rintro ⟨⟩
        exact .holiday allowed
      · rintro (_ | ⟨ordinary, -⟩)
        · rfl
        · exact absurd allowed ordinary
    next ordinary =>
      split
      next eves =>
        constructor
        · intro found
          obtain ⟨eve, known, same⟩ := Except.bind_eq_ok_iff.mp found
          cases eve <;> cases same
          exact .eve ordinary ⟨eves, Holidays.isEve_eq_true_iff.mp known⟩
        · rintro (allowed | ⟨-, allowed⟩)
          · exact absurd allowed ordinary
          · rw [Holidays.isEve_eq_true_iff.mpr allowed.2, Except.ok_bind]
            rfl
      next eves =>
        apply iff_of_false (by simp)
        rintro (allowed | ⟨-, allowed⟩)
        · exact ordinary allowed
        · exact eves allowed.1

/-- Where the weekday is not allowed, the hours are the special ones alone. -/
theorem window_of_special (special' : calendar.Special holidays day special)
    (closed : calendar.allowsWeekday day.weekday.val = false) :
    calendar.window holidays day = .ok special := by
  rw [window, specialWindow_eq_some_iff.mpr special', Except.ok_bind, closed]
  rfl

theorem exists_special_iff :
    (∃ special, calendar.Special holidays day special)
      ↔ calendar.AllowsHoliday holidays day ∨ calendar.AllowsEve holidays day := by
  constructor
  · rintro ⟨_, allowed | ⟨-, allowed⟩⟩
    · exact .inl allowed
    · exact .inr allowed
  · intro allowed
    by_cases holiday : calendar.AllowsHoliday holidays day
    · exact ⟨_, .holiday holiday⟩
    · exact ⟨_, .eve holiday (allowed.resolve_left holiday)⟩

/-- A day that is admitted although its weekday is not allowed has exactly the hours of its holiday
or of its eve, and a day with such hours is admitted unless it is a blocked holiday. -/
theorem admits_agrees_with_window (calendar : Calendar) (holidays : Holidays) (day : Date) :
    (calendar.admits holidays day = .ok true →
      calendar.allowsWeekday day.weekday.val = false →
      ∃ special, calendar.Special holidays day special
        ∧ calendar.window holidays day = .ok special)
    ∧ ∀ special, calendar.specialWindow holidays day = .ok (some special) →
      calendar.Special holidays day special
        ∧ (calendar.admits holidays day = .ok true ↔ ¬ calendar.BlocksHoliday holidays day) := by
  constructor
  · intro admitted closed
    obtain ⟨-, holiday | eve | weekday⟩ := admits_eq_true_iff.mp admitted
    · exact ⟨_, .holiday holiday, window_of_special (.holiday holiday) closed⟩
    · obtain ⟨special, kind⟩ := exists_special_iff.mpr (.inr eve)
      exact ⟨special, kind, window_of_special kind closed⟩
    · rw [closed] at weekday
      cases weekday
  · intro special found
    have kind := specialWindow_eq_some_iff.mp found
    have allowed := exists_special_iff.mp ⟨special, kind⟩
    refine ⟨kind, ?_⟩
    rw [admits_eq_true_iff, ← or_assoc]
    exact and_iff_left (.inl allowed)

/-- A calendar of Fridays that blocks holidays, but is open on the evening before one. -/
def sampleEves : Calendar :=
  { Calendar.sample with
    timezone := "Europe/Paris"
    allowedWeekdays := [5]
    holidayPolicy := .block
    allowHolidayEves := true
    allowedHours := ⟨[(4, ⟨some "09:00", some "17:00"⟩)], .unbounded, ⟨some "18:00", none⟩⟩ }

/-- The Thursday before a holiday has the hours of an eve, not those of a Thursday. -/
theorem admits_agrees_with_window_eve :
    let holidays : Holidays :=
      { Holidays.sample with
        named := fun country day =>
          if country = "FR" ∧ day.ordinal = Date.sample.ordinal + 1 then some "Feast" else none }
    sampleEves.admits holidays .sample = .ok true
      ∧ sampleEves.allowsWeekday Date.sample.weekday.val = false
      ∧ sampleEves.window holidays .sample = .ok ⟨some "18:00", none⟩
      ∧ sampleEves.Special holidays .sample ⟨some "18:00", none⟩
      ∧ ¬ sampleEves.BlocksHoliday holidays .sample := by
  intro holidays
  have admitted : sampleEves.admits holidays .sample = .ok true := by decide +kernel
  have closed : sampleEves.allowsWeekday Date.sample.weekday.val = false := by decide +kernel
  have special : sampleEves.specialWindow holidays .sample = .ok (some ⟨some "18:00", none⟩) := by
    decide +kernel
  obtain ⟨hours, agrees⟩ := admits_agrees_with_window sampleEves holidays .sample
  obtain ⟨kind, unblocked⟩ := agrees _ special
  obtain ⟨window, kind', found⟩ := hours admitted closed
  cases special.symm.trans (specialWindow_eq_some_iff.mpr kind')
  exact ⟨admitted, closed, found, kind, unblocked.mp admitted⟩

end Calendar

end Rendezvous
