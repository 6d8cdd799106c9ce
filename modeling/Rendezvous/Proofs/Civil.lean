import Mathlib.Order.Monotone.Basic
import Mathlib.Tactic.IntervalCases
import Rendezvous.Date

/-!
# Years, months and days

The year of a date is a neighbour of its guess, and its month is the one that the day of the year
lies in.  The three of them make the date again, and no others make it.
-/

namespace Rendezvous

namespace Date

/-! ## Year, month and day -/

/-- The days before a year are those of so many mean years, up to two. -/
theorem daysBeforeYear_bounds (years : Nat) :
    146097 * years ≤ 400 * daysBeforeYear (years + 1) + 699
      ∧ 400 * daysBeforeYear (years + 1) ≤ 146097 * years + 396 := by
  unfold daysBeforeYear
  rw [Nat.add_sub_cancel]
  omega

theorem year_spec (date : Date) :
    1 ≤ date.year ∧ daysBeforeYear date.year < date.ordinal
      ∧ date.ordinal ≤ daysBeforeYear (date.year + 1) := by
  have first := date.one_le
  have zero : daysBeforeYear (0 + 1) = 0 := rfl
  unfold year
  generalize guessed : (date.ordinal - 1) * 400 / 146097 = guess
  have bounds := daysBeforeYear_bounds
  by_cases late : daysBeforeYear (guess + 1 + 1) < date.ordinal
  · have after := bounds (guess + 1 + 1)
    rw [if_pos late]
    exact ⟨by omega, late, by omega⟩
  · rw [if_neg late]
    by_cases early : date.ordinal ≤ daysBeforeYear (guess + 1)
    · rw [if_pos early, Nat.add_sub_cancel]
      cases guess with
      | zero => omega
      | succ years =>
        have before := bounds years
        exact ⟨by omega, by omega, early⟩
    · rw [if_neg early]
      exact ⟨by omega, by omega, by omega⟩

theorem daysBeforeYear_succ {year : Nat} (positive : 1 ≤ year) :
    daysBeforeYear (year + 1) = daysBeforeYear year + if isLeap year then 366 else 365 := by
  obtain ⟨years, rfl⟩ := Nat.exists_eq_add_of_le' positive
  simp only [daysBeforeYear, isLeap, Nat.add_sub_cancel, Nat.succ_div, Nat.dvd_iff_mod_eq_zero,
    Bool.and_eq_true, Bool.or_eq_true, bne_iff_ne, beq_iff_eq]
  have lower := Nat.div_le_self years 100
  by_cases four : (years + 1) % 4 = 0
  · by_cases hundred : (years + 1) % 100 = 0
    · by_cases most : (years + 1) % 400 = 0
      · simp [four, hundred, most]
        omega
      · simp [four, hundred, most]
        omega
    · have most : (years + 1) % 400 ≠ 0 := by omega
      simp [four, hundred, most]
      omega
  · have hundred : (years + 1) % 100 ≠ 0 := by omega
    have most : (years + 1) % 400 ≠ 0 := by omega
    simp [four, hundred, most]
    omega

/-- A month that a day of the year lies in. -/
structure InMonth (year count month : Nat) : Prop where
  least : 1 ≤ month
  most : month ≤ 12
  begun : daysBeforeMonth year month < count
  ended : count ≤ daysBeforeMonth year month + daysInMonth year month

theorem inMonth_month (date : Date) : InMonth date.year date.dayOfYear date.month := by
  obtain ⟨positive, after, before⟩ := year_spec date
  rw [daysBeforeYear_succ positive] at before
  have first : 1 ≤ date.dayOfYear := by
    unfold dayOfYear
    omega
  have last : date.dayOfYear ≤ if isLeap date.year then 366 else 365 := by
    unfold dayOfYear
    omega
  clear after before
  unfold month
  generalize date.dayOfYear = count at *
  have either {within : Prop} [Decidable within] {month later : Nat}
      (here : within → InMonth date.year count month)
      (there : ¬ within → InMonth date.year count later) :
      InMonth date.year count (if within then month else later) := iteInduction here there
  cases leap : isLeap date.year
  all_goals
    simp only [leap, Bool.false_eq_true, if_false, if_true] at last ⊢
    repeat' refine either (fun here => ?_) fun there => ?_
    all_goals
      constructor
      all_goals simp [daysBeforeMonth, daysInMonth, leap]
      all_goals omega

theorem year_le (date : Date) : date.year ≤ 9999 := by
  obtain ⟨positive, after, -⟩ := year_spec date
  have last := date.le_last
  have bounds := daysBeforeYear_bounds (date.year - 1)
  rw [Nat.sub_add_cancel positive] at bounds
  unfold lastOrdinal at last
  omega

/-- The day is one of its month. -/
theorem day_spec (date : Date) :
    1 ≤ date.day ∧ date.day ≤ daysInMonth date.year date.month
      ∧ daysBeforeMonth date.year date.month + date.day = date.dayOfYear := by
  obtain ⟨-, -, begun, ended⟩ := inMonth_month date
  unfold day
  omega

theorem day_le (date : Date) : date.day ≤ 31 := by
  have most (year month : Nat) : daysInMonth year month ≤ 31 := by
    unfold daysInMonth
    split_ifs <;> decide
  exact Nat.le_trans (day_spec date).2.1 (most _ _)

theorem daysBeforeYear_monotone : Monotone daysBeforeYear := by
  apply monotone_nat_of_le_succ
  intro year
  cases year with
  | zero => exact Nat.le_refl _
  | succ years =>
    rw [daysBeforeYear_succ (Nat.succ_pos years)]
    exact Nat.le_add_right _ _

/-- No day lies in two years. -/
theorem year_unique {date : Date} {year : Nat} (begun : daysBeforeYear year < date.ordinal)
    (ended : date.ordinal ≤ daysBeforeYear (year + 1)) : date.year = year := by
  obtain ⟨-, after, before⟩ := year_spec date
  have {early late : Nat} (earlier : early < late) :
      daysBeforeYear (early + 1) ≤ daysBeforeYear late := daysBeforeYear_monotone earlier
  rcases Nat.lt_trichotomy date.year year with earlier | same | later
  · have := this earlier
    omega
  · exact same
  · have := this later
    omega

theorem daysBeforeMonth_succ {year month : Nat} (least : 1 ≤ month) (most : month < 12) :
    daysBeforeMonth year (month + 1) = daysBeforeMonth year month + daysInMonth year month := by
  cases leap : isLeap year
  all_goals interval_cases month <;> simp [daysBeforeMonth, daysInMonth, leap]

/-- A month has ended before a later one begins. -/
theorem daysBeforeMonth_add_le (year : Nat) {month later : Nat} (least : 1 ≤ month)
    (after : month < later) (most : later ≤ 12) :
    daysBeforeMonth year month + daysInMonth year month ≤ daysBeforeMonth year later := by
  induction later, after using Nat.le_induction with
  | base => exact Nat.le_of_eq (daysBeforeMonth_succ least most).symm
  | succ later after ih =>
    rw [daysBeforeMonth_succ (Nat.le_trans least (Nat.le_of_succ_le after)) most]
    exact Nat.le_add_right_of_le (ih (Nat.le_of_succ_le most))

/-- No day lies in two months. -/
theorem InMonth.unique {year count month other : Nat} (here : InMonth year count month)
    (there : InMonth year count other) : month = other := by
  rcases Nat.lt_trichotomy month other with earlier | same | later
  · have before := daysBeforeMonth_add_le year here.least earlier there.most
    have := here.ended
    have := there.begun
    omega
  · exact same
  · have before := daysBeforeMonth_add_le year there.least later here.most
    have := there.ended
    have := here.begun
    omega

/-- A day of a month is a day of the year. -/
theorem InMonth.count_le {year count month : Nat} (within : InMonth year count month) :
    count ≤ if isLeap year then 366 else 365 := by
  obtain ⟨least, most, -, ended⟩ := within
  have last : daysBeforeMonth year 12 + daysInMonth year 12 = if isLeap year then 366 else 365 := by
    cases leap : isLeap year <;> simp [daysBeforeMonth, daysInMonth, leap]
  rcases Nat.lt_or_eq_of_le most with before | rfl
  · have := daysBeforeMonth_add_le year least before (Nat.le_refl 12)
    omega
  · omega

/-- Year, month and day make the date again, and no others make it. -/
theorem ofCivil?_eq_some_iff {year month day : Nat} {date : Date} :
    ofCivil? year month day = some date
      ↔ date.year = year ∧ date.month = month ∧ date.day = day := by
  constructor
  · intro found
    unfold ofCivil? at found
    split at found
    next within =>
      obtain ⟨positive, -, least, most, first, last⟩ := within
      rw [ofOrdinal?_eq_some_iff] at found
      have here : InMonth year (daysBeforeMonth year month + day) month :=
        ⟨least, most, by omega, by omega⟩
      have few := here.count_le
      have inYear : date.year = year := by
        apply year_unique
        · omega
        · rw [daysBeforeYear_succ positive]
          omega
      have count : date.dayOfYear = daysBeforeMonth year month + day := by
        rw [dayOfYear, inYear]
        omega
      have inMonth : date.month = month := by
        have there := inMonth_month date
        rw [inYear, count] at there
        exact there.unique here
      refine ⟨inYear, inMonth, ?_⟩
      rw [Date.day, inYear, inMonth, count, Nat.add_sub_cancel_left]
    next => cases found
  · rintro ⟨rfl, rfl, rfl⟩
    obtain ⟨positive, after, -⟩ := year_spec date
    obtain ⟨least, most, -, -⟩ := inMonth_month date
    obtain ⟨one, within, sum⟩ := day_spec date
    unfold ofCivil?
    rw [if_pos ⟨positive, date.year_le, least, most, one, within⟩, ofOrdinal?_eq_some_iff]
    unfold dayOfYear at sum
    omega

end Date

end Rendezvous
