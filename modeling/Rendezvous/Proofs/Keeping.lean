import Rendezvous.Proofs.Clipping
import Rendezvous.Proofs.Offers

/-!
# What stored availabilities keep to

An availability is entered in one way and changed in another, but both fit its slot into the
window of its day.  Where the hours of the calendar are valid times, the slot that is stored
holds valid times, lies in the window and is long enough, however often it was changed.
-/

namespace Rendezvous

/-! ## Valid times -/

namespace TimeOfDay

/-- What is stored for a text reads as the text did. -/
theorem read?_text {text : String} {reading : Reading} (found : read? text = some reading) :
    read? reading.text = some reading := by
  obtain ⟨minute, written⟩ := read?_eq_some_iff.mp found
  exact read?_eq_some_iff.mpr ⟨minute, written.text⟩

theorem isValid_of_request {side time : Option String} (found : request side = .ok time) :
    ∀ text ∈ time, isValid text := by
  unfold request at found
  split at found
  · cases found
    intro text inside
    cases inside
  next given _ =>
    unfold ofText parse? at found
    cases read : read? given with
    | none => simp [read, Except.map] at found
    | some reading =>
      simp only [read, Option.map_some, Except.map, Except.ok.injEq] at found
      subst found
      intro text inside
      cases inside
      rw [isValid, read?_text read]
      rfl

theorem earlier_eq_ok {a b time : String} (found : earlier a b = .ok time) :
    time = a ∨ time = b := by
  obtain ⟨order, -, same⟩ := Except.bind_eq_ok_iff.mp found
  cases same
  split
  · exact .inr rfl
  · exact .inl rfl

theorem later_eq_ok {a b time : String} (found : later a b = .ok time) :
    time = a ∨ time = b := by
  obtain ⟨order, -, same⟩ := Except.bind_eq_ok_iff.mp found
  cases same
  split
  · exact .inr rfl
  · exact .inl rfl

end TimeOfDay

open TimeOfDay (minutes?)

/-! ## Windows of a day -/

theorem Window.isValid_combine {special weekday window : Window} (valid : special.isValid)
    (valid' : weekday.isValid) (combined : special.combine weekday = .ok window) :
    window.isValid := by
  rw [isValid_iff] at valid valid'
  unfold combine at combined
  split at combined
  next specialOpens specialCloses opens closes =>
    split at combined
    next weekdayOpens weekdayCloses opens' closes' =>
      obtain ⟨first, early, combined⟩ := Except.bind_eq_ok_iff.mp combined
      obtain ⟨last, late, same⟩ := Except.bind_eq_ok_iff.mp combined
      cases same
      rw [isValid_iff]
      constructor
      · intro text inside
        cases inside
        rcases TimeOfDay.earlier_eq_ok early with rfl | rfl
        · exact valid.1 _ opens
        · exact valid'.1 _ opens'
      · intro text inside
        cases inside
        rcases TimeOfDay.later_eq_ok late with rfl | rfl
        · exact valid.2 _ closes
        · exact valid'.2 _ closes'
    next =>
      cases combined
      exact isValid_iff.mpr valid
  next =>
    cases combined
    exact isValid_iff.mpr valid'

namespace Calendar

variable {calendar : Calendar} {holidays : Holidays} {day : Date}

theorem isValid_weekdayWindow (valid : calendar.allowedHours.isValid) (weekday : Int) :
    (calendar.weekdayWindow weekday).isValid := by
  rw [AllowedHours.isValid, Bool.and_eq_true, Bool.and_eq_true, List.all_eq_true] at valid
  unfold weekdayWindow AllowedHours.onWeekday
  split
  next entry found => exact valid.1.1 entry (List.mem_of_find?_eq_some found)
  next => rfl

theorem isValid_specialWindow (valid : calendar.allowedHours.isValid) {window : Window}
    (special : calendar.specialWindow holidays day = .ok (some window)) : window.isValid := by
  rw [AllowedHours.isValid, Bool.and_eq_true, Bool.and_eq_true] at valid
  cases specialWindow_eq_some_iff.mp special with
  | holiday => exact valid.1.2
  | eve => exact valid.2

/-- The window of a day has no bounds but those of the calendar. -/
theorem isValid_of_window (valid : calendar.allowedHours.isValid) {window : Window}
    (hours : calendar.window holidays day = .ok window) : window.isValid := by
  obtain ⟨special, found, hours⟩ := Except.bind_eq_ok_iff.mp hours
  split at hours
  · cases hours
    exact isValid_weekdayWindow valid _
  · cases hours
    rfl
  · exact Window.isValid_combine (isValid_specialWindow valid found)
      (isValid_weekdayWindow valid _) hours
  · cases hours
    exact isValid_specialWindow valid found

end Calendar

/-! ## Slots in a window -/

/-- Minutes from one time to a later one. -/
structure TimeOfDay.Between (start stop : String) (first last : Int) : Prop where
  begins : minutes? start = some first
  ends : minutes? stop = some last
  forward : first < last

/-- A slot of valid times that is inside a window, where that has a bound, and is not shorter
than a number of hours. -/
structure Window.Encloses (window : Window) (leastHours : Nat) (slot : Slot) : Prop where
  valid : slot.IsValid
  within : window.isUnbounded = false →
    ∃ start stop first last opening closing, slot = ⟨some start, some stop⟩
      ∧ TimeOfDay.Between start stop first last
      ∧ minutes? (window.opens.getD TimeOfDay.dayStart) = some opening
      ∧ minutes? (window.closes.getD TimeOfDay.dayEnd) = some closing
      ∧ opening ≤ first ∧ last ≤ closing
  long : ∀ start ∈ slot.start, ∀ stop ∈ slot.stop,
    ∃ first last, TimeOfDay.Between start stop first last ∧ 60 * (leastHours : Int) ≤ last - first

/-- A slot of valid times that fits into a window is inside it and long enough. -/
theorem Window.encloses_of_fit {window : Window} {leastHours : Nat} {slot fitted : Slot}
    (valid : window.isValid) (timed : slot.IsValid)
    (fits : window.fit leastHours slot = .ok fitted) : window.Encloses leastHours fitted := by
  obtain ⟨asked, known⟩ := timed.exists_interval?
  obtain ⟨room, offered⟩ := (isValid_hours valid).exists_interval?
  obtain ⟨opens, closes⟩ := (isValid_hours valid).minutes? offered
  by_cases limited : window.isUnbounded = false ∨ slot.isComplete
  · obtain ⟨start, stop, rfl, timely, timely', begins, ends, forward, long⟩ :=
      exists_of_fit_eq_ok valid timed limited known offered fits
    have between : TimeOfDay.Between start stop _ _ := ⟨begins, ends, forward⟩
    refine ⟨Slot.isValid_complete timely timely', fun _ => ?_, ?_⟩
    · exact ⟨start, stop, _, _, room.start, room.stop, rfl, between, opens, closes,
        Int.le_max_right _ _, Int.min_le_right _ _⟩
    · rintro _ ⟨⟩ _ ⟨⟩
      exact ⟨_, _, between, long⟩
  · rw [not_or, Bool.not_eq_false, Bool.not_eq_true] at limited
    obtain ⟨free, half⟩ := limited
    rw [fit_of_unlimited free half] at fits
    cases fits
    refine ⟨timed, by simp [free], ?_⟩
    -- without a bound nothing is known of a slot that lacks a time, but its length is not asked for
    intro start begins stop ends
    simp [Slot.isComplete, Option.mem_def.mp begins, Option.mem_def.mp ends] at half

/-! ## What is stored -/

/-- What a calendar asks of an availability: a day that it offers, and a slot in the window of
that day. -/
structure Calendar.Keeps (calendar : Calendar) (holidays : Holidays)
    (availability : Availability) : Prop where
  offered : calendar.Offers holidays availability.day
  enclosed : ∃ window, calendar.window holidays availability.day = .ok window
    ∧ window.Encloses calendar.leastHours availability.slot

theorem Board.isValid_of_patched {patch : Option (Option String)} {side time : Option String}
    (present : ∀ text ∈ side, TimeOfDay.isValid text) (found : patched patch side = .ok time) :
    ∀ text ∈ time, TimeOfDay.isValid text := by
  cases patch with
  | none =>
    cases found
    exact present
  | some asked => exact TimeOfDay.isValid_of_request found

/-- A booking and a revision keep to what the calendar asks. -/
theorem Surroundings.vets_keeps (surroundings : Surroundings) :
    surroundings.Vets
      (fun calendar availability => calendar.allowedHours.isValid →
        calendar.Keeps surroundings.holidays availability)
      fun _ _ => True := by
  constructor
  · intro board token participantId request booking booked id valid
    obtain ⟨-, -, range, admitted, start, stop, window, first, last, hours, fits⟩ :=
      Board.book_eq_ok booked
    obtain ⟨begins, ends⟩ := Calendar.checkRange_eq_ok_iff.mp range
    refine ⟨⟨begins, ends, admitted⟩, window, hours, ?_⟩
    exact Window.encloses_of_fit (Calendar.isValid_of_window valid hours)
      ⟨TimeOfDay.isValid_of_request first, TimeOfDay.isValid_of_request last⟩ fits
  · intro board token participantId day patch calendar participant present revised known decided
      keeps valid
    obtain ⟨present', start, stop, window, slot, known', first, last, hours, fits, same⟩ :=
      Board.revise_eq_ok decided
    rw [known] at known'
    cases known'
    obtain ⟨offered, window', -, enclosed⟩ := keeps valid
    rw [same]
    refine ⟨offered, window, hours, ?_⟩
    exact Window.encloses_of_fit (Calendar.isValid_of_window valid hours)
      ⟨Board.isValid_of_patched enclosed.valid.start first,
        Board.isValid_of_patched enclosed.valid.stop last⟩ fits
  · intro board calendar participant request replaced terms agreed present
    trivial

namespace Board

/-- Where nobody had entered anything at first and the holidays stay the same, whatever
participants of a calendar with valid hours have entered in the end keeps to the calendar. -/
theorem stored_keeps (board : Board) (run : List (Surroundings × Operation))
    (holidays : Holidays) (noAvailability : board.records.availabilities.rows = [])
    (fixed : ∀ surrounded ∈ run, surrounded.1.holidays = holidays) :
    ∀ calendar ∈ board.records.calendars.rows, calendar.allowedHours.isValid →
      ∀ availability ∈ (board.after run).records.availabilities.rows,
        ((board.after run).records.member? calendar.id availability.participantId).isSome →
        calendar.Keeps holidays availability := by
  intro calendar stored valid availability inside member
  have vetted : (board.after run).records.Vetted
      (fun calendar availability => calendar.allowedHours.isValid →
        calendar.Keeps holidays availability)
      fun _ _ => True := by
    apply vetted_after board run
    · intro surrounded among
      rw [← fixed surrounded among]
      exact surrounded.1.vets_keeps
    · constructor
      · simp [noAvailability]
      · exact fun _ _ _ _ => trivial
  rw [← calendars_after board run] at stored
  exact vetted.entries availability inside calendar
    (Records.member_of_isSome_member? stored member) valid

end Board

/-- A calendar that is open from nine to five on Thursdays, for two hours at least. -/
def Calendar.sampleOpen : Calendar :=
  { Calendar.sample with
    leastHours := 2
    allowedHours := ⟨[(4, ⟨some "9:00", some "17:00"⟩)], .unbounded, .unbounded⟩ }

def Board.sampleOpen : Board :=
  { sample with records := { sample.records with calendars := ⟨[.sampleOpen], by decide⟩ } }

/-- An availability that begins before the opening, and is changed to end in the morning. -/
def Board.sampleOpenRun : List (Surroundings × Operation) :=
  [(.sample, .createAvailability "open" "ann" ⟨"2025-06-05", some "07:30", none, none⟩),
    (.sample, .updateAvailability "open" "ann" "2025-06-05" ⟨none, some (some "11:30"), none⟩)]

namespace Board

theorem holidays_sampleOpenRun : ∀ surrounded ∈ sampleOpenRun,
    surrounded.1.holidays = Surroundings.sample.holidays := by
  intro surrounded inside
  simp only [sampleOpenRun, List.mem_cons, List.not_mem_nil, or_false] at inside
  rcases inside with rfl | rfl <;> rfl

theorem stored_keeps_sample :
    sampleOpen.records.availabilities.rows = []
      ∧ (∀ surrounded ∈ sampleOpenRun, surrounded.1.holidays = Surroundings.sample.holidays)
      ∧ Calendar.sampleOpen ∈ sampleOpen.records.calendars.rows
      ∧ Calendar.sampleOpen.allowedHours.isValid
      ∧ (sampleOpen.after sampleOpenRun).records.availabilities.rows.map Availability.slot
        = [⟨some "9:00", some "11:30"⟩]
      ∧ ∀ availability ∈ (sampleOpen.after sampleOpenRun).records.availabilities.rows,
        ((sampleOpen.after sampleOpenRun).records.member? Calendar.sampleOpen.id
          availability.participantId).isSome →
        Calendar.sampleOpen.Keeps Surroundings.sample.holidays availability := by
  have stored : Calendar.sampleOpen ∈ sampleOpen.records.calendars.rows := List.mem_cons_self
  have valid : Calendar.sampleOpen.allowedHours.isValid := by decide +kernel
  refine ⟨rfl, holidays_sampleOpenRun, stored, valid, by decide +kernel, ?_⟩
  exact stored_keeps sampleOpen sampleOpenRun Surroundings.sample.holidays rfl
    holidays_sampleOpenRun Calendar.sampleOpen stored valid

end Board

end Rendezvous
