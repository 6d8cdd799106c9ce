import Rendezvous.Proofs.Crossings
import Rendezvous.Proofs.Fitting
import Rendezvous.Proofs.Vetting

/-!
# Stored times can be read

Where the hours of a calendar are valid times, nothing but times is stored for its participants.
Whatever was made on a board was made by one kind of clock, so it can be put in order.
-/

namespace Rendezvous

variable {allowed : Failure → Prop}

/-! ## Valid hours -/

/-- Whether the bounds that a window has are valid times. -/
def Window.isValid (window : Window) : Bool :=
  window.opens.all TimeOfDay.isValid && window.closes.all TimeOfDay.isValid

/-- Whether all hours of a week, of holidays and of their eves have valid bounds. -/
def AllowedHours.isValid (hours : AllowedHours) : Bool :=
  hours.weekdays.all (fun entry => entry.2.isValid) && hours.holidays.isValid
    && hours.holidayEves.isValid

theorem Window.legible_of_isValid {window : Window} (valid : window.isValid) :
    window.Legible := by
  rw [isValid, Bool.and_eq_true, Option.all_eq_true, Option.all_eq_true] at valid
  refine ⟨?_, ?_⟩
  · intro text bound
    exact TimeOfDay.legible_of_isValid (valid.1 text bound)
  · intro text bound
    exact TimeOfDay.legible_of_isValid (valid.2 text bound)

theorem AllowedHours.legible_onWeekday {hours : AllowedHours} (valid : hours.isValid)
    (weekday : Int) : (hours.onWeekday weekday).Legible := by
  rw [isValid, Bool.and_eq_true, Bool.and_eq_true, List.all_eq_true] at valid
  rw [onWeekday]
  split
  next entry found =>
    exact Window.legible_of_isValid (valid.1.1 entry (List.mem_of_find?_eq_some found))
  next => exact Window.legible_unbounded

namespace Calendar

/-- A calendar that has to ask for the day after the last day, to tell whether that is a
holiday. -/
structure LooksBeyond (calendar : Calendar) (holidays : Holidays) (day : Date) : Prop where
  last : day.next? = none
  inCountry : calendar.country holidays ≠ ""
  eves : calendar.allowHolidayEves

variable {calendar : Calendar} {holidays : Holidays} {day : Date}

theorem ends_isEve {country : String} (beyond : day.next? = none → allowed .beyondCalendar) :
    Ends allowed (fun _ => True) (holidays.isEve country day) := by
  rw [Holidays.isEve]
  split
  next => exact trivial
  next last => exact beyond last

/-- Whether a day is admitted can be told, unless it takes a day after the last one. -/
theorem ends_admits (beyond : calendar.LooksBeyond holidays day → allowed .beyondCalendar) :
    Ends allowed (fun _ => True) (calendar.admits holidays day) := by
  rw [admits, Admission.dateAllowed]
  split
  · exact trivial
  · split
    · exact trivial
    · split
      · exact trivial
      · split
        next eves => exact ends_isEve fun last => beyond ⟨last, eves.1, eves.2⟩
        next => exact trivial

theorem ends_specialWindow (valid : calendar.allowedHours.isValid)
    (beyond : calendar.LooksBeyond holidays day → allowed .beyondCalendar) :
    Ends allowed (fun special => ∀ window ∈ special, window.Legible)
      (calendar.specialWindow holidays day) := by
  rw [AllowedHours.isValid, Bool.and_eq_true, Bool.and_eq_true] at valid
  have nothing : ∀ window ∈ (none : Option Window), window.Legible := by
    intro window inside
    cases inside
  rw [specialWindow]
  split
  next => exact nothing
  next inCountry =>
    split
    next =>
      intro window inside
      cases inside
      exact Window.legible_of_isValid valid.1.2
    next =>
      split
      next eves =>
        refine Ends.bind (ends_isEve fun last => beyond ⟨last, inCountry, eves⟩)
          fun eve _ _ => ends_pure ?_
        split
        · intro window inside
          cases inside
          exact Window.legible_of_isValid valid.2
        · exact nothing
      next => exact nothing

/-- The hours of a day can be told, unless it takes a day after the last one. -/
theorem ends_window (valid : calendar.allowedHours.isValid)
    (beyond : calendar.LooksBeyond holidays day → allowed .beyondCalendar) :
    Ends allowed Window.Legible (calendar.window holidays day) := by
  rw [window]
  refine Ends.bind (ends_specialWindow valid beyond) fun special _ legible => ?_
  split
  · exact ends_pure (AllowedHours.legible_onWeekday valid _)
  · exact ends_pure Window.legible_unbounded
  · exact Window.ends_combine (legible _ rfl) (AllowedHours.legible_onWeekday valid _)
  · exact ends_pure (legible _ rfl)

theorem legible_of_window {window : Window} (valid : calendar.allowedHours.isValid)
    (hours : calendar.window holidays day = .ok window) : window.Legible := by
  have ends : Ends (fun _ => True) Window.Legible (calendar.window holidays day) :=
    ends_window valid fun _ => trivial
  exact ends.of_eq_ok hours

end Calendar

theorem TimeOfDay.legibleSide_of_request {side time : Option String}
    (found : request side = .ok time) : LegibleSide time := by
  have ends : Ends (fun _ => True) LegibleSide (request side) :=
    ends_request side fun _ => trivial
  exact ends.of_eq_ok found

theorem Window.legible_of_fit {leastHours : Nat} {window : Window} {slot fitted : Slot}
    (legible : window.Legible) (legible' : slot.Legible)
    (fits : window.fit leastHours slot = .ok fitted) : fitted.Legible := by
  have ends : Ends (fun _ => True) Slot.Legible (window.fit leastHours slot) :=
    ends_fit leastHours legible legible' fun _ => trivial
  exact ends.of_eq_ok fits

/-! ## What is stored can be read -/

/-- Where the hours of a calendar are valid, nothing but times is stored for its participants. -/
def Records.Readable (records : Records) : Prop :=
  records.Vetted
    (fun calendar availability => calendar.allowedHours.isValid → availability.slot.Legible)
    fun calendar recurrence => calendar.allowedHours.isValid → recurrence.slot.Legible

theorem Board.ends_patched {patch : Option (Option String)} {side : Option String}
    (present : TimeOfDay.LegibleSide side) (refuses : ∀ refusal, allowed (.refused refusal)) :
    Ends allowed TimeOfDay.LegibleSide (patched patch side) := by
  cases patch with
  | none => exact present
  | some time => exact TimeOfDay.ends_request time refuses

theorem Board.legibleSide_of_patched {patch : Option (Option String)} {side time : Option String}
    (present : TimeOfDay.LegibleSide side) (found : patched patch side = .ok time) :
    TimeOfDay.LegibleSide time := by
  have ends : Ends (fun _ => True) TimeOfDay.LegibleSide (patched patch side) :=
    ends_patched present fun _ => trivial
  exact ends.of_eq_ok found

theorem Surroundings.vets_readable (surroundings : Surroundings) :
    surroundings.Vets
      (fun calendar availability => calendar.allowedHours.isValid → availability.slot.Legible)
      fun calendar recurrence => calendar.allowedHours.isValid → recurrence.slot.Legible := by
  refine ⟨?_, ?_, ?_⟩
  · intro board token participantId request booking booked id valid
    obtain ⟨-, -, -, -, start, stop, window, first, last, hours, fits⟩ :=
      Board.book_eq_ok booked
    exact Window.legible_of_fit (Calendar.legible_of_window valid hours)
      ⟨TimeOfDay.legibleSide_of_request first, TimeOfDay.legibleSide_of_request last⟩ fits
  · intro board token participantId day patch calendar participant present revised known decided
      readable valid
    obtain ⟨present', start, stop, window, slot, known', first, last, hours, fits, same⟩ :=
      Board.revise_eq_ok decided
    rw [known] at known'
    cases known'
    rw [same]
    exact Window.legible_of_fit (Calendar.legible_of_window valid hours)
      ⟨Board.legibleSide_of_patched (readable valid).start first,
        Board.legibleSide_of_patched (readable valid).stop last⟩ fits
  · intro board calendar participant request replaced terms agreed present valid
    obtain ⟨-, -, -, -, ⟨start, stop, first, last, fits⟩, -⟩ := Board.terms_eq_ok agreed
    exact Window.legible_of_fit (AllowedHours.legible_onWeekday valid _)
      ⟨TimeOfDay.legibleSide_of_request first, TimeOfDay.legibleSide_of_request last⟩ fits

namespace Records

variable {records : Records} {calendar : Calendar}

/-- Every slot that a date shows can be read. -/
theorem Readable.legible_of_mem_merged (readable : records.Readable)
    (stored : calendar ∈ records.calendars.rows) (valid : calendar.allowedHours.isValid)
    {day : Date} {contribution : Contribution}
    (inside : contribution ∈ records.merged calendar.id day) : contribution.slot.Legible := by
  rw [merged] at inside
  rcases List.mem_append.mp inside with entered | repeated
  · obtain ⟨availability, among, found⟩ := List.mem_filterMap.mp entered
    obtain ⟨participant, -, rfl⟩ := Option.map_eq_some_iff.mp found
    obtain ⟨present, -, member⟩ := mem_enteredOn.mp among
    exact readable.entries availability present calendar
      (member_of_isSome_member? stored member) valid
  · obtain ⟨recurrence, among, found⟩ := List.mem_filterMap.mp repeated
    obtain ⟨participant, -, rfl⟩ := Option.map_eq_some_iff.mp found
    obtain ⟨present, member, -⟩ := mem_repeatedOn.mp among
    exact readable.repetitions recurrence present calendar
      (member_of_isSome_member? stored member) valid

end Records

/-! ## Clocks -/

/-- Every availability was made by a clock like the present one. -/
def Board.Clocked (board : Board) : Prop :=
  ∀ availability ∈ board.records.availabilities.rows,
    availability.createdAt.isAnchored = board.now.isAnchored

namespace Board

variable {board : Board}

theorem Clocked.comparable (clocked : board.Clocked) (calendarId : String) (start stop : Date) :
    board.records.Comparable calendarId start stop := by
  intro a insideA b insideB _ _ _ _ _
  rw [Instant.isSome_compare?]
  exact (clocked a insideA).trans (clocked b insideB).symm

theorem Clocked.edit {participantId : String} {day : Date} {records : Records}
    (clocked : board.Clocked)
    (edited : board.records.Edit board.now participantId day records) :
    Clocked { board with records := records } := by
  intro other inside
  cases edited with
  | enter availability own on made absent fresh =>
    rcases Table.mem_put.mp inside with rfl | ⟨before, -⟩
    · rw [made]
    · exact clocked other before
  | revise present revised found sameId sameParticipant sameDay sameMade =>
    obtain ⟨stored, -⟩ := Records.mem_of_availabilityOn? found
    rcases Table.mem_put.mp inside with rfl | ⟨before, -⟩
    · rw [sameMade]
      exact clocked present stored
    · exact clocked other before
  | withdraw present found => exact clocked other (Table.mem_erase.mp inside).1

theorem clocked_perform (surroundings : Surroundings) (board : Board) (operation : Operation)
    (clocked : board.Clocked) : (board.perform surroundings operation).board.Clocked := by
  cases perform_course surroundings board operation with
  | idle tokens outages fewer reached silent => exact reached ▸ clocked
  | edit calendar participant day records issued member belongs edited follows =>
    obtain ⟨log, outages, -, after⟩ := board_checkThreshold surroundings _ _ _ _
    rw [follows.board, after]
    exact clocked.edit edited
  | rearrange records issued kind rearranged reached silent =>
    rw [reached]
    cases rearranged with
    | enter => exact clocked
    | revise => exact clocked
    | withdraw => exact clocked
    | exclude => exact clocked
    | restore recurrenceId day =>
      rw [Records.removeExclusion]
      split <;> exact clocked
  | address present updated email token stored alike follows =>
    rw [follows.board, board_sendVerification]
    exact clocked
  | confirm present updated stored alike reached silent => exact reached ▸ clocked
  | check calendarId day previous asked follows =>
    obtain ⟨log, outages, -, after⟩ := board_checkThreshold surroundings board _ _ _
    rw [follows.board, after]
    exact clocked
  | clean kept asked retained reached silent => exact reached ▸ clocked
  | advance micros now asked moved reached silent =>
    obtain ⟨span, -, shifted⟩ := Option.bind_eq_some_iff.mp moved
    rw [reached]
    intro availability inside
    rw [Instant.isAnchored_of_shift? shifted]
    exact clocked availability inside

theorem clocked_after (run : List (Surroundings × Operation)) (clocked : board.Clocked) :
    (board.after run).Clocked := by
  induction run generalizing board with
  | nil => exact clocked
  | cons head rest ih => exact ih (clocked_perform head.1 board head.2 clocked)

end Board

end Rendezvous
