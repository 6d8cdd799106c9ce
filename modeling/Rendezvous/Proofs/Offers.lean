import Rendezvous.Proofs.SpecialDays
import Rendezvous.Proofs.Uniqueness
import Rendezvous.Proofs.Vetting

/-!
# The days that a calendar offers

An availability is entered only on a day that the calendar offers: one between its first and
its last date that it admits by weekday, holiday and eve.  A recurrence spans many dates and is
held against the weekday alone, so it may show its participant on a blocked holiday, or on a
date that the calendar does not reach.
-/

namespace Rendezvous

/-! ## Offers -/

/-- A day on which an availability may be entered. -/
structure Calendar.Offers (calendar : Calendar) (holidays : Holidays) (day : Date) : Prop where
  begins : ∀ first ∈ calendar.firstDate, first ≤ day
  ends : ∀ last ∈ calendar.lastDate, day ≤ last
  admitted : calendar.admits holidays day = .ok true

/-- A day that the calendar does not reach, or on which it blocks a holiday. -/
def Calendar.Withholds (calendar : Calendar) (holidays : Holidays) (day : Date) : Prop :=
  (∃ first ∈ calendar.firstDate, day < first) ∨ (∃ last ∈ calendar.lastDate, last < day)
    ∨ (holidays.isHoliday (calendar.country holidays) day ∧ calendar.holidayPolicy = .block)

namespace Calendar

variable {calendar : Calendar} {holidays : Holidays} {day : Date}

theorem checkRange_eq_ok_iff :
    calendar.checkRange day = .ok ()
      ↔ (∀ first ∈ calendar.firstDate, first ≤ day) ∧ ∀ last ∈ calendar.lastDate, day ≤ last := by
  have early : calendar.firstDate.filter (day < ·) = none
      ↔ ∀ first ∈ calendar.firstDate, first ≤ day := by
    simp [Option.filter_eq_none_iff, Date.le_def, Date.lt_def]
  have late : calendar.lastDate.filter (· < day) = none
      ↔ ∀ last ∈ calendar.lastDate, day ≤ last := by
    simp [Option.filter_eq_none_iff, Date.le_def, Date.lt_def]
  rw [checkRange, ← early, ← late]
  cases calendar.firstDate.filter (day < ·) <;> cases calendar.lastDate.filter (· < day) <;> simp

/-- A weekday that is allowed is admitted unless a holiday is blocked. -/
theorem admits_of_allowsWeekday (allowed : calendar.allowsWeekday day.weekday.val)
    (free : ¬ (holidays.isHoliday (calendar.country holidays) day
      ∧ calendar.holidayPolicy = .block)) :
    calendar.admits holidays day = .ok true := by
  apply admits_eq_true_iff.mpr
  exact ⟨fun blocked => free blocked.symm, .inr (.inr allowed)⟩

/-- The weekday settles whether a calendar offers a day, apart from its range and the holidays
that it blocks. -/
theorem offers_or_withholds (allowed : calendar.allowsWeekday day.weekday.val) :
    calendar.Offers holidays day ∨ calendar.Withholds holidays day := by
  by_cases withheld : calendar.Withholds holidays day
  · exact .inr withheld
  · rw [Withholds, not_or, not_or] at withheld
    obtain ⟨early, late, blocked⟩ := withheld
    refine .inl ⟨?_, ?_, admits_of_allowsWeekday allowed blocked⟩
    · intro first begins
      exact Nat.le_of_not_lt fun before => early ⟨first, begins, before⟩
    · intro last ends
      exact Nat.le_of_not_lt fun after => late ⟨last, ends, after⟩

end Calendar

/-! ## What is decided on -/

theorem Board.allowsWeekday_of_weekdayOf {calendar : Calendar} {number : Option Int}
    {weekday : Weekday} (found : weekdayOf calendar number = .ok weekday) :
    calendar.allowsWeekday weekday.val := by
  rw [weekdayOf] at found
  split at found
  · cases found
  · split at found
    next allowed =>
      cases found
      exact allowed
    · cases found

/-- Availabilities are on days that their calendars offer, and recurrences on weekdays that
they allow. -/
def Records.Offered (records : Records) (holidays : Holidays) : Prop :=
  records.Vetted (fun calendar availability => calendar.Offers holidays availability.day)
    fun calendar recurrence => calendar.allowsWeekday recurrence.weekday.val

/-- A booking is for a day that its calendar offers, a revision keeps the day, and terms are
for a weekday that the calendar allows. -/
theorem Surroundings.vets_offers (surroundings : Surroundings) :
    surroundings.Vets
      (fun calendar availability => calendar.Offers surroundings.holidays availability.day)
      fun calendar recurrence => calendar.allowsWeekday recurrence.weekday.val := by
  refine ⟨?_, ?_, ?_⟩
  · intro board token participantId request booking booked id
    obtain ⟨-, -, range, admitted, -⟩ := Board.book_eq_ok booked
    obtain ⟨begins, ends⟩ := Calendar.checkRange_eq_ok_iff.mp range
    exact ⟨begins, ends, admitted⟩
  · intro board token participantId day patch calendar participant present revised known decided
      offered
    obtain ⟨present', -, -, -, slot, known', -, -, -, -, same⟩ := Board.revise_eq_ok decided
    rw [known] at known'
    cases known'
    rw [same]
    exact offered
  · intro board calendar participant request replaced terms agreed present
    obtain ⟨allowed, -⟩ := Board.terms_eq_ok agreed
    exact Board.allowsWeekday_of_weekdayOf allowed

/-! ## What is shown -/

namespace Records

variable {records : Records} {calendar : Calendar} {holidays : Holidays} {day : Date}

/-- Whoever a date shows entered it, or has a recurrence that covers it. -/
theorem exists_of_mem_contributionsOn {calendarId : String} {contribution : Contribution}
    (inside : contribution ∈ records.contributionsOn calendarId day) :
    (∃ availability, availability ∈ records.enteredOn calendarId day)
      ∨ ∃ recurrence, recurrence ∈ records.repeatedOn calendarId day := by
  rw [contributionsOn_eq_merged, merged] at inside
  rcases List.mem_append.mp inside with entered | repeated
  · obtain ⟨availability, among, -⟩ := List.mem_filterMap.mp entered
    exact .inl ⟨availability, among⟩
  · obtain ⟨recurrence, among, -⟩ := List.mem_filterMap.mp repeated
    exact .inr ⟨recurrence, among⟩

/-- A date that shows anybody is offered, or it is withheld and nobody entered it. -/
theorem Offered.offers_of_shown (offered : records.Offered holidays)
    (stored : calendar ∈ records.calendars.rows) {contribution : Contribution}
    (inside : contribution ∈ records.contributionsOn calendar.id day) :
    calendar.Offers holidays day
      ∨ (records.enteredOn calendar.id day = [] ∧ calendar.allowsWeekday day.weekday.val
        ∧ calendar.Withholds holidays day) := by
  have entered : ∀ availability ∈ records.enteredOn calendar.id day,
      calendar.Offers holidays day := by
    intro availability among
    obtain ⟨present, here, member⟩ := mem_enteredOn.mp among
    exact here ▸ offered.entries availability present calendar
      (member_of_isSome_member? stored member)
  by_cases nobody : records.enteredOn calendar.id day = []
  · rcases exists_of_mem_contributionsOn inside with ⟨availability, among⟩ | ⟨recurrence, among⟩
    · exact .inl (entered availability among)
    · obtain ⟨present, member, covered, -, -⟩ := mem_repeatedOn.mp among
      have allowed := offered.repetitions recurrence present calendar
        (member_of_isSome_member? stored member)
      rw [← (Recurrence.covers_iff.mp covered).1] at allowed
      rcases Calendar.offers_or_withholds allowed with offered | withheld
      · exact .inl offered
      · exact .inr ⟨nobody, allowed, withheld⟩
  · obtain ⟨availability, among⟩ := List.exists_mem_of_ne_nil _ nobody
    exact .inl (entered availability among)

end Records

/-! ## What is announced -/

namespace Board

variable {surroundings : Surroundings} {board : Board} {operation : Operation}
  {transition : Transition}

theorem eq_of_mem_transitions_checkThreshold {calendarId : String} {day : Date} {previous : Int}
    (inside : transition
      ∈ (board.checkThreshold surroundings calendarId day previous).transitions) :
    transition.calendarId = calendarId ∧ transition.day = day := by
  rcases board.checkThreshold_cases surroundings calendarId day previous with
    ⟨silent, -⟩ | ⟨calendar, config, current, -, announced⟩
  · exact absurd inside silent.not_mem_transitions
  · rw [announced, transitions_announce, List.mem_singleton] at inside
    rw [inside]
    exact ⟨rfl, rfl⟩

/-- An availability that is there to be changed is on a day that its calendar offers. -/
theorem offers_of_present {token participantId text : String} {calendar calendar' : Calendar}
    {participant : Participant} {present : Availability}
    (offered : board.records.Offered surroundings.holidays)
    (known : board.present surroundings token participantId text
      = .ok (calendar', participant, present))
    (stored : calendar ∈ board.records.calendars.rows) (same : calendar.id = calendar'.id) :
    calendar.Offers surroundings.holidays present.day := by
  obtain ⟨located, -, found⟩ := present_eq_ok known
  obtain ⟨-, member, -, belongs⟩ := Records.locate_eq_ok located
  obtain ⟨inside, own, -⟩ := Records.mem_of_availabilityOn? found
  exact offered.entries present inside calendar
    ⟨stored, participant, member, own.symm, belongs.trans same.symm⟩

/-- A change is checked for a crossed threshold on a day that its calendar offers. -/
theorem offers_of_mem_transitions
    (offered : board.records.Offered surroundings.holidays)
    (plain : operation.isNotice = false)
    (inside : transition ∈ (board.perform surroundings operation).transitions)
    {calendar : Calendar} (stored : calendar ∈ board.records.calendars.rows)
    (same : calendar.id = transition.calendarId) :
    calendar.Offers surroundings.holidays transition.day := by
  cases perform_change surroundings board operation with
  | enter number asked decided absent next publishes =>
    rw [publishes.follows_checkThreshold.transitions] at inside
    obtain ⟨sameId, sameDay⟩ := eq_of_mem_transitions_checkThreshold inside
    obtain ⟨located, -, range, admitted, -⟩ := book_eq_ok decided
    obtain ⟨⟨stored', -⟩, -⟩ := Records.locate_eq_ok located
    have one := Table.eq_of_key stored stored' (same.trans sameId)
    obtain ⟨begins, ends⟩ := Calendar.checkRange_eq_ok_iff.mp range
    rw [one, sameDay]
    exact ⟨begins, ends, admitted⟩
  | @revise token participantId day patch calendar' participant revised asked decided publishes =>
    rw [publishes.follows_checkThreshold.transitions] at inside
    obtain ⟨sameId, sameDay⟩ := eq_of_mem_transitions_checkThreshold inside
    obtain ⟨present, -, -, -, slot, known, -, -, -, -, kept⟩ := revise_eq_ok decided
    have kept' : revised.day = present.day := by rw [kept]
    rw [sameDay, kept']
    exact offers_of_present offered known stored (same.trans sameId)
  | withdraw asked decided publishes =>
    rw [publishes.follows_checkThreshold.transitions] at inside
    obtain ⟨sameId, sameDay⟩ := eq_of_mem_transitions_checkThreshold inside
    rw [sameDay]
    exact offers_of_present offered decided stored (same.trans sameId)
  | request asked stored lasts publishes =>
    rw [publishes.follows.transitions] at inside
    exact absurd inside (by rw [react, transitions_sendVerification]; exact List.not_mem_nil)
  | check asked events follows =>
    rw [asked] at plain
    cases plain
  | nothing tokens outages more fewer reaches => exact absurd inside reaches.silent.not_mem_transitions
  | agree number asked located decided next reaches =>
    exact absurd inside reaches.silent.not_mem_transitions
  | amend asked owned decided reaches => exact absurd inside reaches.silent.not_mem_transitions
  | drop asked owned reaches => exact absurd inside reaches.silent.not_mem_transitions
  | exclude number asked decided absent next reaches =>
    exact absurd inside reaches.silent.not_mem_transitions
  | restore asked decided reaches => exact absurd inside reaches.silent.not_mem_transitions
  | confirm asked found unverified timely reaches =>
    exact absurd inside reaches.silent.not_mem_transitions
  | clean asked retained reaches => exact absurd inside reaches.silent.not_mem_transitions
  | advance asked moved reaches => exact absurd inside reaches.silent.not_mem_transitions

theorem offered_after {holidays : Holidays} (run : List (Surroundings × Operation))
    (fixed : ∀ surrounded ∈ run, surrounded.1.holidays = holidays)
    (offered : board.records.Offered holidays) : (board.after run).records.Offered holidays := by
  refine vetted_after board run ?_ offered
  intro surrounded inside
  rw [← fixed surrounded inside]
  exact surrounded.1.vets_offers

/-- Where nobody was available at first and the holidays stay the same: an availability is on a
day that its calendar offers, and a recurrence on a weekday that it allows.  A date that shows
anybody is offered, unless nobody entered it, its weekday is allowed, and the calendar does not
reach it or blocks it as a holiday.  A change is checked for a crossed threshold only on a day
that is offered. -/
theorem shown_is_offered (board : Board) (run : List (Surroundings × Operation))
    (holidays : Holidays) (noAvailability : board.records.availabilities.rows = [])
    (noRecurrence : board.records.recurrences.rows = [])
    (fixed : ∀ surrounded ∈ run, surrounded.1.holidays = holidays) :
    (∀ calendar ∈ board.records.calendars.rows,
      let records := (board.after run).records
      (∀ availability ∈ records.availabilities.rows,
        (records.member? calendar.id availability.participantId).isSome →
        calendar.Offers holidays availability.day)
      ∧ (∀ recurrence ∈ records.recurrences.rows,
        (records.member? calendar.id recurrence.participantId).isSome →
        calendar.allowsWeekday recurrence.weekday.val)
      ∧ ∀ day, ∀ contribution ∈ records.contributionsOn calendar.id day,
        calendar.Offers holidays day
          ∨ (records.enteredOn calendar.id day = [] ∧ calendar.allowsWeekday day.weekday.val
            ∧ calendar.Withholds holidays day))
    ∧ ∀ first surroundings operation rest, run = first ++ (surroundings, operation) :: rest →
      operation.isNotice = false →
      ∀ transition ∈ ((board.after first).perform surroundings operation).transitions,
      ∀ calendar ∈ board.records.calendars.rows, calendar.id = transition.calendarId →
        calendar.Offers holidays transition.day := by
  have start : board.records.Offered holidays := by
    refine ⟨?_, ?_⟩ <;> simp [noAvailability, noRecurrence]
  refine ⟨?_, ?_⟩
  · intro calendar stored
    have offered := offered_after run fixed start
    rw [← calendars_after board run] at stored
    refine ⟨?_, ?_, ?_⟩
    · intro availability inside member
      exact offered.entries availability inside calendar
        (Records.member_of_isSome_member? stored member)
    · intro recurrence inside member
      exact offered.repetitions recurrence inside calendar
        (Records.member_of_isSome_member? stored member)
    · intro day contribution inside
      exact offered.offers_of_shown stored inside
  · rintro first surroundings operation rest rfl plain transition inside calendar stored same
    have fixed' : ∀ surrounded ∈ first, surrounded.1.holidays = holidays := fun surrounded among =>
      fixed surrounded (List.mem_append_left _ among)
    have here : surroundings.holidays = holidays :=
      fixed _ (List.mem_append_right _ List.mem_cons_self)
    have offered := offered_after first fixed' start
    rw [← calendars_after board first] at stored
    rw [← here] at offered ⊢
    exact offers_of_mem_transitions offered plain inside stored same

end Board

/-! ## A holiday that is blocked, and a calendar that ends -/

/-- A calendar that blocks the holidays of its country and ends with June 2025. -/
def Calendar.sampleBounded : Calendar :=
  { Calendar.sample with
    timezone := "Europe/Paris"
    holidayPolicy := .block
    lastDate := some ⟨739432, by decide, by decide⟩ }

def Board.sampleBounded : Board :=
  { sample with
    records := { sample.records with calendars := ⟨[.sampleBounded], by decide⟩ } }

/-- Surroundings in which 2025-06-05 is a holiday. -/
def Surroundings.sampleFestive : Surroundings :=
  { Surroundings.sample with
    holidays :=
      { Holidays.sample with
        named := fun country day =>
          if country = "FR" ∧ day = Date.sample then some "Feast" else none } }

/-- A weekly slot, and an availability on another weekday. -/
def Board.sampleBoundedRun : List (Surroundings × Operation) :=
  [(.sampleFestive, .createRecurrence "open" "ann" ⟨some 4, none, none, none, "2025-06-01", none⟩),
    (.sampleFestive, .createAvailability "open" "bob" ⟨"2025-06-10", none, none, none⟩)]

namespace Board

theorem shown_is_offered_sample :
    let holidays := Surroundings.sampleFestive.holidays
    let records := (sampleBounded.after sampleBoundedRun).records
    sampleBounded.records.availabilities.rows = [] ∧ sampleBounded.records.recurrences.rows = []
      ∧ (∀ surrounded ∈ sampleBoundedRun, surrounded.1.holidays = holidays)
      ∧ records.availabilities.rows.length = 1 ∧ records.recurrences.rows.length = 1
      ∧ ∀ availability ∈ records.availabilities.rows,
        (records.member? "club" availability.participantId).isSome →
        Calendar.sampleBounded.Offers holidays availability.day := by
  intro holidays records
  have fixed : ∀ surrounded ∈ sampleBoundedRun, surrounded.1.holidays = holidays := by
    intro surrounded inside
    simp only [sampleBoundedRun, List.mem_cons, List.not_mem_nil, or_false] at inside
    rcases inside with rfl | rfl <;> rfl
  obtain ⟨stored, -⟩ := shown_is_offered sampleBounded sampleBoundedRun holidays rfl rfl fixed
  exact ⟨rfl, rfl, fixed, by decide +kernel, by decide +kernel,
    (stored .sampleBounded List.mem_cons_self).1⟩

/-- The weekly slot shows its participant on the blocked holiday and after the end of the
calendar, and so often as the threshold asks; nobody can enter these days. -/
theorem shown_of_withheld :
    let holidays := Surroundings.sampleFestive.holidays
    let board := sampleBounded.after sampleBoundedRun
    let late : Date := ⟨739435, by decide, by decide⟩
    sampleBounded.records.availabilities.rows = [] ∧ sampleBounded.records.recurrences.rows = []
      ∧ (board.records.contributionsOn "club" .sample).map Contribution.participantId
        = [some "ann"]
      ∧ Calendar.sampleBounded.admits holidays .sample = .ok false
      ∧ (board.perform .sampleFestive (.sampleEntry "bob")).outcome
        = .error (.refused .weekdayNotAllowed)
      ∧ (board.records.contributionsOn "club" late).map Contribution.participantId = [some "ann"]
      ∧ ¬ Calendar.sampleBounded.Offers holidays late
      ∧ board.records.simultaneous "club" late = Calendar.sampleBounded.threshold := by
  refine ⟨rfl, rfl, by decide +kernel, by decide +kernel, by decide +kernel, by decide +kernel,
    ?_, by decide +kernel⟩
  intro offered
  exact absurd (offered.ends _ rfl) (by decide)

end Board

end Rendezvous
