import Rendezvous.Proofs.Deeds
import Rendezvous.Proofs.Intervals
import Rendezvous.Proofs.Keeping

/-!
# What an amendment leaves alone

A patch names the parts of an availability that are to change.  Of the two times the one that is
not named stays as it is, for what was moved into the window of a day once is not moved again.
Only where the other time passes it do the two change places.
-/

namespace Rendezvous

open TimeOfDay (minutes?)

/-! ## Times in order -/

namespace TimeOfDay

theorem compare_eq_ok_iff {a b : String} {order : Ordering} :
    compare a b = .ok order
      ↔ ∃ first last, minutes? a = some first ∧ minutes? b = some last
        ∧ Ord.compare first last = order := by
  unfold compare minutes
  cases minutes? a with
  | none => simp [bind, Except.bind]
  | some first =>
    cases minutes? b with
    | none => simp [bind, Except.bind]
    | some last => simp [bind, Except.bind, pure, Except.pure]

theorem compare_trans {a b c : Int} {order : Ordering} (first : Ord.compare a b = order)
    (second : Ord.compare b c = order) : Ord.compare a c = order := by
  cases order <;>
    simp only [Int.compare_eq_lt, Int.compare_eq_eq, Int.compare_eq_gt] at first second ⊢ <;> omega

/-- Whether two sides of a slot are times, the first of which is the later one. -/
def IsAfter (a b : Option String) : Prop :=
  ∃ first last, a.bind minutes? = some first ∧ b.bind minutes? = some last ∧ last < first

theorem given_eq_some_iff {side : Option String} {text : String} :
    given side = some text ↔ side = some text ∧ text ≠ "" := by
  rw [given, Option.filter_eq_some_iff, decide_eq_true_eq]

/-- No text without characters is a time. -/
theorem ne_empty_of_minutes? {text : String} {minute : Int} (known : minutes? text = some minute) :
    text ≠ "" := by
  rintro rfl
  cases known

theorem bind_minutes?_eq_some_iff {side : Option String} {minute : Int} :
    side.bind minutes? = some minute
      ↔ ∃ text, given side = some text ∧ minutes? text = some minute := by
  simp only [Option.bind_eq_some_iff, given_eq_some_iff]
  constructor
  · rintro ⟨text, same, known⟩
    exact ⟨text, ⟨same, ne_empty_of_minutes? known⟩, known⟩
  · rintro ⟨text, ⟨same, -⟩, known⟩
    exact ⟨text, same, known⟩

end TimeOfDay

open TimeOfDay (IsAfter)

/-- The two sides change places where the first is the later one, and only there. -/
theorem Slot.ordered_eq_ok {slot ordered : Slot} (found : slot.ordered = .ok ordered) :
    IsAfter slot.start slot.stop ∧ ordered = ⟨slot.stop, slot.start⟩
      ∨ ¬ IsAfter slot.start slot.stop ∧ ordered = slot := by
  unfold Slot.ordered at found
  split at found
  next start stop begins ends =>
    obtain ⟨order, compared, found⟩ := Except.bind_eq_ok_iff.mp found
    obtain ⟨first, last, known, known', decided⟩ := TimeOfDay.compare_eq_ok_iff.mp compared
    cases found
    have first_eq := TimeOfDay.bind_minutes?_eq_some_iff.mpr ⟨start, begins, known⟩
    have last_eq := TimeOfDay.bind_minutes?_eq_some_iff.mpr ⟨stop, ends, known'⟩
    split
    next after =>
      rw [← decided, Int.compare_eq_gt] at after
      exact .inl ⟨⟨first, last, first_eq, last_eq, after⟩, rfl⟩
    next inOrder =>
      rw [← decided, Int.compare_eq_gt] at inOrder
      refine .inr ⟨?_, rfl⟩
      rintro ⟨first', last', begins', ends', after⟩
      cases first_eq.symm.trans begins'
      cases last_eq.symm.trans ends'
      exact inOrder after
  next missing =>
    cases found
    refine .inr ⟨?_, rfl⟩
    rintro ⟨first, last, begins, ends, -⟩
    obtain ⟨start, begins, -⟩ := TimeOfDay.bind_minutes?_eq_some_iff.mp begins
    obtain ⟨stop, ends, -⟩ := TimeOfDay.bind_minutes?_eq_some_iff.mp ends
    exact missing start stop begins ends

/-! ## Sides that are moved to a bound -/

namespace Window

/-- A side of a slot, which is moved to a bound where it is missing or lies beyond it. -/
def adjustSide (bound : Option String) (edge : String) (beyond : Ordering)
    (side : Option String) : Except Failure (Option String) :=
  match bound, TimeOfDay.given side with
  | some bound, none => .ok (some bound)
  | some bound, some time => do
      let order ← TimeOfDay.compare time bound
      pure (some (if order = beyond then bound else time))
  | none, none => .ok (some edge)
  | none, some time => .ok (some time)

theorem adjustStart_eq (window : Window) :
    window.adjustStart = adjustSide window.opens TimeOfDay.dayStart .lt := rfl

theorem adjustStop_eq (window : Window) :
    window.adjustStop = adjustSide window.closes TimeOfDay.dayEnd .gt := rfl

/-- A side as it is once it was moved. -/
inductive Settled (bound : Option String) (beyond : Ordering) : Option String → Prop where
  | free {text : String} (unbounded : bound = none) (given : text ≠ "") :
      Settled bound beyond (some text)
  | moved {edge : String} (bounded : bound = some edge) : Settled bound beyond (some edge)
  | within {edge text : String} {order : Ordering} (bounded : bound = some edge)
      (compared : TimeOfDay.compare text edge = .ok order) (inside : order ≠ beyond) :
      Settled bound beyond (some text)

variable {bound : Option String} {edge : String} {beyond : Ordering}
  {side moved : Option String}

theorem settled_of_adjustSide (visible : edge ≠ "")
    (found : adjustSide bound edge beyond side = .ok moved) : Settled bound beyond moved := by
  unfold adjustSide at found
  split at found
  next =>
    cases found
    exact .moved rfl
  next bound time _ =>
    obtain ⟨order, compared, found⟩ := Except.bind_eq_ok_iff.mp found
    cases found
    split
    next => exact .moved rfl
    next inside => exact .within rfl compared inside
  next =>
    cases found
    exact .free rfl visible
  next given =>
    cases found
    exact .free rfl (TimeOfDay.given_eq_some_iff.mp given).2

/-- What was moved to a bound is not moved to it again. -/
theorem Settled.stays (settled : Settled bound beyond side)
    (found : adjustSide bound edge beyond side = .ok moved) : moved = side := by
  unfold adjustSide at found
  cases settled with
  | free unbounded given =>
    rw [unbounded, TimeOfDay.given_eq_some_iff.mpr ⟨rfl, given⟩] at found
    cases found
    rfl
  | @moved edge bounded =>
    rw [bounded] at found
    split at found
    next same _ =>
      cases same
      cases found
      rfl
    next time same given =>
      cases same
      cases (TimeOfDay.given_eq_some_iff.mp given).1
      obtain ⟨order, -, found⟩ := Except.bind_eq_ok_iff.mp found
      cases found
      rw [ite_self]
    next absent _ => cases absent
    next absent _ => cases absent
  | @within edge text order bounded compared inside =>
    obtain ⟨first, -, known, -⟩ := TimeOfDay.compare_eq_ok_iff.mp compared
    have given := TimeOfDay.given_eq_some_iff.mpr ⟨rfl, TimeOfDay.ne_empty_of_minutes? known⟩
    rw [bounded, given] at found
    simp only [compared, Except.ok_bind, if_neg inside] at found
    cases found
    rfl

/-- A time that lies farther inside a bound than a side that was moved to it is not moved. -/
theorem Settled.stays_inside (settled : Settled bound beyond side) {text : String} {last : Int}
    (known : minutes? text = some last) (strict : beyond ≠ .eq)
    (farther : ∀ first, side.bind minutes? = some first → Ord.compare first last = beyond)
    (found : adjustSide bound edge beyond (some text) = .ok moved) : moved = some text := by
  have given := TimeOfDay.given_eq_some_iff.mpr ⟨rfl, TimeOfDay.ne_empty_of_minutes? known⟩
  unfold adjustSide at found
  rw [given] at found
  cases bound with
  | none =>
    cases found
    rfl
  | some edge =>
    obtain ⟨order, compared, found⟩ := Except.bind_eq_ok_iff.mp found
    cases found
    rw [if_neg]
    -- were the time beyond the bound, the side would be so too
    rintro rfl
    obtain ⟨last', opening, known', known'', crossed⟩ := TimeOfDay.compare_eq_ok_iff.mp compared
    cases known.symm.trans known'
    cases settled with
    | free unbounded _ => cases unbounded
    | moved bounded =>
      cases bounded
      have same := TimeOfDay.compare_trans (farther opening known'') crossed
      rw [Int.compare_eq_eq.mpr rfl] at same
      exact strict same.symm
    | within bounded compared inside =>
      cases bounded
      obtain ⟨first, opening', begins, known''', decided⟩ :=
        TimeOfDay.compare_eq_ok_iff.mp compared
      cases known''.symm.trans known'''
      exact inside (decided.symm.trans (TimeOfDay.compare_trans (farther first begins) crossed))

theorem adjustSide_of_free {minute : Int} (known : side.bind minutes? = some minute) :
    adjustSide none edge beyond side = .ok side := by
  obtain ⟨text, given, -⟩ := TimeOfDay.bind_minutes?_eq_some_iff.mp known
  unfold adjustSide
  rw [given, (TimeOfDay.given_eq_some_iff.mp given).1]

/-- A slot that came out of a window: its times are in order, and its sides were moved to the
bounds of the window if it has any. -/
structure Settles (window : Window) (slot : Slot) : Prop where
  forward : ∀ first last, slot.start.bind minutes? = some first →
    slot.stop.bind minutes? = some last → first < last
  opened : window.isUnbounded = false → Settled window.opens .lt slot.start
  closed : window.isUnbounded = false → Settled window.closes .gt slot.stop

variable {window : Window} {leastHours : Nat} {present slot fitted : Slot}
  {asked : Option String}

/-- What comes out of a window is what was put in order and moved into it. -/
theorem exists_ordered_of_fit (fits : window.fit leastHours slot = .ok fitted) :
    ∃ ordered, slot.ordered = .ok ordered ∧ window.adjust ordered = .ok fitted
      ∧ checkLength leastHours fitted = .ok () := by
  obtain ⟨ordered, inOrder, fits⟩ := Except.bind_eq_ok_iff.mp fits
  obtain ⟨empty, -, fits⟩ := Except.bind_eq_ok_iff.mp fits
  split at fits
  next => cases fits
  next =>
    obtain ⟨adjusted, moved, fits⟩ := Except.bind_eq_ok_iff.mp fits
    obtain ⟨⟨⟩, long, fits⟩ := Except.bind_eq_ok_iff.mp fits
    cases fits
    exact ⟨ordered, inOrder, moved, long⟩

theorem adjust_eq_ok (moved : window.adjust slot = .ok fitted) :
    window.isUnbounded ∧ fitted = slot
      ∨ window.isUnbounded = false ∧ window.adjustStart slot.start = .ok fitted.start
        ∧ window.adjustStop slot.stop = .ok fitted.stop := by
  unfold adjust at moved
  split at moved
  next free =>
    cases moved
    exact .inl ⟨free, rfl⟩
  next bounded =>
    obtain ⟨start, first, moved⟩ := Except.bind_eq_ok_iff.mp moved
    obtain ⟨stop, last, moved⟩ := Except.bind_eq_ok_iff.mp moved
    cases moved
    exact .inr ⟨Bool.eq_false_iff.mpr bounded, first, last⟩

theorem forward_of_checkLength (long : checkLength leastHours slot = .ok ()) {first last : Int}
    (begins : slot.start.bind minutes? = some first) (ends : slot.stop.bind minutes? = some last) :
    first < last := by
  obtain ⟨start, given, known⟩ := TimeOfDay.bind_minutes?_eq_some_iff.mp begins
  obtain ⟨stop, given', known'⟩ := TimeOfDay.bind_minutes?_eq_some_iff.mp ends
  unfold checkLength at long
  simp only [given, given', TimeOfDay.compare_of_minutes? known known', Except.ok_bind] at long
  split at long
  next => cases long
  next forward => exact Int.compare_eq_lt.mp (not_not.mp forward)

theorem settles_of_fit (fits : window.fit leastHours slot = .ok fitted) :
    window.Settles fitted := by
  obtain ⟨ordered, -, moved, long⟩ := exists_ordered_of_fit fits
  refine ⟨fun _ _ => forward_of_checkLength long, ?_, ?_⟩
  all_goals
    intro bounded
    rcases adjust_eq_ok moved with ⟨free, -⟩ | ⟨-, first, last⟩
    · cases bounded.symm.trans free
  · exact settled_of_adjustSide (by decide) first
  · exact settled_of_adjustSide (by decide) last

/-- A stop that settled in a window stays where a new start is not after it.  Otherwise it becomes
the start, and the new start is moved to the closing as a stop. -/
theorem Settles.refit_start (settles : window.Settles present)
    (fits : window.fit leastHours ⟨asked, present.stop⟩ = .ok fitted) :
    (¬ IsAfter asked present.stop → fitted.stop = present.stop)
      ∧ (IsAfter asked present.stop →
        fitted.start = present.stop ∧ window.adjustStop asked = .ok fitted.stop) := by
  obtain ⟨ordered, inOrder, moved, -⟩ := exists_ordered_of_fit fits
  rcases Slot.ordered_eq_ok inOrder with ⟨after, rfl⟩ | ⟨before, rfl⟩
  · refine ⟨absurd after, fun _ => ?_⟩
    obtain ⟨first, last, begins, ends, -⟩ := after
    rcases adjust_eq_ok moved with ⟨free, rfl⟩ | ⟨bounded, start, stop⟩
    · refine ⟨rfl, ?_⟩
      rw [adjustStop_eq, (bounds_of_isUnbounded free).2]
      exact adjustSide_of_free begins
    · refine ⟨?_, stop⟩
      obtain ⟨text, kept, known⟩ := Option.bind_eq_some_iff.mp ends
      dsimp only at kept start
      rw [kept] at start ⊢
      apply (settles.opened bounded).stays_inside known Ordering.noConfusion _ start
      intro earlier begins'
      exact Int.compare_eq_lt.mpr (settles.forward earlier last begins' ends)
  · refine ⟨fun _ => ?_, fun after => absurd after before⟩
    rcases adjust_eq_ok moved with ⟨-, rfl⟩ | ⟨bounded, -, last⟩
    · rfl
    · exact (settles.closed bounded).stays last

/-- A start that settled in a window stays where it is not after a new stop.  Otherwise it becomes
the stop, and the new stop is moved to the opening as a start. -/
theorem Settles.refit_stop (settles : window.Settles present)
    (fits : window.fit leastHours ⟨present.start, asked⟩ = .ok fitted) :
    (¬ IsAfter present.start asked → fitted.start = present.start)
      ∧ (IsAfter present.start asked →
        fitted.stop = present.start ∧ window.adjustStart asked = .ok fitted.start) := by
  obtain ⟨ordered, inOrder, moved, -⟩ := exists_ordered_of_fit fits
  rcases Slot.ordered_eq_ok inOrder with ⟨after, rfl⟩ | ⟨before, rfl⟩
  · refine ⟨absurd after, fun _ => ?_⟩
    obtain ⟨first, last, begins, ends, -⟩ := after
    rcases adjust_eq_ok moved with ⟨free, rfl⟩ | ⟨bounded, start, stop⟩
    · refine ⟨rfl, ?_⟩
      rw [adjustStart_eq, (bounds_of_isUnbounded free).1]
      exact adjustSide_of_free ends
    · refine ⟨?_, start⟩
      obtain ⟨text, kept, known⟩ := Option.bind_eq_some_iff.mp begins
      dsimp only at kept stop
      rw [kept] at stop ⊢
      apply (settles.closed bounded).stays_inside known Ordering.noConfusion _ stop
      intro later ends'
      exact Int.compare_eq_gt.mpr (settles.forward first later begins ends')
  · refine ⟨fun _ => ?_, fun after => absurd after before⟩
    rcases adjust_eq_ok moved with ⟨-, rfl⟩ | ⟨bounded, first, -⟩
    · rfl
    · exact (settles.opened bounded).stays first

end Window

/-! ## Patches -/

/-- What a patch makes of the two times of an availability.  One that it does not name stays, unless
the other one, which it names, passes it.  Then it takes the place of the other one, and that is
moved into the window from the other side. -/
structure AvailabilityPatch.Amends (patch : AvailabilityPatch) (window : Window)
    (present amended : Slot) : Prop where
  start : patch.start = none →
    (∀ text asked, patch.stop = some text → TimeOfDay.request text = .ok asked →
      ¬ IsAfter present.start asked) →
    amended.start = present.start
  stop : patch.stop = none →
    (∀ text asked, patch.start = some text → TimeOfDay.request text = .ok asked →
      ¬ IsAfter asked present.stop) →
    amended.stop = present.stop
  startPasses : ∀ text asked, patch.start = some text → patch.stop = none →
    TimeOfDay.request text = .ok asked → IsAfter asked present.stop →
    amended.start = present.stop ∧ window.adjustStop asked = .ok amended.stop
  stopPasses : ∀ text asked, patch.stop = some text → patch.start = none →
    TimeOfDay.request text = .ok asked → IsAfter present.start asked →
    amended.stop = present.start ∧ window.adjustStart asked = .ok amended.start

theorem Window.Settles.not_isAfter {window : Window} {slot : Slot}
    (settles : window.Settles slot) : ¬ IsAfter slot.start slot.stop := by
  rintro ⟨first, last, begins, ends, after⟩
  have forward := settles.forward first last begins ends
  omega

theorem AvailabilityPatch.amends_of_fit {patch : AvailabilityPatch} {window : Window}
    {leastHours : Nat} {present amended : Slot} {start stop : Option String}
    (settles : window.Settles present)
    (first : Board.patched patch.start present.start = .ok start)
    (last : Board.patched patch.stop present.stop = .ok stop)
    (fits : window.fit leastHours ⟨start, stop⟩ = .ok amended) :
    patch.Amends window present amended := by
  constructor
  · intro unnamed inOrder
    rw [unnamed] at first
    cases first
    apply (settles.refit_stop fits).1
    cases named : patch.stop with
    | none =>
      rw [named] at last
      cases last
      exact settles.not_isAfter
    | some text =>
      rw [named] at last
      exact inOrder text stop named last
  · intro unnamed inOrder
    rw [unnamed] at last
    cases last
    apply (settles.refit_start fits).1
    cases named : patch.start with
    | none =>
      rw [named] at first
      cases first
      exact settles.not_isAfter
    | some text =>
      rw [named] at first
      exact inOrder text start named first
  · intro text asked named unnamed read after
    rw [named] at first
    rw [unnamed] at last
    cases last
    cases first.symm.trans read
    exact (settles.refit_start fits).2 after
  · intro text asked named unnamed read after
    rw [named] at last
    rw [unnamed] at first
    cases first
    cases last.symm.trans read
    exact (settles.refit_stop fits).2 after

/-! ## Stored availabilities -/

/-- Whether the slot of an availability came out of the window of its day. -/
def Calendar.Settles (calendar : Calendar) (holidays : Holidays) (availability : Availability) :
    Prop :=
  ∃ window, calendar.window holidays availability.day = .ok window
    ∧ window.Settles availability.slot

theorem Surroundings.vets_settles (surroundings : Surroundings) :
    surroundings.Vets (fun calendar => calendar.Settles surroundings.holidays)
      fun _ _ => True := by
  constructor
  · intro board token participantId request booking booked id
    obtain ⟨-, -, -, -, start, stop, window, -, -, hours, fits⟩ := Board.book_eq_ok booked
    exact ⟨window, hours, Window.settles_of_fit fits⟩
  · intro board token participantId day patch calendar participant present revised known decided
      settles
    obtain ⟨present', start, stop, window, slot, -, -, -, hours, fits, same⟩ :=
      Board.revise_eq_ok decided
    rw [same]
    exact ⟨window, hours, Window.settles_of_fit fits⟩
  · intro board calendar participant request replaced terms agreed present
    trivial

/-- How records change with an availability that a patch amends: nothing of it changes that the patch
does not name, apart from what becomes of the times and from the time of the last change, and
nothing else changes at all. -/
structure Records.Amended (before after : Records) (calendar : Calendar) (holidays : Holidays)
    (patch : AvailabilityPatch) (present amended : Availability) : Prop where
  rest : after = { before with availabilities := before.availabilities.put amended }
  id : amended.id = present.id
  participantId : amended.participantId = present.participantId
  day : amended.day = present.day
  source : amended.source = present.source
  recurrenceId : amended.recurrenceId = present.recurrenceId
  createdAt : amended.createdAt = present.createdAt
  note : patch.note = none → amended.note = present.note
  times : ∃ window, calendar.window holidays present.day = .ok window
    ∧ patch.Amends window present.slot amended.slot

namespace Board

/-- Whatever is stored of the participants of a calendar came out of the window of its day. -/
theorem settles_after {board : Board} {run : List (Surroundings × Operation)}
    {holidays : Holidays} (noAvailability : board.records.availabilities.rows = [])
    (fixed : ∀ surrounded ∈ run, surrounded.1.holidays = holidays) {calendar : Calendar}
    {availability : Availability}
    (inside : availability ∈ (board.after run).records.availabilities.rows)
    (member : (board.after run).records.Member calendar availability.participantId) :
    calendar.Settles holidays availability := by
  have vetted : (board.after run).records.Vetted (fun calendar => calendar.Settles holidays)
      fun _ _ => True := by
    apply vetted_after board run
    · intro surrounded among
      rw [← fixed surrounded among]
      exact surrounded.1.vets_settles
    · constructor
      · simp [noAvailability]
      · exact fun _ _ _ _ => trivial
  exact vetted.entries availability inside calendar member

/-- Where nobody had entered anything at first and the holidays stay the same, an update amends the
availability that it is about, and nothing else. -/
theorem updateAvailability_amends (board : Board) (run : List (Surroundings × Operation))
    (surroundings : Surroundings) (noAvailability : board.records.availabilities.rows = [])
    (fixed : ∀ surrounded ∈ run, surrounded.1.holidays = surroundings.holidays)
    (token participantId day : String) (patch : AvailabilityPatch) :
    let before := board.after run
    let step := before.updateAvailability surroundings token participantId day patch
    ∀ receipt, step.outcome = .ok receipt →
      ∃ calendar participant present amended,
        before.records.locate token participantId = .ok (calendar, participant)
        ∧ Date.request day = .ok present.day
        ∧ before.records.availabilityOn? participant.id present.day = some present
        ∧ before.records.Amended step.board.records calendar surroundings.holidays patch present
          amended
        ∧ receipt = .of participant amended := by
  intro before step receipt updated
  cases decided : before.revise surroundings token participantId day patch with
  | error failure =>
    have failed : step.outcome = .error failure := by
      change (updateAvailability ..).outcome = _
      rw [updateAvailability, decided]
      rfl
    cases failed.symm.trans updated
  | ok found =>
    obtain ⟨calendar, participant, amended⟩ := found
    obtain ⟨present, start, stop, window, slot, known, first, last, hours, fits, same⟩ :=
      revise_eq_ok decided
    obtain ⟨located, opened, found⟩ := present_eq_ok known
    obtain ⟨inside, own, -⟩ := Records.mem_of_availabilityOn? found
    obtain ⟨⟨stored, -⟩, among, -, belongs⟩ := Records.locate_eq_ok located
    obtain ⟨window', hours', settles⟩ := settles_after noAvailability fixed inside
      ⟨stored, participant, among, own.symm, belongs⟩
    cases hours.symm.trans hours'
    have published : step = publish .. := updateAvailability_of_revise decided
    refine ⟨calendar, participant, present, amended, located, (openDay_eq_ok opened).1, found, ?_,
      ?_⟩
    · rw [published, (publishes_publish ..).records]
      subst same
      exact
        { rest := rfl
          id := rfl
          participantId := rfl
          day := rfl
          source := rfl
          recurrenceId := rfl
          createdAt := rfl
          note := fun unnamed => by rw [unnamed]; rfl
          times := ⟨window, hours, AvailabilityPatch.amends_of_fit settles first last fits⟩ }
    · rw [published] at updated
      cases updated
      rfl

/-- One availability of a Thursday, by day. -/
def sampleStay : List (Surroundings × Operation) :=
  [(.sample, .createAvailability "open" "ann" ⟨"2025-06-05", some "10:00", some "15:00", none⟩)]

/-- A start after the stop takes the place of the stop, at the closing, and the stop is the start
from then on. -/
theorem updateAvailability_amends_turned :
    let before := sampleOpen.after sampleStay
    let patch : AvailabilityPatch := ⟨some (some "18:00"), none, none⟩
    let step := before.updateAvailability .sample "open" "ann" "2025-06-05" patch
    sampleOpen.records.availabilities.rows = []
      ∧ (∀ surrounded ∈ sampleStay, surrounded.1.holidays = Surroundings.sample.holidays)
      ∧ ∃ receipt, step.outcome = .ok receipt
        ∧ step.board.records.availabilities.rows.map Availability.slot
          = [⟨some "15:00", some "17:00"⟩]
        ∧ ∃ calendar participant present amended,
          before.records.locate "open" "ann" = .ok (calendar, participant)
          ∧ Date.request "2025-06-05" = .ok present.day
          ∧ before.records.availabilityOn? participant.id present.day = some present
          ∧ before.records.Amended step.board.records calendar Surroundings.sample.holidays patch
            present amended
          ∧ receipt = .of participant amended := by
  intro before patch step
  have fixed : ∀ surrounded ∈ sampleStay,
      surrounded.1.holidays = Surroundings.sample.holidays := by
    intro surrounded inside
    cases List.mem_singleton.mp inside
    rfl
  obtain ⟨updated, slots⟩ : step.outcome.toOption.isSome
      ∧ step.board.records.availabilities.rows.map Availability.slot
        = [⟨some "15:00", some "17:00"⟩] := by
    decide +kernel
  obtain ⟨receipt, answered⟩ : ∃ receipt, step.outcome = .ok receipt := by
    cases outcome : step.outcome with
    | error failure =>
      rw [outcome] at updated
      cases updated
    | ok receipt => exact ⟨receipt, rfl⟩
  have amended := updateAvailability_amends sampleOpen sampleStay .sample rfl fixed "open" "ann"
    "2025-06-05" patch receipt answered
  refine ⟨rfl, fixed, receipt, answered, slots, ?_⟩
  dsimp only [step, before]
  exact amended

/-- A start that is the only time named, and comes after the stop, changes the stop. -/
theorem updateAvailability_of_late_start :
    let before := sample.after sampleStay
    let step := before.updateAvailability .sample "open" "ann" "2025-06-05"
      ⟨some (some "18:00"), none, none⟩
    before.records.availabilities.rows.map Availability.slot = [⟨some "10:00", some "15:00"⟩]
      ∧ step.board.records.availabilities.rows.map Availability.slot
        = [⟨some "15:00", some "18:00"⟩] := by
  decide +kernel

end Board

end Rendezvous
