import Rendezvous.Proofs.Escapes
import Rendezvous.Proofs.Sweeps
import Rendezvous.Proofs.Uniqueness

/-!
# One date, three tallies

The count of a date is what a crossed threshold is told by, its busy times are what a page
shows, and its summary names who is there.  All three fail together, and where they do not they
tell the same number, unless the summary leaves out a date on which too few hours are shared.
-/

namespace Rendezvous

/-! ## Busy times -/

/-- Times tell of a count: there are some where the threshold is reached, none of them has more,
and one has as many. -/
structure BusyTime.Tells (times : List BusyTime) (threshold total : Nat) : Prop where
  reached : times ≠ [] ↔ threshold ≤ total
  bounded : ∀ time ∈ times, time.count ≤ total
  fullest : times ≠ [] → ∃ time ∈ times, time.count = total

theorem Sweep.tells_busyPieces (slots : List Slot) {threshold : Nat} (positive : 1 ≤ threshold) :
    BusyTime.Tells ((busyPieces slots threshold).map BusyTime.of) threshold
      (maxSimultaneous slots) := by
  have positive' : (0 : Int) < threshold := by omega
  have fullest (reached : threshold ≤ maxSimultaneous slots) :
      ∃ time ∈ (busyPieces slots threshold).map BusyTime.of,
        time.count = maxSimultaneous slots := by
    have reached' : (threshold : Int) ≤ maxSimultaneous slots := Int.ofNat_le.mpr reached
    obtain ⟨piece, inside, counted⟩ := exists_mem_busyPieces positive' reached'
    exact ⟨BusyTime.of piece, List.mem_map_of_mem inside, congrArg Nat.cast counted⟩
  have reached : (busyPieces slots threshold).map BusyTime.of ≠ []
      ↔ threshold ≤ maxSimultaneous slots := by
    constructor
    · intro some
      obtain ⟨time, inside⟩ := List.exists_mem_of_ne_nil _ some
      obtain ⟨piece, among, -⟩ := List.mem_map.mp inside
      have bounds := count_le_of_mem_busyPieces positive' among
      omega
    · intro enough
      obtain ⟨time, inside, -⟩ := fullest enough
      exact List.ne_nil_of_mem inside
  refine ⟨reached, ?_, fun some => fullest (reached.mp some)⟩
  intro time inside
  obtain ⟨piece, among, rfl⟩ := List.mem_map.mp inside
  exact Int.ofNat_le.mpr (count_le_of_mem_busyPieces positive' among).2

/-! ## Summaries -/

/-- Contributions that share fewer hours than a calendar asks for. -/
def Calendar.FallsShort (calendar : Calendar) (contributions : List Contribution) : Prop :=
  contributions ≠ [] ∧ 0 < calendar.leastHours
    ∧ ∃ hours, Sweep.feasibleHours (contributions.map Contribution.slot) = .ok hours
      ∧ hours.isBelow calendar.leastHours

namespace DaySummary

variable {calendar : Calendar} {day : Date} {contributions : List Contribution}
  {summary : DaySummary}

/-- A summary tells of a count and of who is counted, or of nobody. -/
structure Tells (calendar : Calendar) (day : Date) (contributions : List Contribution)
    (total : Nat) (summary : DaySummary) : Prop where
  short : calendar.FallsShort contributions → summary = ⟨day, 0, []⟩
  full : ¬ calendar.FallsShort contributions → summary = ⟨day, total, contributions⟩

theorem tells_of (told : DaySummary.of calendar day contributions = .ok summary) :
    Tells calendar day contributions
      (Sweep.maxSimultaneous (contributions.map Contribution.slot)) summary := by
  unfold DaySummary.of at told
  by_cases whole : contributions.isEmpty || calendar.leastHours = 0
  · simp only [whole, if_true] at told
    cases told
    refine ⟨?_, fun _ => rfl⟩
    rintro ⟨some, positive, -⟩
    simp only [Bool.or_eq_true, List.isEmpty_iff, decide_eq_true_eq] at whole
    rcases whole with nobody | free
    · exact absurd nobody some
    · omega
  · simp only [whole] at told
    obtain ⟨hours, feasible, decided⟩ := Except.bind_eq_ok_iff.mp told
    cases decided
    simp only [Bool.or_eq_true, List.isEmpty_iff, decide_eq_true_eq, not_or] at whole
    by_cases below : hours.isBelow calendar.leastHours
    · refine ⟨fun _ => by simp [below], ?_⟩
      intro enough
      exact absurd ⟨whole.1, by omega, hours, feasible, below⟩ enough
    · refine ⟨?_, fun _ => by simp [below]⟩
      rintro ⟨-, -, hours', feasible', below'⟩
      rw [feasible] at feasible'
      cases feasible'
      exact absurd below' below

end DaySummary

namespace Board

variable {board : Board} {calendar : Calendar} {token text : String} {day : Date}

/-- The count of a date fails where its records cannot be looked through. -/
theorem count_eq_ok {total : Nat} (counted : (board.count calendar.id day).1 = .ok total) :
    board.records.checkSpan calendar.id day day = .ok ()
      ∧ total = board.records.simultaneous calendar.id day := by
  unfold count at counted
  split at counted
  · cases checked : board.records.checkSpan calendar.id day day with
    | error failure => simp [checked, Except.map] at counted
    | ok done => simpa [checked, Except.map, eq_comm] using counted
  · cases counted

theorem count_eq_error {failure : Failure} (working : board.countOutages = 0)
    (failed : (board.count calendar.id day).1 = .error failure) :
    board.records.checkSpan calendar.id day day = .error failure := by
  unfold count at failed
  rw [if_pos working] at failed
  cases checked : board.records.checkSpan calendar.id day day with
  | error failure' => simpa [checked, Except.map] using failed
  | ok done => simp [checked, Except.map] at failed

theorem busyTimes_eq (found : board.records.calendarByToken token = .ok calendar)
    (read : Date.request text = .ok day) :
    board.busyTimes token text
      = (board.records.checkSpan calendar.id day day).map fun _ =>
        (Sweep.busyPieces ((board.records.contributionsOn calendar.id day).map Contribution.slot)
          calendar.threshold).map BusyTime.of := by
  rw [busyTimes, found, Except.ok_bind, read, Except.ok_bind]
  cases board.records.checkSpan calendar.id day day <;> rfl

theorem dateSummary_eq (found : board.records.calendarByToken token = .ok calendar)
    (read : Date.request text = .ok day) :
    board.dateSummary token text
      = board.records.checkSpan calendar.id day day >>= fun _ =>
        DaySummary.of calendar day (board.records.contributionsOn calendar.id day) := by
  rw [dateSummary, found, Except.ok_bind, read, Except.ok_bind]

/-- A calendar with valid hours is told the summary of every date that can be looked
through. -/
theorem exists_dateSummary (readable : board.records.Readable)
    (found : board.records.calendarByToken token = .ok calendar)
    (read : Date.request text = .ok day) (valid : calendar.allowedHours.isValid)
    (checked : board.records.checkSpan calendar.id day day = .ok ()) :
    ∃ summary, board.dateSummary token text = .ok summary := by
  have legible : ∀ contribution ∈ board.records.contributionsOn calendar.id day,
      contribution.slot.Legible := by
    intro contribution inside
    rw [Records.contributionsOn_eq_merged] at inside
    exact readable.legible_of_mem_merged (Records.calendarByToken_eq_ok found).1 valid inside
  have ends : Ends (fun _ => False) (fun _ => True)
      (DaySummary.of calendar day (board.records.contributionsOn calendar.id day)) :=
    DaySummary.ends_of calendar day legible
  rw [dateSummary_eq found read, checked, Except.ok_bind]
  cases told : DaySummary.of calendar day (board.records.contributionsOn calendar.id day) with
  | ok summary => exact ⟨summary, rfl⟩
  | error failure => exact (ends.of_eq_error told).elim

/-- Where nobody was available at first: whatever the count of a date is, the busy times tell
of it, and so does the summary, which every calendar with valid hours has.  Where nothing breaks
the count but the records, it fails as the busy times and the summary do. -/
theorem tallies_agree (board : Board) (run : List (Surroundings × Operation))
    (noAvailability : board.records.availabilities.rows = [])
    (noRecurrence : board.records.recurrences.rows = [])
    (found : (board.after run).records.calendarByToken token = .ok calendar)
    (read : Date.request text = .ok day) :
    let after := board.after run
    let shown := after.records.contributionsOn calendar.id day
    (∀ total, (after.count calendar.id day).1 = .ok total →
      (∃ times, after.busyTimes token text = .ok times
        ∧ BusyTime.Tells times calendar.threshold total)
      ∧ (calendar.allowedHours.isValid → ∃ summary, after.dateSummary token text = .ok summary)
      ∧ ∀ summary, after.dateSummary token text = .ok summary →
        DaySummary.Tells calendar day shown total summary)
    ∧ (after.countOutages = 0 → ∀ failure, (after.count calendar.id day).1 = .error failure →
      after.busyTimes token text = .error failure
      ∧ after.dateSummary token text = .error failure) := by
  intro after shown
  have readable : after.records.Readable := by
    apply vetted_after board run (fun surrounded _ => surrounded.1.vets_readable)
    constructor <;> simp [noAvailability, noRecurrence]
  constructor
  · intro total counted
    obtain ⟨checked, rfl⟩ := count_eq_ok counted
    refine ⟨?_, fun valid => exists_dateSummary readable found read valid checked, ?_⟩
    · rw [busyTimes_eq found read, checked]
      exact ⟨_, rfl, Sweep.tells_busyPieces _ calendar.one_le_threshold⟩
    · intro summary told
      rw [dateSummary_eq found read, checked, Except.ok_bind] at told
      exact DaySummary.tells_of told
  · intro working failure failed
    have broken := count_eq_error working failed
    rw [busyTimes_eq found read, dateSummary_eq found read, broken]
    exact ⟨rfl, rfl⟩

/-- One participant there all day reaches the threshold of one. -/
theorem tallies_agree_sample :
    let after := sample.after [(Surroundings.sample, .sampleEntry "ann")]
    let shown := after.records.contributionsOn "club" .sample
    sample.records.availabilities.rows = [] ∧ sample.records.recurrences.rows = []
      ∧ after.records.calendarByToken "open" = .ok .sample
      ∧ Date.request "2025-06-05" = .ok .sample
      ∧ (after.count "club" .sample).1 = .ok 1
      ∧ (∃ times, after.busyTimes "open" "2025-06-05" = .ok times ∧ times ≠ []
        ∧ BusyTime.Tells times 1 1)
      ∧ ∃ summary, after.dateSummary "open" "2025-06-05" = .ok summary
        ∧ DaySummary.Tells .sample .sample shown 1 summary := by
  intro after shown
  have found : after.records.calendarByToken "open" = .ok .sample := by decide +kernel
  have read : Date.request "2025-06-05" = .ok .sample := by decide +kernel
  have counted : (after.count "club" .sample).1 = .ok 1 := by decide +kernel
  obtain ⟨⟨times, busy, tells⟩, known, each⟩ :=
    (tallies_agree sample _ rfl rfl found read).1 1 counted
  obtain ⟨summary, told⟩ := known (by decide +kernel)
  exact ⟨rfl, rfl, found, read, counted,
    ⟨times, busy, tells.reached.mpr (Nat.le_refl 1), tells⟩, summary, told, each summary told⟩

end Board

/-! ## Hours that cannot be read -/

/-- A calendar whose hours on Thursdays are no times. -/
def Calendar.sampleIllegible : Calendar :=
  { Calendar.sample with
    leastHours := 1
    allowedHours := ⟨[(4, ⟨some "noon", some ""⟩)], .unbounded, .unbounded⟩ }

def Board.sampleIllegible : Board :=
  { sample with
    records := { sample.records with calendars := ⟨[.sampleIllegible], by decide⟩ } }

/-- The hours are stored as they are; the count and the busy times leave the slot out, and the
summary breaks off. -/
theorem Board.unsummed_of_illegible :
    let after := sampleIllegible.after [(.sample, .sampleEntry "ann")]
    sampleIllegible.records.availabilities.rows = [] ∧ sampleIllegible.records.recurrences.rows = []
      ∧ Calendar.sampleIllegible.allowedHours.isValid = false
      ∧ after.records.availabilities.rows.map Availability.slot = [⟨some "noon", some ""⟩]
      ∧ (after.count "club" .sample).1 = .ok 0
      ∧ after.busyTimes "open" "2025-06-05" = .ok []
      ∧ after.dateSummary "open" "2025-06-05" = .error .unreadable := by
  refine ⟨rfl, rfl, ?_, ?_, ?_, ?_, ?_⟩ <;> decide +kernel

end Rendezvous
