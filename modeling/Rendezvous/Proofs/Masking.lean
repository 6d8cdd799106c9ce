import Rendezvous.Proofs.Uniqueness

/-!
# Locked participants

A calendar that locks its participants hides their ids in the summary of a range of dates:
each entry is the one that the unlocked calendar would show, without the id unless it is the
id of the one who asks.  The summary of a single date is that of the unlocked calendar.
-/

namespace Rendezvous

/-! ## The same calendars without their locks -/

def Calendar.unlocked (calendar : Calendar) : Calendar :=
  { calendar with lockParticipants := false }

def Records.unlocked (records : Records) : Records :=
  { records with
    calendars :=
      ⟨records.calendars.rows.map Calendar.unlocked,
        List.map_map (f := Calendar.unlocked) ▸ records.calendars.nodup⟩ }

def Board.unlocked (board : Board) : Board :=
  { board with records := board.records.unlocked }

theorem Records.calendarByToken_unlocked (records : Records) (token : String) :
    records.unlocked.calendarByToken token
      = (records.calendarByToken token).map Calendar.unlocked := by
  have found : records.unlocked.calendarOf? token
      = (records.calendarOf? token).map Calendar.unlocked := List.find?_map
  rw [calendarByToken, calendarByToken, found]
  cases records.calendarOf? token <;> rfl

/-! ## What hiding leaves -/

/-- An entry as the one who asks sees it: whole but for the id, which shows only where it is
that of the one who asks. -/
structure Contribution.Veils (requester : Option String) (shown full : Contribution) : Prop where
  participantName : shown.participantName = full.participantName
  slot : shown.slot = full.slot
  note : shown.note = full.note
  participantId : ∀ id, shown.participantId = some id
    ↔ requester = some id ∧ id ≠ "" ∧ full.participantId = some id

theorem Contribution.veils_own {full : Contribution} {own : String} (named : own ≠ "")
    (same : full.participantId = some own) : Veils (some own) full full := by
  refine ⟨rfl, rfl, rfl, fun id => ⟨fun shown => ?_, fun asked => asked.2.2⟩⟩
  obtain rfl : own = id := Option.some.inj (same.symm.trans shown)
  exact ⟨rfl, named, shown⟩

theorem Contribution.veils_masked {requester : Option String} {full : Contribution}
    (foreign : ∀ id, requester = some id → id ≠ "" → full.participantId ≠ some id) :
    Veils requester full.masked full := by
  refine ⟨rfl, rfl, rfl, fun id => ⟨fun shown => ?_, ?_⟩⟩
  · cases shown
  · rintro ⟨asked, named, same⟩
    exact absurd same (foreign id asked named)

/-- A summary of which every entry is veiled, with the count as it is. -/
structure DaySummary.Veils (requester : Option String) (shown full : DaySummary) : Prop where
  day : shown.day = full.day
  total : shown.total = full.total
  contributions :
    List.Forall₂ (Contribution.Veils requester) shown.contributions full.contributions

theorem DaySummary.veils_masked (requester : Option String) (summary : DaySummary) :
    Veils requester (summary.masked requester) summary := by
  refine ⟨rfl, rfl, ?_⟩
  rw [masked, List.forall₂_map_left_iff, List.forall₂_same]
  intro contribution _
  cases asked : requester.filter (· ≠ "") with
  | none =>
    refine Contribution.veils_masked fun id requested named _ => ?_
    simp [requested, named] at asked
  | some own =>
    obtain ⟨rfl, named⟩ := Option.filter_eq_some_iff.mp asked
    dsimp only
    split
    next same => exact Contribution.veils_own (by simpa using named) same
    next other =>
      refine Contribution.veils_masked fun id requested _ => ?_
      cases requested
      exact other

/-! ## Summaries -/

namespace Records

variable {records : Records} {calendarId : String} {day : Date}

theorem isSome_participantId_of_mem_merged {contribution : Contribution}
    (inside : contribution ∈ records.merged calendarId day) :
    contribution.participantId.isSome := by
  have shown := List.mem_map_of_mem (f := Contribution.participantId) inside
  rw [participantIds_merged, List.mem_append] at shown
  obtain entered | repeated := shown
  · obtain ⟨availability, -, same⟩ := List.mem_map.mp entered
    rw [← same]
    rfl
  · obtain ⟨recurrence, -, same⟩ := List.mem_map.mp repeated
    rw [← same]
    rfl

end Records

theorem DaySummary.contributions_subset {calendar : Calendar} {day : Date}
    {contributions : List Contribution} {summary : DaySummary}
    (told : DaySummary.of calendar day contributions = .ok summary) :
    summary.contributions ⊆ contributions := by
  rw [DaySummary.of] at told
  split at told
  · cases told
    exact List.Subset.refl _
  · obtain ⟨feasible, -, decided⟩ := Except.bind_eq_ok_iff.mp told
    cases decided
    split
    · exact List.nil_subset _
    · exact List.Subset.refl _

namespace Board

variable (board : Board) {calendar : Calendar} {token : String}

theorem dateSummary_unlocked (day : String) :
    board.unlocked.dateSummary token day = board.dateSummary token day := by
  have found := board.records.calendarByToken_unlocked token
  rw [dateSummary, dateSummary, unlocked, found]
  cases board.records.calendarByToken token <;> rfl

/-- The summary of a single date names everyone by id. -/
theorem isSome_participantId_dateSummary {day : String} {summary : DaySummary}
    (told : board.dateSummary token day = .ok summary) :
    ∀ contribution ∈ summary.contributions, contribution.participantId.isSome := by
  rw [dateSummary] at told
  simp only [Except.bind_eq_ok_iff] at told
  obtain ⟨calendar, -, day', -, -, -, told⟩ := told
  intro contribution inside
  have shown := DaySummary.contributions_subset told inside
  rw [Records.contributionsOn_eq_merged] at shown
  exact Records.isSome_participantId_of_mem_merged shown

theorem rangeSummary_locked (found : board.records.calendarByToken token = .ok calendar)
    (locked : calendar.lockParticipants) (start stop : String) (requester : Option String) :
    board.rangeSummary token start stop requester
      = (board.unlocked.rangeSummary token start stop requester).map
        (List.map (DaySummary.masked requester)) := by
  have opened (known : Calendar) (next : Calendar → Except Failure (List DaySummary)) :
      (Except.ok known >>= next) = next known := rfl
  have found' : board.records.unlocked.calendarByToken token = .ok calendar.unlocked := by
    rw [Records.calendarByToken_unlocked, found]
    rfl
  have free : calendar.unlocked.lockParticipants = false := rfl
  rw [rangeSummary, rangeSummary, unlocked, found, found', opened, opened]
  -- all but the last step is the same for both
  change _ = List.map (DaySummary.masked requester) <$> _
  simp only [map_bind, map_pure, locked, free]
  rfl

/-- Where participants are locked, the summary of a range tells what it would tell unlocked,
with everyone's id but that of the one who asks hidden; the summary of a single date tells the
same as unlocked, with the id of everyone on it. -/
theorem summaries_locked (found : board.records.calendarByToken token = .ok calendar)
    (locked : calendar.lockParticipants) :
    (∀ start stop requester,
      (∀ failure, board.rangeSummary token start stop requester = .error failure
        ↔ board.unlocked.rangeSummary token start stop requester = .error failure)
      ∧ ∀ shown, board.rangeSummary token start stop requester = .ok shown →
        ∃ full, board.unlocked.rangeSummary token start stop requester = .ok full
          ∧ List.Forall₂ (DaySummary.Veils requester) shown full)
    ∧ ∀ day, board.dateSummary token day = board.unlocked.dateSummary token day
      ∧ ∀ summary, board.dateSummary token day = .ok summary →
        ∀ contribution ∈ summary.contributions, contribution.participantId.isSome := by
  refine ⟨fun start stop requester => ?_, fun day => ⟨(board.dateSummary_unlocked day).symm,
    fun summary told => board.isSome_participantId_dateSummary told⟩⟩
  rw [board.rangeSummary_locked found locked]
  cases board.unlocked.rangeSummary token start stop requester with
  | error failure =>
    refine ⟨fun _ => Iff.rfl, fun shown told => ?_⟩
    cases told
  | ok full =>
    refine ⟨fun failure => ⟨fun told => ?_, fun told => ?_⟩, fun shown told => ⟨full, rfl, ?_⟩⟩
    · cases told
    · cases told
    · cases told
      rw [List.forall₂_map_left_iff, List.forall₂_same]
      exact fun summary _ => summary.veils_masked requester

/-- The sample calendar with its participants locked, and one of them there on a day. -/
def sampleLocked : Board :=
  let calendar := { Calendar.sample with lockParticipants := true }
  let board :=
    { sample with
      records := { sample.records with calendars := ⟨[calendar], List.nodup_singleton _⟩ } }
  board.after [(Surroundings.sample, .sampleEntry "ann")]

theorem calendarByToken_sampleLocked : sampleLocked.records.calendarByToken "open"
    = .ok { Calendar.sample with lockParticipants := true } := by
  decide +kernel

theorem summaries_locked_sample :
    ∃ calendar, sampleLocked.records.calendarByToken "open" = .ok calendar
      ∧ calendar.lockParticipants
      ∧ sampleLocked.rangeSummary "open" "2025-06-05" "2025-06-05" (some "bob")
        = .ok [⟨.sample, 1, [⟨none, "Ann", ⟨none, none⟩, none⟩]⟩]
      ∧ sampleLocked.rangeSummary "open" "2025-06-05" "2025-06-05" (some "ann")
        = .ok [⟨.sample, 1, [⟨some "ann", "Ann", ⟨none, none⟩, none⟩]⟩]
      ∧ ∃ full,
        sampleLocked.unlocked.rangeSummary "open" "2025-06-05" "2025-06-05" (some "bob") = .ok full
        ∧ List.Forall₂ (DaySummary.Veils (some "bob"))
          [⟨.sample, 1, [⟨none, "Ann", ⟨none, none⟩, none⟩]⟩] full := by
  have found := calendarByToken_sampleLocked
  obtain ⟨ranges, -⟩ := sampleLocked.summaries_locked found rfl
  have shown : sampleLocked.rangeSummary "open" "2025-06-05" "2025-06-05" (some "bob")
      = .ok [⟨.sample, 1, [⟨none, "Ann", ⟨none, none⟩, none⟩]⟩] := by decide +kernel
  exact ⟨_, found, rfl, shown, by decide +kernel,
    (ranges "2025-06-05" "2025-06-05" (some "bob")).2 _ shown⟩

/-- The summary of a single date tells anyone who the locked participants are. -/
theorem dateSummary_of_sampleLocked :
    ¬ ∀ (board : Board) (calendar : Calendar) (token day : String) (summary : DaySummary),
      board.records.calendarByToken token = .ok calendar → calendar.lockParticipants →
      board.dateSummary token day = .ok summary →
      ∀ contribution ∈ summary.contributions, contribution.participantId = none := by
  intro hidden
  have found := calendarByToken_sampleLocked
  have told : sampleLocked.dateSummary "open" "2025-06-05"
      = .ok ⟨.sample, 1, [⟨some "ann", "Ann", ⟨none, none⟩, none⟩]⟩ := by decide +kernel
  have blank := hidden sampleLocked _ "open" "2025-06-05" _ found rfl told _ List.mem_cons_self
  cases blank

end Board

end Rendezvous
