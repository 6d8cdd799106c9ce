import Rendezvous.Proofs.Uniqueness
import Rendezvous.Proofs.Vetting

/-!
# Which recurrences stand in the way

A recurrence is refused for an overlap exactly where its participant has another one on the same
weekday, and some date lies in the ranges of both.  The comparisons by which that is found out are
right as long as no range ends before it begins, and none that is stored does.
-/

namespace Rendezvous

/-! ## Ranges -/

theorem Date.inRange_first {first : Date} {last : Option Date} (ordered : last.all (first ≤ ·)) :
    inRange first last first := by
  rw [inRange, ordered, decide_eq_true (le_refl first)]
  rfl

/-- Ranges that do not end before they begin overlap where some day lies in both. -/
theorem Date.rangesOverlap_iff_inRange {firstA firstB : Date} {lastA lastB : Option Date}
    (orderedA : lastA.all (firstA ≤ ·)) (orderedB : lastB.all (firstB ≤ ·)) :
    rangesOverlap firstA lastA firstB lastB
      ↔ ∃ day, inRange firstA lastA day ∧ inRange firstB lastB day := by
  refine ⟨fun overlap => ?_, fun ⟨day, inA, inB⟩ => rangesOverlap_of_inRange inA inB⟩
  obtain ⟨beforeB, beforeA⟩ := rangesOverlap_iff_le.mp overlap
  -- the range that begins later has its first day in the other one
  rcases Nat.le_total firstA.ordinal firstB.ordinal with early | late
  · exact ⟨firstB, inRange_iff.mpr ⟨early, beforeA⟩, inRange_first orderedB⟩
  · exact ⟨firstA, inRange_first orderedA, inRange_iff.mpr ⟨late, beforeB⟩⟩

/-- Whether a recurrence is on the weekday of some terms, and a day lies in the ranges of both. -/
def Terms.Meets (terms : Terms) (recurrence : Recurrence) : Prop :=
  recurrence.weekday = terms.weekday
    ∧ ∃ day, Date.inRange terms.firstDate terms.lastDate day
      ∧ Date.inRange recurrence.firstDate recurrence.lastDate day

theorem Terms.overlaps_iff_meets {terms : Terms} {recurrence : Recurrence}
    (ordered : terms.lastDate.all (terms.firstDate ≤ ·)) (ordered' : recurrence.Ordered) :
    terms.overlaps recurrence ↔ terms.Meets recurrence := by
  rw [overlaps, Bool.and_eq_true, decide_eq_true_eq, Date.rangesOverlap_iff_inRange ordered
    ordered', Meets]

/-! ## What is agreed on -/

/-- What a request comes to, before the other recurrences of the participant are looked at. -/
def Calendar.proposal (calendar : Calendar) (request : RecurrenceRequest) :
    Except Failure Terms := do
  let weekday ← Board.weekdayOf calendar request.weekday
  let start ← TimeOfDay.request request.start
  let stop ← TimeOfDay.request request.stop
  let first ← Date.request request.firstDate
  let last ← Date.requestOptional request.lastDate
  Refusal.unless (last.all (first ≤ ·)) .datesReversed
  let slot ← (calendar.weekdayWindow weekday.val).fit calendar.leastHours ⟨start, stop⟩
  pure ⟨weekday, slot, request.note, first, last⟩

/-- A participant has a recurrence that meets the terms, other than the one that is replaced. -/
def Records.Clashes (records : Records) (participantId : String) (terms : Terms)
    (replaced : Option String) : Prop :=
  ∃ other ∈ records.recurrences.rows, other.participantId = participantId
    ∧ some other.id ≠ replaced ∧ terms.Meets other

namespace Calendar

variable {calendar : Calendar} {request : RecurrenceRequest} {terms : Terms}

/-- A proposal is for the weekday and the range that are asked for. -/
theorem proposal_eq_ok (proposed : calendar.proposal request = .ok terms) :
    Board.weekdayOf calendar request.weekday = .ok terms.weekday
      ∧ Date.request request.firstDate = .ok terms.firstDate
      ∧ Date.requestOptional request.lastDate = .ok terms.lastDate
      ∧ terms.lastDate.all (terms.firstDate ≤ ·) := by
  simp only [proposal, Except.bind_eq_ok_iff] at proposed
  obtain ⟨weekday, allowed, start, -, stop, -, first, begins, last, ends, ⟨⟩, ordered, slot, -,
    found⟩ := proposed
  cases found
  exact ⟨allowed, begins, ends, Refusal.unless_eq_ok_iff.mp ordered⟩

end Calendar

namespace Board

variable {board : Board} {calendar : Calendar} {participant : Participant}
  {request : RecurrenceRequest} {terms : Terms} {replaced : Option String}

theorem terms_eq_proposal (board : Board) (calendar : Calendar) (participant : Participant)
    (request : RecurrenceRequest) (replaced : Option String) :
    board.terms calendar participant request replaced
      = calendar.proposal request >>= fun terms =>
        Refusal.unless
            (!(board.records.recurrencesOf participant.id).any fun other =>
              some other.id ≠ replaced && terms.overlaps other)
            .recurrenceOverlap
          >>= fun _ => pure terms := by
  simp only [Board.terms, Calendar.proposal, bind_assoc, pure_bind]

/-- Where the stored ranges do not end before they begin, some recurrence is found to overlap just
where one meets the terms. -/
theorem any_overlaps_iff_clashes
    (ordered : ∀ other ∈ board.records.recurrences.rows, other.participantId = participant.id →
      other.Ordered)
    (forward : terms.lastDate.all (terms.firstDate ≤ ·)) :
    ((board.records.recurrencesOf participant.id).any fun other =>
        some other.id ≠ replaced && terms.overlaps other)
      ↔ board.records.Clashes participant.id terms replaced := by
  simp only [List.any_eq_true, Records.mem_recurrencesOf, Bool.and_eq_true, decide_eq_true_eq,
    Records.Clashes]
  constructor
  · rintro ⟨other, ⟨inside, own⟩, different, overlaps⟩
    have meets := (Terms.overlaps_iff_meets forward (ordered other inside own)).mp overlaps
    exact ⟨other, inside, own, different, meets⟩
  · rintro ⟨other, inside, own, different, meets⟩
    have overlaps := (Terms.overlaps_iff_meets forward (ordered other inside own)).mpr meets
    exact ⟨other, ⟨inside, own⟩, different, overlaps⟩

/-- What is decided on by terms is refused where the proposal clashes, and made of the proposal
otherwise. -/
theorem refused_iff_clashes {α : Type} {outcome : Except Failure α} {made : Terms → α}
    (ordered : ∀ other ∈ board.records.recurrences.rows, other.participantId = participant.id →
      other.Ordered)
    (proposed : calendar.proposal request = .ok terms)
    (decided : outcome = (board.terms calendar participant request replaced).map made) :
    (outcome = .error (.refused .recurrenceOverlap)
      ↔ board.records.Clashes participant.id terms replaced)
    ∧ (¬ board.records.Clashes participant.id terms replaced → outcome = .ok (made terms)) := by
  obtain ⟨-, -, -, forward⟩ := Calendar.proposal_eq_ok proposed
  rw [terms_eq_proposal, proposed, Except.ok_bind] at decided
  rw [decided, ← any_overlaps_iff_clashes ordered forward]
  cases (board.records.recurrencesOf participant.id).any fun other =>
      some other.id ≠ replaced && terms.overlaps other with
  | true => exact ⟨iff_of_true rfl rfl, fun free => absurd rfl free⟩
  | false => exact ⟨iff_of_false (fun refused => by cases refused) (by simp), fun _ => rfl⟩

/-- Along a run the ranges that are stored for members of a calendar stay in order. -/
theorem ordered_after (board : Board) (run : List (Surroundings × Operation))
    (ordered : ∀ recurrence ∈ board.records.recurrences.rows, recurrence.Ordered) :
    ∀ recurrence ∈ (board.after run).records.recurrences.rows, ∀ calendar,
      (board.after run).records.Member calendar recurrence.participantId → recurrence.Ordered := by
  have vets : ∀ surroundings : Surroundings,
      surroundings.Vets (fun _ _ => True) fun _ recurrence => recurrence.Ordered := by
    intro surroundings
    refine ⟨fun _ _ => trivial, fun _ _ _ => trivial, fun agreed present => ?_⟩
    exact (terms_eq_ok agreed).2.2.2.1
  exact (vetted_after board run (fun surrounded _ => vets surrounded.1)
    ⟨fun _ _ _ _ => trivial, fun recurrence inside _ _ => ordered recurrence inside⟩).repetitions

section

variable {token participantId recurrenceId : String} {present : Recurrence}

theorem outcome_createRecurrence
    (located : board.records.locate token participantId = .ok (calendar, participant)) :
    (board.createRecurrence token participantId request).outcome
      = (board.terms calendar participant request none).map fun terms =>
        terms.recurrence participant.id (Fresh.name (Fresh.next board.recurrenceIds board.issued))
          board.now := by
  rw [createRecurrence, located, Except.ok_bind]
  dsimp only
  cases board.terms calendar participant request none <;> rfl

theorem outcome_updateRecurrence
    (owned : board.owned token participantId recurrenceId = .ok (calendar, participant, present)) :
    (board.updateRecurrence token participantId recurrenceId request).outcome
      = (board.terms calendar participant request (some present.id)).map fun terms =>
        terms.apply present := by
  rw [updateRecurrence, owned, Except.ok_bind]
  dsimp only
  cases board.terms calendar participant request (some present.id) <;> rfl

end

/-- Where all that was stored at first begins before it ends, a new recurrence whose proposal passes
every other check is refused for an overlap just where its participant has one on the same weekday
with a day in common, and is stored as proposed otherwise.  An update is too, for a recurrence other
than the one that it replaces. -/
theorem overlap_refused_iff_clashes (board : Board) (run : List (Surroundings × Operation))
    (ordered : ∀ recurrence ∈ board.records.recurrences.rows, recurrence.Ordered)
    {calendar : Calendar} {participant : Participant} {token participantId : String}
    {request : RecurrenceRequest} {terms : Terms}
    (proposed : calendar.proposal request = .ok terms) :
    let before := board.after run
    (before.records.locate token participantId = .ok (calendar, participant) →
      let step := before.createRecurrence token participantId request
      (step.outcome = .error (.refused .recurrenceOverlap)
        ↔ before.records.Clashes participant.id terms none)
      ∧ (¬ before.records.Clashes participant.id terms none →
        ∃ id, step.outcome = .ok (terms.recurrence participant.id id before.now)))
    ∧ ∀ recurrenceId present,
      before.owned token participantId recurrenceId = .ok (calendar, participant, present) →
      let step := before.updateRecurrence token participantId recurrenceId request
      (step.outcome = .error (.refused .recurrenceOverlap)
        ↔ before.records.Clashes participant.id terms (some present.id))
      ∧ (¬ before.records.Clashes participant.id terms (some present.id) →
        step.outcome = .ok (terms.apply present)) := by
  intro before
  have stored : before.records.locate token participantId = .ok (calendar, participant) →
      ∀ other ∈ before.records.recurrences.rows, other.participantId = participant.id →
      other.Ordered := by
    intro located other inside own
    obtain ⟨⟨open', -⟩, member, -, belongs⟩ := Records.locate_eq_ok located
    exact ordered_after board run ordered other inside calendar
      ⟨open', participant, member, own.symm, belongs⟩
  constructor
  · intro located step
    obtain ⟨refused, agreed⟩ := refused_iff_clashes (stored located) proposed
      (outcome_createRecurrence located)
    exact ⟨refused, fun apart => ⟨_, agreed apart⟩⟩
  · intro recurrenceId present owned step
    exact refused_iff_clashes (stored (owned_eq_ok owned).1) proposed
      (outcome_updateRecurrence owned)

end Board

/-- All day on Thursdays. -/
def Terms.sampleThursdays (first : Date) (last : Option Date) : Terms :=
  ⟨Date.sample.weekday, ⟨none, none⟩, none, first, last⟩

namespace Board

/-- Thursdays up to the middle of June, and from the end of it on. -/
def sampleThursdaysRun : List (Surroundings × Operation) :=
  [(.sample, .createRecurrence "open" "ann"
      ⟨some 4, none, none, none, "2025-06-05", some "2025-06-19"⟩),
    (.sample, .createRecurrence "open" "ann" ⟨some 4, none, none, none, "2025-06-26", none⟩)]

/-- A third recurrence from the last day of the first one on is refused.  The second one may be
changed to begin earlier, as long as it begins after that day. -/
theorem overlap_refused_iff_clashes_sample :
    let before := sample.after sampleThursdaysRun
    let last : Date := ⟨739421, by decide, by decide⟩
    let next : Date := ⟨739422, by decide, by decide⟩
    let asked : RecurrenceRequest := ⟨some 4, none, none, none, "2025-06-19", none⟩
    let asked' : RecurrenceRequest := ⟨some 4, none, none, none, "2025-06-20", none⟩
    (∀ recurrence ∈ sample.records.recurrences.rows, recurrence.Ordered)
      ∧ Calendar.sample.proposal asked = .ok (.sampleThursdays last none)
      ∧ Calendar.sample.proposal asked' = .ok (.sampleThursdays next none)
      ∧ before.records.locate "open" "ann" = .ok (.sample, .sample "ann" "Ann")
      ∧ before.records.Clashes "ann" (.sampleThursdays last none) none
      ∧ (before.createRecurrence "open" "ann" asked).outcome
        = .error (.refused .recurrenceOverlap)
      ∧ ∃ present, before.owned "open" "ann" "00000000000000000000000000000002"
          = .ok (.sample, .sample "ann" "Ann", present)
        ∧ ¬ before.records.Clashes "ann" (.sampleThursdays next none) (some present.id)
        ∧ (before.updateRecurrence "open" "ann" "00000000000000000000000000000002" asked').outcome
          = .ok ((Terms.sampleThursdays next none).apply present) := by
  intro before last next asked asked'
  have ordered : ∀ recurrence ∈ sample.records.recurrences.rows, recurrence.Ordered := by
    intro recurrence inside
    cases inside
  have proposed : Calendar.sample.proposal asked = .ok (.sampleThursdays last none) := by
    decide +kernel
  have proposed' : Calendar.sample.proposal asked' = .ok (.sampleThursdays next none) := by
    decide +kernel
  have located : before.records.locate "open" "ann" = .ok (.sample, .sample "ann" "Ann") := by
    decide +kernel
  let early := (Terms.sampleThursdays .sample (some last)).recurrence "ann"
    "00000000000000000000000000000001" sample.now
  let late := (Terms.sampleThursdays ⟨739428, by decide, by decide⟩ none).recurrence "ann"
    "00000000000000000000000000000002" sample.now
  have rows : before.records.recurrences.rows = [early, late] := by decide +kernel
  have owned : before.owned "open" "ann" "00000000000000000000000000000002"
      = .ok (.sample, .sample "ann" "Ann", late) := by decide +kernel
  have clashes : before.records.Clashes "ann" (.sampleThursdays last none) none := by
    refine ⟨early, rows ▸ List.mem_cons_self, rfl, by simp, rfl, last, ?_, ?_⟩
    · decide +kernel
    · decide +kernel
  have free : ¬ before.records.Clashes "ann" (.sampleThursdays next none) (some late.id) := by
    rintro ⟨other, inside, -, different, -, day, inA, inB⟩
    rw [rows] at inside
    rcases List.mem_cons.mp inside with rfl | inside
    · have after : next ≤ day := (Date.inRange_iff.mp inA).1
      have within : day ≤ last := (Date.inRange_iff.mp inB).2 last rfl
      exact absurd (Date.le_trans after within) (by decide)
    · cases List.mem_singleton.mp inside
      exact different rfl
  refine ⟨ordered, proposed, proposed', located, clashes, ?_, late, owned, free, ?_⟩
  · exact ((overlap_refused_iff_clashes sample sampleThursdaysRun ordered proposed).1
      located).1.mpr clashes
  · exact ((overlap_refused_iff_clashes sample sampleThursdaysRun ordered proposed').2 _ late
      owned).2 free

end Board

end Rendezvous
