import Mathlib.Data.List.Forall2
import Mathlib.Data.List.Sort
import Rendezvous.Proofs.DateTexts
import Rendezvous.Proofs.Masking
import Rendezvous.Proofs.Tallies

/-!
# A range, date by date

The summary of a range comes from one pass over the records.  It is what the summaries of its
dates say one after the other, without the dates on which nobody counts, so it falls into the
summaries of two parts wherever it is divided.
-/

namespace Rendezvous

/-! ## Spans of dates -/

namespace Date

/-- The dates from one to another. -/
def span (first last : Date) : List Date :=
  (List.range' first.ordinal (last.ordinal + 1 - first.ordinal)).filterMap ofOrdinal?

variable {first last middle next day : Date}

@[simp] theorem mem_span : day ∈ span first last ↔ first ≤ day ∧ day ≤ last := by
  simp only [span, List.mem_filterMap, List.mem_range'_1, ofOrdinal?_eq_some_iff, le_def]
  constructor
  · rintro ⟨ordinal, within, rfl⟩
    omega
  · rintro ⟨after, before⟩
    exact ⟨day.ordinal, by omega, rfl⟩

theorem pairwise_span (first last : Date) : (span first last).Pairwise (· < ·) := by
  unfold span
  rw [List.pairwise_filterMap]
  refine List.Pairwise.imp ?_ (List.pairwise_lt_range' 1)
  intro a b before day found day' found'
  rw [ofOrdinal?_eq_some_iff] at found found'
  rw [lt_def, found, found']
  exact before

/-- A span that is divided between two dates. -/
theorem span_append (begins : first ≤ middle) (ends : middle < last)
    (follows : next.ordinal = middle.ordinal + 1) :
    span first last = span first middle ++ span next last := by
  simp only [le_def, lt_def] at begins ends
  have front : first.ordinal + 1 * (middle.ordinal + 1 - first.ordinal) = next.ordinal := by omega
  have whole : middle.ordinal + 1 - first.ordinal + (last.ordinal + 1 - next.ordinal)
      = last.ordinal + 1 - first.ordinal := by omega
  rw [span, span, span, ← List.filterMap_append, ← whole, ← List.range'_append, front]

instance : Std.Irrefl fun a b : Date => a < b := ⟨fun day => Nat.lt_irrefl day.ordinal⟩

instance : Std.Antisymm fun a b : Date => a < b :=
  ⟨fun _ _ before after => absurd before (Nat.lt_asymm after)⟩

end Date

/-! ## Results of a list -/

namespace Except

variable {α β : Type} {f : α → Except Failure β}

theorem mapM_congr {g : α → Except Failure β} {list : List α} (same : ∀ a ∈ list, f a = g a) :
    list.mapM f = list.mapM g := by
  induction list with
  | nil => rfl
  | cons a rest ih =>
    rw [List.mapM_cons, List.mapM_cons, same a List.mem_cons_self,
      ih fun other inside => same other (List.mem_cons_of_mem _ inside)]

theorem exists_of_mapM_eq_ok {list : List α} {results : List β}
    (found : list.mapM f = .ok results) : ∀ a ∈ list, ∃ b, f a = .ok b := by
  induction list generalizing results with
  | nil =>
    intro a inside
    cases inside
  | cons first rest ih =>
    rw [List.mapM_cons] at found
    obtain ⟨b, here, found⟩ := bind_eq_ok_iff.mp found
    obtain ⟨later, there, -⟩ := bind_eq_ok_iff.mp found
    intro a inside
    rcases List.mem_cons.mp inside with rfl | inside
    · exact ⟨b, here⟩
    · exact ih there a inside

/-- What is dropped from the results may as well be dropped before. -/
theorem mapM_filter {keep : α → Bool} {passes : β → Bool} {list : List α}
    (dropped : ∀ a ∈ list, keep a = false → ∃ b, f a = .ok b ∧ passes b = false) :
    (list.mapM f).map (List.filter passes)
      = ((list.filter keep).mapM f).map (List.filter passes) := by
  induction list with
  | nil => rfl
  | cons a rest ih =>
    have ih := ih fun other inside => dropped other (List.mem_cons_of_mem _ inside)
    cases kept : keep a with
    | false =>
      obtain ⟨b, found, hidden⟩ := dropped a List.mem_cons_self kept
      rw [List.filter_cons_of_neg (by simp [kept]), ← ih, List.mapM_cons, found, ok_bind]
      cases rest.mapM f with
      | error failure => rfl
      | ok later => simp [ok_bind, Except.map, pure, Except.pure, hidden]
    | true =>
      rw [List.filter_cons_of_pos kept, List.mapM_cons, List.mapM_cons]
      cases f a with
      | error failure => rfl
      | ok b =>
        rw [ok_bind, ok_bind]
        cases whole : rest.mapM f <;> cases part : (rest.filter keep).mapM f <;>
          simp [whole, part, ok_bind, error_bind, Except.map, pure, Except.pure,
            List.filter_cons] at ih ⊢
        · exact ih
        · simp [ih]

end Except

/-! ## The pass by date -/

namespace Recurrence

/-- A look-up of a range that breaks off does so on some date of it. -/
theorem exists_overruns {recurrence : Recurrence} {start stop : Date}
    (overrun : recurrence.overruns start stop) :
    ∃ day, start ≤ day ∧ day ≤ stop ∧ recurrence.overruns day day := by
  obtain ⟨nonempty, cut⟩ := overruns_iff.mp overrun
  have finished := le_finish_iff.mp (Nat.le_refl (recurrence.finish stop).ordinal)
  have begun := begin_le_iff.mp nonempty
  have same : recurrence.finish (recurrence.finish stop) = recurrence.finish stop := by
    apply Date.le_antisymm
    · exact (le_finish_iff.mp (Nat.le_refl _)).1
    · exact le_finish_iff.mpr ⟨Nat.le_refl _, finished.2⟩
  refine ⟨recurrence.finish stop, begun.1, finished.1, overruns_iff.mpr ⟨?_, same.symm ▸ cut⟩⟩
  rw [same]
  exact begin_le_iff.mpr ⟨Nat.le_refl _, begun.2⟩

end Recurrence

namespace Records

variable {records : Records} {calendarId : String} {start stop : Date}

/-- A range can be looked through where each of its dates can. -/
theorem checkSpan_eq_ok_iff_daily :
    records.checkSpan calendarId start stop = .ok ()
      ↔ ∀ day ∈ Date.span start stop, records.checkSpan calendarId day day = .ok () := by
  simp only [checkSpan_eq_ok_iff, Date.mem_span]
  constructor
  · rintro ⟨comparable, foreseeable⟩ day ⟨after, before⟩
    exact ⟨comparable.single after before, foreseeable.single after before⟩
  · intro daily
    constructor
    · intro a insideA b insideB memberA memberB same after before
      exact (daily a.day ⟨after, before⟩).1 a insideA b insideB memberA memberB same
        (Date.le_refl _) (Date.le_refl _)
    · intro recurrence inside member
      by_contra overrun
      obtain ⟨day, after, before, broken⟩ :=
        Recurrence.exists_overruns (by simpa using overrun)
      have single := (daily day ⟨after, before⟩).2 recurrence inside member
      rw [broken] at single
      cases single

theorem mem_dates_contributionsBetween {day : Date} :
    day ∈ (records.contributionsBetween calendarId start stop).map Prod.fst
      ↔ day ∈ (Date.span start stop).filter fun day => records.merged calendarId day ≠ [] := by
  simp only [List.mem_map, List.mem_filter, Date.mem_span, decide_eq_true_eq]
  constructor
  · rintro ⟨entry, inside, rfl⟩
    obtain ⟨after, before, some⟩ := mem_contributionsBetween inside
    rw [eq_merged_of_mem_contributionsBetween inside] at some
    exact ⟨⟨after, before⟩, some⟩
  · rintro ⟨⟨after, before⟩, some⟩
    by_contra absent
    apply some
    rw [← onDate_contributionsBetween records calendarId after before]
    exact Contribution.onDate_eq_nil fun entry inside same => absent ⟨entry, inside, same⟩

/-- The pass over a range tells of the dates that show anybody, each with its merge. -/
theorem contributionsBetween_eq :
    records.contributionsBetween calendarId start stop
      = ((Date.span start stop).filter fun day => records.merged calendarId day ≠ []).map
        fun day => (day, records.merged calendarId day) := by
  have dates : (records.contributionsBetween calendarId start stop).map Prod.fst
      = (Date.span start stop).filter fun day => records.merged calendarId day ≠ [] := by
    apply List.Pairwise.eq_of_mem_iff (r := (· < ·))
    · exact Contribution.pairwise_gather (pairwise_byDate _)
    · exact (Date.pairwise_span start stop).filter _
    · exact fun day => mem_dates_contributionsBetween
  have merges : (records.contributionsBetween calendarId start stop).map
        ((fun day => (day, records.merged calendarId day)) ∘ Prod.fst)
      = (records.contributionsBetween calendarId start stop).map id := by
    apply List.map_congr_left
    intro entry inside
    exact Prod.ext rfl (eq_merged_of_mem_contributionsBetween inside).symm
  rw [← dates, List.map_map, merges, List.map_id]

end Records

/-! ## What is disclosed -/

/-- Whoever shows the same entry hides the same of it. -/
theorem Contribution.Veils.unique {requester : Option String} {a b full : Contribution}
    (first : Veils requester a full) (second : Veils requester b full) : a = b := by
  have ids : a.participantId = b.participantId := by
    apply Option.ext
    intro id
    rw [first.participantId, second.participantId]
  cases a
  cases b
  simp only [Contribution.mk.injEq]
  exact ⟨ids, first.participantName.trans second.participantName.symm,
    first.slot.trans second.slot.symm, first.note.trans second.note.symm⟩

theorem DaySummary.Veils.unique {requester : Option String} {a b full : DaySummary}
    (first : Veils requester a full) (second : Veils requester b full) : a = b := by
  have entries : a.contributions = b.contributions :=
    List.left_unique_forall₂' (fun _ _ _ veils veils' => veils.unique veils')
      first.contributions second.contributions
  cases a
  cases b
  simp only [DaySummary.mk.injEq]
  exact ⟨first.day.trans second.day.symm, first.total.trans second.total.symm, entries⟩

/-- What a calendar shows of a summary: all of it, or without the ids that it locks. -/
def Calendar.Discloses (calendar : Calendar) (requester : Option String)
    (shown full : DaySummary) : Prop :=
  if calendar.lockParticipants then DaySummary.Veils requester shown full else shown = full

theorem Calendar.forall₂_discloses_iff {calendar : Calendar} {requester : Option String}
    {shown full : List DaySummary} :
    List.Forall₂ (calendar.Discloses requester) shown full
      ↔ shown = if calendar.lockParticipants then full.map (DaySummary.masked requester)
        else full := by
  unfold Discloses
  cases calendar.lockParticipants with
  | false => simp
  | true =>
    simp only [if_true]
    have veiled : List.Forall₂ (DaySummary.Veils requester)
        (full.map (DaySummary.masked requester)) full := by
      rw [List.forall₂_map_left_iff, List.forall₂_same]
      exact fun summary _ => summary.veils_masked requester
    constructor
    · intro veils
      exact List.left_unique_forall₂' (fun _ _ _ first second => first.unique second) veils veiled
    · rintro rfl
      exact veiled

/-! ## The summary of a range -/

namespace Board

variable {board : Board} {calendar : Calendar} {token start stop : String} {first last : Date}
  {requester : Option String}

/-- The summaries of the dates from one to another, until one fails. -/
def daily (board : Board) (token : String) (first last : Date) :
    Except Failure (List DaySummary) :=
  (Date.span first last).mapM fun day => board.dateSummary token day.iso

theorem rangeSummary_eq (found : board.records.calendarByToken token = .ok calendar)
    (begins : Date.request start = .ok first) (ends : Date.request stop = .ok last)
    (ordered : first ≤ last) :
    board.rangeSummary token start stop requester
      = board.records.checkSpan calendar.id first last >>= fun _ =>
        ((board.records.contributionsBetween calendar.id first last).mapM
          fun dated => DaySummary.of calendar dated.1 dated.2) >>= fun summaries =>
        let inhabited := summaries.filter fun summary => summary.total ≠ 0
        pure (if calendar.lockParticipants then inhabited.map (DaySummary.masked requester)
          else inhabited) := by
  have forward : Refusal.unless (first ≤ last) .datesReversed = .ok () :=
    Refusal.unless_eq_ok_iff.mpr (decide_eq_true ordered)
  unfold rangeSummary
  rw [found, Except.ok_bind, begins, Except.ok_bind, ends, Except.ok_bind, forward,
    Except.ok_bind]

/-- Dates that can be looked through have the summaries of their merges. -/
theorem daily_eq (found : board.records.calendarByToken token = .ok calendar)
    (checked : board.records.checkSpan calendar.id first last = .ok ()) :
    board.daily token first last
      = (Date.span first last).mapM fun day =>
        DaySummary.of calendar day (board.records.merged calendar.id day) := by
  unfold daily
  apply Except.mapM_congr
  intro day inside
  rw [dateSummary_eq found day.request_iso,
    Records.checkSpan_eq_ok_iff_daily.mp checked day inside, Except.ok_bind,
    Records.contributionsOn_eq_merged]

/-- Where every date of a range has a summary, the range can be looked through. -/
theorem checkSpan_of_daily {full : List DaySummary}
    (found : board.records.calendarByToken token = .ok calendar)
    (told : board.daily token first last = .ok full) :
    board.records.checkSpan calendar.id first last = .ok () := by
  apply Records.checkSpan_eq_ok_iff_daily.mpr
  intro day inside
  obtain ⟨summary, single⟩ := Except.exists_of_mapM_eq_ok told day inside
  rw [dateSummary_eq found day.request_iso] at single
  obtain ⟨⟨⟩, checked, -⟩ := Except.bind_eq_ok_iff.mp single
  exact checked

/-- Dates that show nobody count nobody. -/
theorem map_filter_daily (found : board.records.calendarByToken token = .ok calendar)
    (checked : board.records.checkSpan calendar.id first last = .ok ()) :
    (board.daily token first last).map (List.filter fun summary => summary.total ≠ 0)
      = ((board.records.contributionsBetween calendar.id first last).mapM
          fun dated => DaySummary.of calendar dated.1 dated.2).map
        (List.filter fun summary => summary.total ≠ 0) := by
  rw [daily_eq found checked, Records.contributionsBetween_eq, List.mapM_map]
  apply Except.mapM_filter
  intro day inside nobody
  have empty : board.records.merged calendar.id day = [] := by simpa using nobody
  refine ⟨⟨day, 0, []⟩, ?_, by simp⟩
  rw [empty]
  rfl

/-- The summary of a range discloses what its dates say, without those on which nobody
counts. -/
theorem rangeSummary_eq_ok_iff (found : board.records.calendarByToken token = .ok calendar)
    (begins : Date.request start = .ok first) (ends : Date.request stop = .ok last)
    (ordered : first ≤ last) {shown : List DaySummary} :
    board.rangeSummary token start stop requester = .ok shown
      ↔ ∃ full, board.daily token first last = .ok full
        ∧ List.Forall₂ (calendar.Discloses requester) shown
          (full.filter fun summary => summary.total ≠ 0) := by
  simp only [Calendar.forall₂_discloses_iff]
  constructor
  · intro told
    rw [rangeSummary_eq found begins ends ordered] at told
    obtain ⟨⟨⟩, checked, told⟩ := Except.bind_eq_ok_iff.mp told
    obtain ⟨summaries, each, decided⟩ := Except.bind_eq_ok_iff.mp told
    have same := map_filter_daily found checked
    rw [each] at same
    cases full : board.daily token first last with
    | error failure => simp [full, Except.map] at same
    | ok full' =>
      simp only [full, Except.map, Except.ok.injEq] at same
      cases decided
      exact ⟨full', rfl, by rw [same]⟩
  · rintro ⟨full, told, rfl⟩
    have checked := checkSpan_of_daily found told
    have same := map_filter_daily found checked
    rw [rangeSummary_eq found begins ends ordered, checked, Except.ok_bind]
    rw [told] at same
    cases each : (board.records.contributionsBetween calendar.id first last).mapM
        fun dated => DaySummary.of calendar dated.1 dated.2 with
    | error failure => simp [each, Except.map] at same
    | ok summaries =>
      simp only [each, Except.map, Except.ok.injEq] at same
      rw [Except.ok_bind, same]
      rfl

/-- Both parts of a divided range, one after the other. -/
theorem daily_append {middle next : Date} (after : first ≤ middle) (before : middle < last)
    (follows : next.ordinal = middle.ordinal + 1) {full : List DaySummary} :
    board.daily token first last = .ok full
      ↔ ∃ front back, board.daily token first middle = .ok front
        ∧ board.daily token next last = .ok back ∧ front ++ back = full := by
  unfold daily
  rw [Date.span_append after before follows, List.mapM_append]
  constructor
  · intro told
    obtain ⟨front, first', told⟩ := Except.bind_eq_ok_iff.mp told
    obtain ⟨back, last', same⟩ := Except.bind_eq_ok_iff.mp told
    cases same
    exact ⟨front, back, first', last', rfl⟩
  · rintro ⟨front, back, first', last', rfl⟩
    rw [first', last']
    rfl

/-- The summary of a range discloses the summaries of its dates in their order, without those
on which nobody counts, and there is one where each of them has one; an id that is locked shows
to the participant whose id it is, where it is not empty.  Divided between two dates, it is the
summary of the first part and then that of the second. -/
theorem range_is_daily (board : Board)
    (found : board.records.calendarByToken token = .ok calendar)
    (begins : Date.request start = .ok first) (ends : Date.request stop = .ok last)
    (ordered : first ≤ last) (requester : Option String) :
    (∀ shown, board.rangeSummary token start stop requester = .ok shown
      ↔ ∃ full, board.daily token first last = .ok full
        ∧ List.Forall₂ (calendar.Discloses requester) shown
          (full.filter fun summary => summary.total ≠ 0))
    ∧ ∀ stop' start' middle next, Date.request stop' = .ok middle → Date.request start' = .ok next →
      first ≤ middle → middle < last → middle.next? = some next →
      ∀ shown, board.rangeSummary token start stop requester = .ok shown
        ↔ ∃ front back, board.rangeSummary token start stop' requester = .ok front
          ∧ board.rangeSummary token start' stop requester = .ok back
          ∧ shown = front ++ back := by
  refine ⟨fun shown => rangeSummary_eq_ok_iff found begins ends ordered, ?_⟩
  intro stop' start' middle next ends' begins' after before follows shown
  have follows' : next.ordinal = middle.ordinal + 1 := Date.ofOrdinal?_eq_some_iff.mp follows
  have ordered' : next ≤ last := by
    rw [Date.le_def, follows']
    exact before
  rw [rangeSummary_eq_ok_iff found begins ends ordered]
  simp only [rangeSummary_eq_ok_iff found begins ends' after,
    rangeSummary_eq_ok_iff found begins' ends ordered', Calendar.forall₂_discloses_iff]
  constructor
  · rintro ⟨full, told, rfl⟩
    obtain ⟨front, back, told', told'', rfl⟩ := (daily_append after before follows').mp told
    refine ⟨_, _, ⟨front, told', rfl⟩, ⟨back, told'', rfl⟩, ?_⟩
    split <;> simp
  · rintro ⟨_, _, ⟨front, told, rfl⟩, ⟨back, told', rfl⟩, rfl⟩
    refine ⟨front ++ back, ?_, ?_⟩
    · exact (daily_append after before follows').mpr ⟨front, back, told, told', rfl⟩
    · split <;> simp

/-- Two dates, of which the first shows a locked participant. -/
theorem range_is_daily_sample :
    let tomorrow : Date := ⟨739408, by decide, by decide⟩
    let shown : List DaySummary := [⟨.sample, 1, [⟨none, "Ann", ⟨none, none⟩, none⟩]⟩]
    ∃ calendar, sampleLocked.records.calendarByToken "open" = .ok calendar
      ∧ Date.request "2025-06-05" = .ok .sample ∧ Date.request "2025-06-06" = .ok tomorrow
      ∧ Date.sample ≤ tomorrow ∧ Date.sample < tomorrow ∧ Date.sample.next? = some tomorrow
      ∧ sampleLocked.rangeSummary "open" "2025-06-05" "2025-06-06" (some "bob") = .ok shown
      ∧ (∃ full, sampleLocked.daily "open" .sample tomorrow = .ok full
        ∧ List.Forall₂ (calendar.Discloses (some "bob")) shown
          (full.filter fun summary => summary.total ≠ 0))
      ∧ ∃ front back,
        sampleLocked.rangeSummary "open" "2025-06-05" "2025-06-05" (some "bob") = .ok front
        ∧ sampleLocked.rangeSummary "open" "2025-06-06" "2025-06-06" (some "bob") = .ok back
        ∧ shown = front ++ back := by
  intro tomorrow shown
  have found := calendarByToken_sampleLocked
  have today : Date.request "2025-06-05" = .ok .sample := by decide +kernel
  have later : Date.request "2025-06-06" = .ok tomorrow := by decide +kernel
  have told : sampleLocked.rangeSummary "open" "2025-06-05" "2025-06-06" (some "bob")
      = .ok shown := by decide +kernel
  obtain ⟨daily, parts⟩ :=
    range_is_daily sampleLocked found today later (by decide) (some "bob")
  refine ⟨_, found, today, later, by decide, by decide, by decide, told, (daily shown).mp told, ?_⟩
  exact (parts _ _ _ _ today later (by decide) (by decide) (by decide) shown).mp told

/-- The sample calendar with its participants locked, and one there on a day whose id is the
empty text. -/
def sampleNameless : Board :=
  let calendar := { Calendar.sample with lockParticipants := true }
  let records :=
    { Records.empty with
      calendars := ⟨[calendar], Table.nodup_single calendar⟩
      participants := ⟨[.sample "" "Ann"], Table.nodup_single _⟩ }
  { sample with records := records }.after [(Surroundings.sample, .sampleEntry "")]

/-- The empty id does not show to the participant whose id it is. -/
theorem rangeSummary_of_nameless :
    sampleNameless.records.calendarByToken "open"
        = .ok { Calendar.sample with lockParticipants := true }
      ∧ sampleNameless.dateSummary "open" "2025-06-05"
        = .ok ⟨.sample, 1, [⟨some "", "Ann", ⟨none, none⟩, none⟩]⟩
      ∧ sampleNameless.rangeSummary "open" "2025-06-05" "2025-06-05" (some "")
        = .ok [⟨.sample, 1, [⟨none, "Ann", ⟨none, none⟩, none⟩]⟩] := by
  refine ⟨?_, ?_, ?_⟩ <;> decide +kernel

end Board

end Rendezvous
