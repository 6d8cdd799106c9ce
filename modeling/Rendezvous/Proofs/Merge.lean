import Mathlib.Data.List.Count
import Rendezvous.Board.Notify
import Rendezvous.Proofs.Grouping
import Rendezvous.Proofs.Occurrences
import Rendezvous.Proofs.Sorting

/-!
# The merge of availabilities and recurrences

The contributions to a range of dates are collected in one pass: a sorted scan of the
availabilities, a look-up of every recurrence, and a grouping by date.  `merged` says what
a single date is to show, and the pass shows it on every date of every range.
-/

namespace Rendezvous

namespace Records

/-! ## One date -/

def member? (records : Records) (calendarId participantId : String) : Option Participant :=
  (records.participantsOf calendarId).find? fun participant => participant.id = participantId

/-- The availabilities that participants of a calendar stored for a date, by the time they
were made. -/
def enteredOn (records : Records) (calendarId : String) (day : Date) : List Availability :=
  (records.availabilities.rows.filter fun availability =>
      availability.day = day && (records.member? calendarId availability.participantId).isSome).mergeSort
    fun a b => a.createdAt.micros ≤ b.createdAt.micros

/-- The recurrences of participants of a calendar that count on a date: those that cover it,
where the date is not excluded and their participant stored nothing for it. -/
def repeatedOn (records : Records) (calendarId : String) (day : Date) : List Recurrence :=
  records.recurrences.rows.filter fun recurrence =>
    (records.member? calendarId recurrence.participantId).isSome && recurrence.covers day
      && !records.isExcluded recurrence.id day
      && !records.hasAvailability recurrence.participantId day

/-- What a date of a calendar is to show. -/
def merged (records : Records) (calendarId : String) (day : Date) : List Contribution :=
  ((records.enteredOn calendarId day).filterMap fun availability =>
      (records.member? calendarId availability.participantId).map
        fun participant => .ofAvailability participant availability)
    ++ (records.repeatedOn calendarId day).filterMap fun recurrence =>
      (records.member? calendarId recurrence.participantId).map
        fun participant => .ofRecurrence participant recurrence

theorem isSome_member? {records : Records} {participant : Participant}
    (inside : participant ∈ records.participants.rows) :
    (records.member? participant.calendarId participant.id).isSome := by
  unfold member? participantsOf
  rw [List.find?_isSome]
  exact ⟨participant, List.mem_filter.mpr ⟨inside, by simp⟩, by simp⟩

/-- The order of the entries is theirs alone, so some of them can be picked before. -/
theorem filter_enteredOn (records : Records) (calendarId : String) (day : Date)
    (keep : Availability → Bool) :
    (records.enteredOn calendarId day).filter keep
      = (records.availabilities.rows.filter fun availability => keep availability
          && (availability.day = day
            && (records.member? calendarId availability.participantId).isSome)).mergeSort
        fun a b => a.createdAt.micros ≤ b.createdAt.micros := by
  rw [enteredOn, Sorting.filter_mergeSort, List.filter_filter]
  · intro a b c first second
    simp only [decide_eq_true_eq] at first second ⊢
    omega
  · intro a b
    simp only [Bool.or_eq_true, decide_eq_true_eq]
    omega

theorem any_participantsOf (records : Records) (calendarId participantId : String) :
    ((records.participantsOf calendarId).any fun participant => participant.id = participantId)
      = (records.member? calendarId participantId).isSome := by
  rw [member?, List.isSome_find?]

theorem id_of_member? {records : Records} {calendarId participantId : String}
    {participant : Participant} (found : records.member? calendarId participantId = some participant) :
    participant.id = participantId := by
  simpa using List.find?_some found

theorem mem_of_member? {records : Records} {calendarId participantId : String}
    {participant : Participant}
    (found : records.member? calendarId participantId = some participant) :
    participant ∈ records.participants.rows ∧ participant.calendarId = calendarId := by
  simpa [participantsOf] using List.mem_of_find?_eq_some found

theorem filter_availabilitiesBetween (records : Records) (calendarId : String)
    {start stop day : Date} (after : start ≤ day) (before : day ≤ stop) :
    (records.availabilitiesBetween (records.participantsOf calendarId) start stop).filter
        (fun availability => availability.day = day)
      = records.enteredOn calendarId day := by
  have keeps : (records.availabilitiesWithin (records.participantsOf calendarId) start stop).filter
        (fun availability => availability.day = day)
      = records.availabilities.rows.filter fun availability => availability.day = day
        && (records.member? calendarId availability.participantId).isSome := by
    rw [availabilitiesWithin, List.filter_filter]
    refine List.filter_congr fun availability _ => ?_
    rw [any_participantsOf]
    by_cases here : availability.day = day
    · simp [here, after, before]
    · simp [here]
  rw [availabilitiesBetween, Sorting.filter_mergeSort, keeps, enteredOn]
  · refine Sorting.mergeSort_congr fun a insideA b insideB => ?_
    have dayA : a.day = day := by simp at insideA; exact insideA.2.1
    have dayB : b.day = day := by simp at insideB; exact insideB.2.1
    simp [dayA, dayB, Date.lt_def]
  · intro a b c first second
    simp only [Bool.or_eq_true, Bool.and_eq_true, decide_eq_true_eq, Date.lt_def,
      Date.ext_iff] at first second ⊢
    omega
  · intro a b
    simp only [Bool.or_eq_true, Bool.and_eq_true, decide_eq_true_eq, Date.lt_def, Date.ext_iff]
    omega

theorem filter_explicitBetween (records : Records) (calendarId : String)
    {start stop day : Date} (after : start ≤ day) (before : day ≤ stop) :
    ((records.explicitBetween (records.participantsOf calendarId) start stop).filter
        fun single => single.1 = day).map Prod.snd
      = (records.enteredOn calendarId day).filterMap fun availability =>
          (records.member? calendarId availability.participantId).map
            fun participant => .ofAvailability participant availability := by
  rw [← filter_availabilitiesBetween records calendarId after before, explicitBetween,
    List.filter_filterMap, List.map_filterMap, List.filterMap_filter]
  refine List.filterMap_congr fun availability _ => ?_
  rw [← member?]
  by_cases here : availability.day = day <;>
    cases records.member? calendarId availability.participantId <;> simp [here]

theorem filter_dates (recurrence : Recurrence) {start stop day : Date} (after : start ≤ day)
    (before : day ≤ stop) :
    (recurrence.dates start stop).filter (fun other => other = day)
      = if recurrence.covers day then [day] else [] := by
  rw [List.filter_eq]
  split
  next covered =>
    rw [List.count_eq_one_of_mem (recurrence.nodup_dates start stop)
      (Recurrence.mem_dates.mpr ⟨covered, after, before⟩)]
    rfl
  next uncovered =>
    rw [List.count_eq_zero_of_not_mem fun inside => uncovered (Recurrence.mem_dates.mp inside).1]
    rfl

theorem filter_recurringBetween (records : Records) (calendarId : String)
    {start stop day : Date} (after : start ≤ day) (before : day ≤ stop) :
    ((records.recurringBetween (records.participantsOf calendarId) start stop).filter
        fun single => single.1 = day).map Prod.snd
      = (records.repeatedOn calendarId day).filterMap fun recurrence =>
          (records.member? calendarId recurrence.participantId).map
            fun participant => .ofRecurrence participant recurrence := by
  rw [recurringBetween, List.filter_flatMap, List.map_flatMap, repeatedOn, List.filterMap_filter,
    List.filterMap_eq_flatMap_toList]
  refine List.flatMap_congr fun recurrence _ => ?_
  rw [← member?]
  cases found : records.member? calendarId recurrence.participantId with
  | none => simp
  | some participant =>
    have same := id_of_member? found
    have single := filter_dates recurrence after before
    simp only [List.filter_map, List.map_map, Function.comp_def]
    rw [List.filter_comm, single, same]
    by_cases covered : recurrence.covers day
    · cases hidden : records.isExcluded recurrence.id day <;>
        cases stored : records.hasAvailability recurrence.participantId day <;>
        simp [covered, hidden, stored]
    · simp [covered]

theorem pairwise_byDate (dated : List (Date × Contribution)) :
    (dated.mergeSort fun a b => a.1 ≤ b.1).Pairwise fun a b => a.1 ≤ b.1 :=
  Date.pairwise_le_mergeSort Prod.fst dated

/-- A stable sort by date leaves the contributions to one date as they were. -/
theorem filter_byDate (dated : List (Date × Contribution)) (day : Date) :
    (dated.mergeSort fun a b => a.1 ≤ b.1).filter (fun single => single.1 = day)
      = dated.filter fun single => single.1 = day := by
  rw [Sorting.filter_mergeSort (Date.byDate_trans Prod.fst) (Date.byDate_total Prod.fst)]
  refine List.mergeSort_of_pairwise (List.pairwise_of_forall_mem_list ?_)
  intro a insideA b insideB
  have dayA : a.1 = day := by simpa using List.of_mem_filter insideA
  have dayB : b.1 = day := by simpa using List.of_mem_filter insideB
  simp [dayA, dayB, Date.le_refl]

/-- The pass over a range shows on each of its dates what the date is to show. -/
theorem onDate_contributionsBetween (records : Records) (calendarId : String)
    {start stop day : Date} (after : start ≤ day) (before : day ≤ stop) :
    Contribution.onDate (records.contributionsBetween calendarId start stop) day
      = records.merged calendarId day := by
  rw [contributionsBetween, Contribution.onDate_gather (pairwise_byDate _), filter_byDate,
    List.filter_append, List.map_append, filter_explicitBetween records calendarId after before,
    filter_recurringBetween records calendarId after before, merged]

theorem mem_explicitBetween {records : Records} {participants : List Participant}
    {start stop : Date} {single : Date × Contribution}
    (inside : single ∈ records.explicitBetween participants start stop) :
    start ≤ single.1 ∧ single.1 ≤ stop := by
  obtain ⟨availability, among, found⟩ := List.mem_filterMap.mp inside
  obtain ⟨participant, -, rfl⟩ := Option.map_eq_some_iff.mp found
  rw [availabilitiesBetween, List.mem_mergeSort, availabilitiesWithin, List.mem_filter] at among
  simp only [Bool.and_eq_true, decide_eq_true_eq] at among
  exact ⟨among.2.1.2, among.2.2⟩

theorem mem_recurringBetween {records : Records} {participants : List Participant}
    {start stop : Date} {single : Date × Contribution}
    (inside : single ∈ records.recurringBetween participants start stop) :
    start ≤ single.1 ∧ single.1 ≤ stop := by
  obtain ⟨recurrence, -, found⟩ := List.mem_flatMap.mp inside
  split at found
  · cases found
  · obtain ⟨day, among, rfl⟩ := List.mem_map.mp found
    exact (Recurrence.mem_dates.mp (List.mem_of_mem_filter among)).2

theorem mem_contributionsBetween {records : Records} {calendarId : String} {start stop : Date}
    {entry : Date × List Contribution}
    (inside : entry ∈ records.contributionsBetween calendarId start stop) :
    start ≤ entry.1 ∧ entry.1 ≤ stop ∧ entry.2 ≠ [] := by
  obtain ⟨nonempty, single, among, same⟩ := Contribution.mem_of_mem_gather inside
  rw [List.mem_mergeSort, List.mem_append] at among
  have within : start ≤ single.1 ∧ single.1 ≤ stop := by
    rcases among with entered | repeated
    · exact mem_explicitBetween entered
    · exact mem_recurringBetween repeated
  exact ⟨same ▸ within.1, same ▸ within.2, nonempty⟩

/-- Each date that the pass tells of is told with its merge. -/
theorem eq_merged_of_mem_contributionsBetween {records : Records} {calendarId : String}
    {start stop : Date} {entry : Date × List Contribution}
    (inside : entry ∈ records.contributionsBetween calendarId start stop) :
    entry.2 = records.merged calendarId entry.1 := by
  obtain ⟨after, before, -⟩ := mem_contributionsBetween inside
  rw [← onDate_contributionsBetween records calendarId after before]
  exact (Contribution.onDate_of_mem (Contribution.pairwise_gather (pairwise_byDate _)) inside).symm

/-- Looking at a single date is the same as looking it up in a range. -/
theorem contributionsOn_eq_merged (records : Records) (calendarId : String) (day : Date) :
    records.contributionsOn calendarId day = records.merged calendarId day := by
  rw [← onDate_contributionsBetween records calendarId (Date.le_refl day) (Date.le_refl day),
    contributionsOn]
  cases groups : records.contributionsBetween calendarId day day with
  | nil => rfl
  | cons entry later =>
    have inside : entry ∈ records.contributionsBetween calendarId day day :=
      groups ▸ List.mem_cons_self
    obtain ⟨after, before, -⟩ := mem_contributionsBetween inside
    rw [Contribution.onDate_cons, if_pos (Date.le_antisymm before after)]

/-! ## When the pass breaks off -/

/-- Availabilities of the participants of a calendar on one date between two dates were made
at instants that can be compared. -/
def Comparable (records : Records) (calendarId : String) (start stop : Date) : Prop :=
  ∀ a ∈ records.availabilities.rows, ∀ b ∈ records.availabilities.rows,
    (records.member? calendarId a.participantId).isSome →
    (records.member? calendarId b.participantId).isSome →
    a.day = b.day → start ≤ a.day → a.day ≤ stop →
    (a.createdAt.compare? b.createdAt).isSome

/-- The look-up of no recurrence of a calendar breaks off at the end of the calendar. -/
def Foreseeable (records : Records) (calendarId : String) (start stop : Date) : Prop :=
  ∀ recurrence ∈ records.recurrences.rows,
    (records.member? calendarId recurrence.participantId).isSome →
    recurrence.overruns start stop = false

theorem areIncomparable_eq_false_iff {records : Records} {calendarId : String}
    {start stop : Date} :
    areIncomparable
        (records.availabilitiesWithin (records.participantsOf calendarId) start stop) = false
      ↔ records.Comparable calendarId start stop := by
  simp only [areIncomparable, availabilitiesWithin, any_participantsOf, Comparable,
    List.any_eq_false, List.mem_filter, Bool.and_eq_true, decide_eq_true_eq, not_and,
    Bool.not_eq_true, Option.isNone_eq_false_iff, and_imp]
  constructor
  · intro orderly a insideA b insideB memberA memberB same after before
    exact orderly a insideA memberA after before b insideB memberB (same ▸ after)
      (same ▸ before) same
  · intro orderly a insideA memberA after before b insideB memberB _ _ same
    exact orderly a insideA b insideB memberA memberB same after before

theorem checkSpan_eq_ok_iff {records : Records} {calendarId : String} {start stop : Date} :
    records.checkSpan calendarId start stop = .ok ()
      ↔ records.Comparable calendarId start stop ∧ records.Foreseeable calendarId start stop := by
  rw [← areIncomparable_eq_false_iff, checkSpan]
  cases incomparable : areIncomparable
      (records.availabilitiesWithin (records.participantsOf calendarId) start stop)
  · simp [Foreseeable, any_participantsOf]
  · simp

/-- Records with the same recurrences can be looked through alike, where both can be put in order
or neither can. -/
theorem checkSpan_congr {records records' : Records} {calendarId : String} {start stop : Date}
    (comparable : records.Comparable calendarId start stop
      ↔ records'.Comparable calendarId start stop)
    (members : ∀ participantId, (records.member? calendarId participantId).isSome
      = (records'.member? calendarId participantId).isSome)
    (recurrences : records.recurrences = records'.recurrences) :
    records.checkSpan calendarId start stop = records'.checkSpan calendarId start stop := by
  rw [← areIncomparable_eq_false_iff, ← areIncomparable_eq_false_iff] at comparable
  have orderly := Bool.eq_iff_iff.mpr (not_iff_not.mp (by simpa using comparable))
  unfold checkSpan
  simp only [orderly, any_participantsOf, members, recurrences]

theorem Comparable.single {records : Records} {calendarId : String} {start stop day : Date}
    (comparable : records.Comparable calendarId start stop) (after : start ≤ day)
    (before : day ≤ stop) : records.Comparable calendarId day day := by
  intro a insideA b insideB memberA memberB same late early
  exact comparable a insideA b insideB memberA memberB same (Date.le_trans after late)
    (Date.le_trans early before)

theorem Foreseeable.single {records : Records} {calendarId : String} {start stop day : Date}
    (foreseeable : records.Foreseeable calendarId start stop) (after : start ≤ day)
    (before : day ≤ stop) : records.Foreseeable calendarId day day := by
  intro recurrence inside member
  have range := foreseeable recurrence inside member
  by_contra overrun
  rw [Recurrence.overruns_of_single after before (by simpa using overrun)] at range
  cases range

end Records

namespace Board

theorem contributions_eq_ok_iff {board : Board} {calendarId : String} {start stop : Date}
    {dated : List (Date × List Contribution)} :
    board.contributions calendarId start stop = .ok dated
      ↔ (board.records.Comparable calendarId start stop
          ∧ board.records.Foreseeable calendarId start stop)
        ∧ board.records.contributionsBetween calendarId start stop = dated := by
  rw [← Records.checkSpan_eq_ok_iff, contributions]
  cases board.records.checkSpan calendarId start stop with
  | error failure => simp [bind, Except.bind]
  | ok => simp [bind, Except.bind, pure, Except.pure]

/-- The contributions to a range of dates can be told where the availabilities of each date
can be put in order and no look-up reaches the end of the calendar.  Then the dates ascend,
none is empty, and each shows its merge, as it does when it is looked up alone. -/
theorem contributions_merge (board : Board) (calendarId : String) (start stop : Date) :
    ((∃ dated, board.contributions calendarId start stop = .ok dated)
      ↔ board.records.Comparable calendarId start stop
        ∧ board.records.Foreseeable calendarId start stop)
    ∧ ∀ dated, board.contributions calendarId start stop = .ok dated →
      (dated.map Prod.fst).Pairwise (· < ·)
      ∧ (∀ entry ∈ dated, start ≤ entry.1 ∧ entry.1 ≤ stop ∧ entry.2 ≠ [])
      ∧ ∀ day, start ≤ day → day ≤ stop →
        Contribution.onDate dated day = board.records.merged calendarId day
        ∧ board.records.contributionsOn calendarId day = board.records.merged calendarId day
        ∧ ∃ single, board.contributions calendarId day day = .ok single
          ∧ Contribution.onDate single day = board.records.merged calendarId day := by
  refine ⟨?_, ?_⟩
  · simp [contributions_eq_ok_iff]
  · intro dated told
    obtain ⟨⟨comparable, foreseeable⟩, rfl⟩ := contributions_eq_ok_iff.mp told
    refine ⟨Contribution.pairwise_gather (Records.pairwise_byDate _),
      fun entry inside => Records.mem_contributionsBetween inside, ?_⟩
    intro day after before
    refine ⟨Records.onDate_contributionsBetween _ _ after before,
      Records.contributionsOn_eq_merged _ _ _,
      board.records.contributionsBetween calendarId day day, ?_,
      Records.onDate_contributionsBetween _ _ (Date.le_refl day) (Date.le_refl day)⟩
    exact contributions_eq_ok_iff.mpr
      ⟨⟨comparable.single after before, foreseeable.single after before⟩, rfl⟩

end Board

/-! ## A date that cannot be put in order -/

/-- The owner is told on a single chat channel. -/
def NotifyConfig.sample : NotifyConfig where
  enabled := true
  notifyOwner := true
  notifyParticipants := false
  channels := ⟨false, ⟨true, "hook"⟩, ⟨false, ""⟩, ⟨false, "", ""⟩⟩
  reminders := ⟨false, 24⟩

/-- A calendar that admits every day and tells its owner of every crossing. -/
def Calendar.sample : Calendar where
  id := "club"
  ownerId := "owner"
  name := "Club"
  publicToken := "open"
  timezone := "UTC"
  allowedWeekdays := [0, 1, 2, 3, 4, 5, 6]
  holidayPolicy := .ignore
  allowHolidayEves := false
  allowedHours := ⟨[], .unbounded, .unbounded⟩
  leastHours := 0
  threshold := 1
  lockParticipants := false
  firstDate := none
  lastDate := none
  notifyConfig := some .sample
  one_le_threshold := Nat.one_pos

/-- A country on either side of the ocean, without holidays. -/
def Holidays.sample : Holidays where
  zones := [("FR", ["Europe/Paris"]), ("US", ["America/New_York"])]
  named _ _ := none

def Participant.sample (id name : String) : Participant where
  id := id
  calendarId := "club"
  name := name
  email := none
  emailVerified := false
  locale := "en"
  verificationToken := none
  verificationExpiresAt := none
  createdAt := ⟨0, some 0⟩

def Date.sample : Date := ⟨739407, by decide, by decide⟩

def Availability.sample (id participantId : String) (createdAt : Instant) : Availability where
  id := id
  participantId := participantId
  day := .sample
  slot := ⟨none, none⟩
  note := none
  source := .manual
  recurrenceId := none
  createdAt := createdAt
  updatedAt := createdAt

namespace Board

/-- A board with two participants, at noon of 2025-06-01. -/
def sample : Board where
  records :=
    { Records.empty with
      calendars := ⟨[.sample], by decide⟩
      users := ⟨[⟨"owner", "o@x", "Owner", "en"⟩], by decide⟩
      participants := ⟨[.sample "ann" "Ann", .sample "bob" "Bob"], by decide⟩ }
  log := []
  now := ⟨63884376000000000, some 0⟩
  issued := 0
  tokens := 0
  countOutages := 0

/-- The same board with two availabilities of one date, the first of which was made by a
clock without an offset. -/
def disordered : Board :=
  { sample with
    records :=
      { sample.records with
        availabilities :=
          ⟨[.sample "first" "ann" ⟨63881686800000000, none⟩,
            .sample "second" "bob" ⟨63883328400000000, some 0⟩], by decide⟩ } }

/-- Two availabilities of a date that cannot be put in order keep its merge from being told,
even where no recurrence has to be looked up. -/
theorem contributions_of_disordered :
    disordered.records.Foreseeable "club" .sample .sample
      ∧ ¬ ∃ dated, disordered.contributions "club" .sample .sample = .ok dated := by
  refine ⟨?_, ?_⟩
  · intro recurrence inside
    cases inside
  · rintro ⟨dated, told⟩
    have broken : disordered.contributions "club" .sample .sample = .error .incomparable := rfl
    rw [broken] at told
    cases told

end Board

end Rendezvous
