import Rendezvous.Proofs.Daily
import Rendezvous.Proofs.Uniqueness

/-!
# What concerns one calendar

All calendars share their tables.  An excerpt keeps the rows of one calendar: its participants,
their availabilities and recurrences, and the days excluded from those.  Whatever is asked about
the calendar is answered by its excerpt alone, and a change to one of its rows is a change to the
excerpt.
-/

namespace Rendezvous

/-! ## Rows that are kept -/

namespace Table

variable {α : Type} [Keyed α] {table : Table α} {passes : α → Bool}

open Keyed (key)

/-- A row that passes is found among those that are kept. -/
theorem get?_keep (name : String) :
    (table.keep passes).get? name = (table.get? name).filter passes := by
  apply Option.ext
  intro row
  simp only [get?_eq_some_iff, Option.filter_eq_some_iff, rows_keep, List.mem_filter]
  tauto

theorem filter_place_of_passes {row : α} {rows : List α} (passes' : passes row)
    (replaced : ∀ other ∈ rows, key other = key row → passes other) :
    (place row rows).filter passes = place row (rows.filter passes) := by
  induction rows with
  | nil => simp [place, passes']
  | cons first rest ih =>
    have rest' := ih fun other inside => replaced other (List.mem_cons_of_mem _ inside)
    rw [place]
    by_cases same : key first = key row
    · have kept := replaced first List.mem_cons_self same
      simp [same, passes', kept, place]
    · by_cases kept : passes first
      · simp [same, kept, rest', place]
      · simp [same, kept, rest']

/-- Rows are kept before or after one of them is put in. -/
theorem keep_put {row : α} (passes' : passes row)
    (replaced : ∀ other ∈ table.rows, key other = key row → passes other) :
    (table.put row).keep passes = (table.keep passes).put row :=
  ext (filter_place_of_passes passes' replaced)

theorem keep_keep (first second : α → Bool) :
    (table.keep first).keep second = (table.keep second).keep first := by
  apply ext
  simp only [rows_keep, List.filter_filter, Bool.and_comm]

theorem keep_erase (name : String) :
    (table.erase name).keep passes = (table.keep passes).erase name :=
  keep_keep _ _

theorem keep_congr {first second : α → Bool}
    (same : ∀ row ∈ table.rows, first row = second row) : table.keep first = table.keep second :=
  ext (List.filter_congr same)

/-- A row with a new key comes last. -/
theorem rows_put_of_new {row : α} (new : ∀ other ∈ table.rows, key other ≠ key row) :
    (table.put row).rows = table.rows ++ [row] := by
  obtain ⟨rows, nodup⟩ := table
  simp only [rows_put] at *
  induction rows with
  | nil => rfl
  | cons first rest ih =>
    obtain ⟨-, nodup'⟩ := List.nodup_cons.mp (List.map_cons ▸ nodup)
    unfold place
    rw [if_neg (new first List.mem_cons_self),
      ih nodup' fun other inside => new other (List.mem_cons_of_mem _ inside)]
    rfl

end Table

/-! ## Excerpts -/

namespace Records

/-- Whether a recurrence is one of a participant of a calendar. -/
def belongs (records : Records) (calendarId recurrenceId : String) : Bool :=
  records.recurrences.rows.any fun recurrence =>
    recurrence.id = recurrenceId && (records.member? calendarId recurrence.participantId).isSome

/-- The rows that concern a calendar. -/
def only (records : Records) (calendarId : String) : Records where
  calendars := records.calendars.keep fun calendar => calendar.id = calendarId
  users := .empty
  participants := records.participants.keep fun participant => participant.calendarId = calendarId
  availabilities := records.availabilities.keep fun availability =>
    (records.member? calendarId availability.participantId).isSome
  recurrences := records.recurrences.keep fun recurrence =>
    (records.member? calendarId recurrence.participantId).isSome
  exclusions := records.exclusions.keep fun exclusion =>
    records.belongs calendarId exclusion.recurrenceId

/-- A calendar that is stored, and the only one that its public token opens. -/
structure OpensOnly (records : Records) (calendar : Calendar) : Prop where
  stored : calendar ∈ records.calendars.rows
  unique : ∀ other ∈ records.calendars.rows, other.publicToken = calendar.publicToken →
    other = calendar

variable {records : Records} {calendar : Calendar} {calendarId : String}

@[simp] theorem participantsOf_only :
    (records.only calendarId).participantsOf calendarId = records.participantsOf calendarId := by
  simp [participantsOf, only]

@[simp] theorem member?_only (participantId : String) :
    (records.only calendarId).member? calendarId participantId
      = records.member? calendarId participantId := by
  simp [member?]

theorem OpensOnly.calendarByToken (opens : records.OpensOnly calendar) :
    records.calendarByToken calendar.publicToken = .ok calendar := by
  unfold Records.calendarByToken calendarOf?
  cases found : records.calendars.rows.find? fun other =>
      other.publicToken = calendar.publicToken with
  | none =>
    have absent := List.find?_eq_none.mp found calendar opens.stored
    simp at absent
  | some other =>
    have same : other.publicToken = calendar.publicToken := by
      simpa using List.find?_some found
    rw [opens.unique other (List.mem_of_find?_eq_some found) same]

theorem OpensOnly.only (opens : records.OpensOnly calendar) :
    (records.only calendar.id).OpensOnly calendar := by
  constructor
  · simpa [Records.only] using opens.stored
  · intro other inside same
    exact opens.unique other (List.mem_of_mem_filter inside) same

theorem participantIn_only (participantId : String) :
    (records.only calendar.id).participantIn calendar participantId
      = records.participantIn calendar participantId := by
  unfold participantIn Records.only
  simp only [Table.get?_keep, Option.filter_filter, Bool.and_self]

theorem OpensOnly.locate_only (opens : records.OpensOnly calendar) (participantId : String) :
    (records.only calendar.id).locate calendar.publicToken participantId
      = records.locate calendar.publicToken participantId := by
  unfold locate
  rw [opens.only.calendarByToken, opens.calendarByToken, Except.ok_bind, Except.ok_bind,
    participantIn_only]

variable {participantId : String}

/-- Whoever is located by the token is a participant of the calendar. -/
theorem OpensOnly.located (opens : records.OpensOnly calendar) {found : Calendar}
    {participant : Participant}
    (located : records.locate calendar.publicToken participantId = .ok (found, participant)) :
    found = calendar ∧ (records.member? calendar.id participant.id).isSome := by
  obtain ⟨⟨stored, same⟩, inside, -, of⟩ := locate_eq_ok located
  cases opens.unique found stored same
  exact ⟨rfl, of ▸ isSome_member? inside⟩

theorem isSome_member?_of_mem {recurrence : Recurrence} {participant : Participant}
    (inside : recurrence ∈ records.recurrencesOf participant.id)
    (member : (records.member? calendarId participant.id).isSome) :
    (records.member? calendarId recurrence.participantId).isSome := by
  rw [(mem_recurrencesOf.mp inside).2]
  exact member

/-! ## Looking up -/

/-- Rows that are looked for and kept are found among those that are kept. -/
theorem filter_filter_of_passes {α : Type} {rows : List α} {passes wanted : α → Bool}
    (kept : ∀ row ∈ rows, wanted row → passes row) :
    (rows.filter passes).filter wanted = rows.filter wanted := by
  rw [List.filter_filter]
  apply List.filter_congr
  intro row inside
  cases found : wanted row with
  | false => simp
  | true => simp [kept row inside found]

theorem find?_filter_of_passes {α : Type} {rows : List α} {passes wanted : α → Bool}
    (kept : ∀ row ∈ rows, wanted row → passes row) :
    (rows.filter passes).find? wanted = rows.find? wanted := by
  rw [← List.head?_filter, ← List.head?_filter, filter_filter_of_passes kept]

theorem availabilityOn?_only (member : (records.member? calendarId participantId).isSome)
    (day : Date) :
    (records.only calendarId).availabilityOn? participantId day
      = records.availabilityOn? participantId day := by
  apply find?_filter_of_passes
  intro availability _ wanted
  simp only [Bool.and_eq_true, decide_eq_true_eq] at wanted
  rw [wanted.1]
  exact member

theorem hasAvailability_only (member : (records.member? calendarId participantId).isSome)
    (day : Date) :
    (records.only calendarId).hasAvailability participantId day
      = records.hasAvailability participantId day := by
  rw [hasAvailability, hasAvailability, availabilityOn?_only member]

theorem availabilitiesOf_only (member : (records.member? calendarId participantId).isSome)
    (start stop : Option Date) :
    (records.only calendarId).availabilitiesOf participantId start stop
      = records.availabilitiesOf participantId start stop := by
  unfold availabilitiesOf only
  rw [Table.rows_keep, filter_filter_of_passes]
  intro availability _ wanted
  simp only [Bool.and_eq_true, decide_eq_true_eq] at wanted
  rw [wanted.1.1]
  exact member

theorem recurrencesOf_only (member : (records.member? calendarId participantId).isSome) :
    (records.only calendarId).recurrencesOf participantId
      = records.recurrencesOf participantId := by
  unfold recurrencesOf only
  rw [Table.rows_keep, filter_filter_of_passes]
  intro recurrence _ wanted
  rw [of_decide_eq_true wanted]
  exact member

theorem recurrenceOf_only {participant : Participant}
    (member : (records.member? calendarId participant.id).isSome) (recurrenceId : String) :
    (records.only calendarId).recurrenceOf participant recurrenceId
      = records.recurrenceOf participant recurrenceId := by
  have same : ((records.only calendarId).recurrences.get? recurrenceId).filter
        (fun recurrence => recurrence.participantId = participant.id)
      = (records.recurrences.get? recurrenceId).filter
        fun recurrence => recurrence.participantId = participant.id := by
    rw [only, Table.get?_keep, Option.filter_filter]
    cases records.recurrences.get? recurrenceId with
    | none => rfl
    | some recurrence =>
      by_cases own : recurrence.participantId = participant.id
      · simp [Option.filter_some, own, member]
      · simp [Option.filter_some, own]
  rw [recurrenceOf, recurrenceOf, same]

theorem exclusionOn?_only {recurrenceId : String}
    (belongs : records.belongs calendarId recurrenceId) (day : Date) :
    (records.only calendarId).exclusionOn? recurrenceId day
      = records.exclusionOn? recurrenceId day := by
  apply find?_filter_of_passes
  intro exclusion _ wanted
  simp only [Bool.and_eq_true, decide_eq_true_eq] at wanted
  rw [wanted.1]
  exact belongs

theorem isExcluded_only {recurrenceId : String} (belongs : records.belongs calendarId recurrenceId)
    (day : Date) :
    (records.only calendarId).isExcluded recurrenceId day
      = records.isExcluded recurrenceId day := by
  rw [isExcluded, isExcluded, exclusionOn?_only belongs]

theorem exclusionsOf_only {recurrenceId : String}
    (belongs : records.belongs calendarId recurrenceId) :
    (records.only calendarId).exclusionsOf recurrenceId = records.exclusionsOf recurrenceId := by
  unfold exclusionsOf only
  rw [Table.rows_keep, filter_filter_of_passes]
  intro exclusion _ wanted
  rw [of_decide_eq_true wanted]
  exact belongs

theorem belongs_of_mem {recurrence : Recurrence} (inside : recurrence ∈ records.recurrences.rows)
    (member : (records.member? calendarId recurrence.participantId).isSome) :
    records.belongs calendarId recurrence.id :=
  List.any_eq_true.mpr ⟨recurrence, inside, by simp [member]⟩

/-! ## Dates -/

theorem enteredOn_only (day : Date) :
    (records.only calendarId).enteredOn calendarId day = records.enteredOn calendarId day := by
  unfold enteredOn
  simp only [member?_only]
  rw [only, Table.rows_keep, filter_filter_of_passes]
  intro availability _ wanted
  simp only [Bool.and_eq_true] at wanted
  exact wanted.2

theorem repeatedOn_only (day : Date) :
    (records.only calendarId).repeatedOn calendarId day = records.repeatedOn calendarId day := by
  have kept : (records.only calendarId).repeatedOn calendarId day
      = (records.only calendarId).recurrences.rows.filter fun recurrence =>
        (records.member? calendarId recurrence.participantId).isSome && recurrence.covers day
          && !records.isExcluded recurrence.id day
          && !records.hasAvailability recurrence.participantId day := by
    unfold repeatedOn
    apply List.filter_congr
    intro recurrence inside
    obtain ⟨stored, member⟩ := List.mem_filter.mp inside
    rw [member?_only, isExcluded_only (belongs_of_mem stored member), hasAvailability_only member]
  rw [kept, repeatedOn, only, Table.rows_keep, filter_filter_of_passes]
  intro recurrence _ wanted
  simp only [Bool.and_eq_true] at wanted
  exact wanted.1.1.1

theorem merged_only (day : Date) :
    (records.only calendarId).merged calendarId day = records.merged calendarId day := by
  unfold merged
  simp only [member?_only, enteredOn_only, repeatedOn_only]

theorem contributionsBetween_only (start stop : Date) :
    (records.only calendarId).contributionsBetween calendarId start stop
      = records.contributionsBetween calendarId start stop := by
  simp only [contributionsBetween_eq, merged_only]

theorem contributionsOn_only (day : Date) :
    (records.only calendarId).contributionsOn calendarId day
      = records.contributionsOn calendarId day := by
  rw [contributionsOn_eq_merged, contributionsOn_eq_merged, merged_only]

theorem checkSpan_only (start stop : Date) :
    (records.only calendarId).checkSpan calendarId start stop
      = records.checkSpan calendarId start stop := by
  have within : (records.only calendarId).availabilitiesWithin (records.participantsOf calendarId)
        start stop
      = records.availabilitiesWithin (records.participantsOf calendarId) start stop := by
    unfold availabilitiesWithin only
    rw [Table.rows_keep, filter_filter_of_passes]
    intro availability _ wanted
    simp only [any_participantsOf, Bool.and_eq_true] at wanted
    exact wanted.1.1
  have overruns : ((records.only calendarId).recurrences.rows.any fun recurrence =>
        (records.participantsOf calendarId).any
            (fun participant => participant.id = recurrence.participantId)
          && recurrence.overruns start stop)
      = records.recurrences.rows.any fun recurrence =>
        (records.participantsOf calendarId).any
            (fun participant => participant.id = recurrence.participantId)
          && recurrence.overruns start stop := by
    unfold only
    simp only [any_participantsOf, Table.rows_keep, List.any_filter, ← Bool.and_assoc,
      Bool.and_self]
  unfold checkSpan
  simp only [participantsOf_only, within, overruns]

/-! ## Changing -/

theorem belongs_iff {recurrenceId : String} :
    records.belongs calendarId recurrenceId
      ↔ ∃ recurrence ∈ records.recurrences.rows, recurrence.id = recurrenceId
        ∧ (records.member? calendarId recurrence.participantId).isSome := by
  simp [belongs]

/-- An availability of a member, in the place of another of a member if of any. -/
theorem only_putAvailability {availability : Availability}
    (member : (records.member? calendarId availability.participantId).isSome)
    (replaced : ∀ other ∈ records.availabilities.rows, other.id = availability.id →
      other.participantId = availability.participantId) :
    only { records with availabilities := records.availabilities.put availability } calendarId
      = { records.only calendarId with
        availabilities := (records.only calendarId).availabilities.put availability } := by
  have kept : (records.availabilities.put availability).keep
        (fun other => (records.member? calendarId other.participantId).isSome)
      = (records.only calendarId).availabilities.put availability := by
    refine Table.keep_put member ?_
    intro other inside same
    rw [replaced other inside same]
    exact member
  exact congrArg (fun rows => { records.only calendarId with availabilities := rows }) kept

theorem only_eraseAvailability (availabilityId : String) :
    only { records with availabilities := records.availabilities.erase availabilityId } calendarId
      = { records.only calendarId with
        availabilities := (records.only calendarId).availabilities.erase availabilityId } :=
  congrArg (fun rows => { records.only calendarId with availabilities := rows })
    (Table.keep_erase availabilityId)

/-- A recurrence of a member makes its id one of the calendar. -/
theorem belongs_putRecurrence {recurrence : Recurrence}
    (member : (records.member? calendarId recurrence.participantId).isSome)
    (recurrenceId : String) :
    belongs { records with recurrences := records.recurrences.put recurrence } calendarId
        recurrenceId
      ↔ recurrence.id = recurrenceId ∨ records.belongs calendarId recurrenceId := by
  simp only [belongs_iff]
  constructor
  · rintro ⟨other, inside, same, known⟩
    rcases Table.mem_put.mp inside with rfl | ⟨stored, -⟩
    · exact .inl same
    · exact .inr ⟨other, stored, same, known⟩
  · rintro (same | ⟨other, stored, same, known⟩)
    · exact ⟨recurrence, Table.mem_put.mpr (.inl rfl), same, member⟩
    · by_cases replaced : other.id = recurrence.id
      · exact ⟨recurrence, Table.mem_put.mpr (.inl rfl), replaced.symm.trans same, member⟩
      · exact ⟨other, Table.mem_put.mpr (.inr ⟨stored, replaced⟩), same, known⟩

/-- A recurrence of a member, in the place of another of a member if of any.  No exclusion comes
to the calendar by it. -/
theorem only_putRecurrence {recurrence : Recurrence}
    (member : (records.member? calendarId recurrence.participantId).isSome)
    (replaced : ∀ other ∈ records.recurrences.rows, other.id = recurrence.id →
      other.participantId = recurrence.participantId)
    (settled : ∀ exclusion ∈ records.exclusions.rows, exclusion.recurrenceId = recurrence.id →
      records.belongs calendarId recurrence.id) :
    only { records with recurrences := records.recurrences.put recurrence } calendarId
      = { records.only calendarId with
        recurrences := (records.only calendarId).recurrences.put recurrence } := by
  have kept : (records.recurrences.put recurrence).keep
        (fun other => (records.member? calendarId other.participantId).isSome)
      = (records.only calendarId).recurrences.put recurrence := by
    refine Table.keep_put member ?_
    intro other inside same
    rw [replaced other inside same]
    exact member
  have excluded : records.exclusions.keep (fun exclusion =>
        belongs { records with recurrences := records.recurrences.put recurrence } calendarId
          exclusion.recurrenceId)
      = (records.only calendarId).exclusions := by
    refine Table.keep_congr fun exclusion inside => ?_
    rw [Bool.eq_iff_iff, belongs_putRecurrence member]
    constructor
    · rintro (same | known)
      · exact same ▸ settled exclusion inside same.symm
      · exact known
    · exact .inr
  exact congrArg₂
    (fun rows rows' => { records.only calendarId with recurrences := rows, exclusions := rows' })
    kept excluded

theorem belongs_removeRecurrence {removed recurrenceId : String} (other : recurrenceId ≠ removed) :
    (records.removeRecurrence removed).belongs calendarId recurrenceId
      = records.belongs calendarId recurrenceId := by
  rw [Bool.eq_iff_iff, belongs_iff, belongs_iff]
  simp only [removeRecurrence, Table.mem_erase]
  constructor
  · rintro ⟨recurrence, ⟨stored, -⟩, same, known⟩
    exact ⟨recurrence, stored, same, known⟩
  · rintro ⟨recurrence, stored, rfl, known⟩
    exact ⟨recurrence, ⟨stored, other⟩, rfl, known⟩

theorem only_removeRecurrence (recurrenceId : String) :
    (records.removeRecurrence recurrenceId).only calendarId
      = (records.only calendarId).removeRecurrence recurrenceId := by
  have excluded : ((records.exclusions.keep fun exclusion =>
        exclusion.recurrenceId ≠ recurrenceId).keep fun exclusion =>
          (records.removeRecurrence recurrenceId).belongs calendarId exclusion.recurrenceId)
      = (records.only calendarId).exclusions.keep fun exclusion =>
          exclusion.recurrenceId ≠ recurrenceId := by
    rw [only, Table.keep_keep]
    apply Table.ext
    simp only [Table.rows_keep, List.filter_filter]
    refine List.filter_congr fun exclusion _ => ?_
    by_cases same : exclusion.recurrenceId = recurrenceId
    · simp [same]
    · simp [same, belongs_removeRecurrence same]
  exact congrArg₂
    (fun rows rows' => { records.only calendarId with recurrences := rows, exclusions := rows' })
    (Table.keep_erase recurrenceId) excluded

/-- An exclusion from a recurrence of a member, in the place of another such if of any. -/
theorem only_putExclusion {exclusion : Exclusion}
    (belongs : records.belongs calendarId exclusion.recurrenceId)
    (replaced : ∀ other ∈ records.exclusions.rows, other.id = exclusion.id →
      other.recurrenceId = exclusion.recurrenceId) :
    only { records with exclusions := records.exclusions.put exclusion } calendarId
      = { records.only calendarId with
        exclusions := (records.only calendarId).exclusions.put exclusion } := by
  have kept : (records.exclusions.put exclusion).keep
        (fun other => records.belongs calendarId other.recurrenceId)
      = (records.only calendarId).exclusions.put exclusion := by
    refine Table.keep_put belongs ?_
    intro other inside same
    rw [replaced other inside same]
    exact belongs
  exact congrArg (fun rows => { records.only calendarId with exclusions := rows }) kept

theorem only_removeExclusion {recurrenceId : String}
    (belongs : records.belongs calendarId recurrenceId) (day : Date) :
    (records.removeExclusion recurrenceId day).only calendarId
      = (records.only calendarId).removeExclusion recurrenceId day := by
  rw [removeExclusion, removeExclusion, exclusionOn?_only belongs]
  cases records.exclusionOn? recurrenceId day with
  | none => rfl
  | some present =>
    exact congrArg (fun rows => { records.only calendarId with exclusions := rows })
      (Table.keep_erase present.id)

end Records

end Rendezvous
