import Rendezvous.Proofs.Course
import Rendezvous.Proofs.Uniqueness

/-!
# What a date of a calendar depends on

A date shows the names of the participants of its calendar, what they entered for that
date, and their recurrences.  A change elsewhere leaves it as it is.
-/

namespace Rendezvous.Records

variable {records records' : Records} {calendarId : String} {day : Date}

/-- Two states of the records that do not differ in what a date of a calendar depends on. -/
structure Alike (a b : Records) (calendarId : String) (day : Date) : Prop where
  names : ∀ participantId, (a.member? calendarId participantId).map Participant.name
    = (b.member? calendarId participantId).map Participant.name
  entered : a.enteredOn calendarId day = b.enteredOn calendarId day
  recurrences : a.recurrences = b.recurrences
  exclusions : a.exclusions = b.exclusions

namespace Alike

theorem isSome_member? (alike : records.Alike records' calendarId day) (participantId : String) :
    (records.member? calendarId participantId).isSome
      = (records'.member? calendarId participantId).isSome := by
  rw [← Option.isSome_map, alike.names participantId, Option.isSome_map]

end Alike

/-- What is made of a participant's id and name needs no more than the name. -/
theorem Alike.map_member? {α : Type} (alike : records.Alike records' calendarId day)
    (participantId : String) {f : Participant → α} (g : String → String → α)
    (made : ∀ participant, f participant = g participant.id participant.name) :
    (records.member? calendarId participantId).map f
      = (records'.member? calendarId participantId).map f := by
  have named (source : Records) : (source.member? calendarId participantId).map f
      = ((source.member? calendarId participantId).map Participant.name).map
        (g participantId) := by
    cases found : source.member? calendarId participantId with
    | none => rfl
    | some participant => simp [made, id_of_member? found]
  rw [named, named, alike.names]

theorem hasAvailability_iff {participantId : String}
    (member : (records.member? calendarId participantId).isSome) :
    records.hasAvailability participantId day
      ↔ ∃ availability ∈ records.enteredOn calendarId day,
        availability.participantId = participantId := by
  constructor
  · intro stored
    obtain ⟨availability, found⟩ := Option.isSome_iff_exists.mp stored
    obtain ⟨inside, own, here⟩ := mem_of_availabilityOn? found
    exact ⟨availability, mem_enteredOn.mpr ⟨inside, here, own ▸ member⟩, own⟩
  · rintro ⟨availability, inside, own⟩
    obtain ⟨stored, here, -⟩ := mem_enteredOn.mp inside
    by_contra absent
    rw [hasAvailability, Option.not_isSome_iff_eq_none] at absent
    exact availabilityOn?_eq_none_iff.mp absent availability stored own here

theorem Alike.repeatedOn_eq (alike : records.Alike records' calendarId day) :
    records.repeatedOn calendarId day = records'.repeatedOn calendarId day := by
  rw [repeatedOn, repeatedOn, alike.recurrences]
  refine List.filter_congr fun recurrence _ => ?_
  have excluded : records.isExcluded recurrence.id day = records'.isExcluded recurrence.id day := by
    rw [isExcluded, isExcluded, exclusionOn?, exclusionOn?, alike.exclusions]
  rw [excluded, ← alike.isSome_member?]
  cases member : (records.member? calendarId recurrence.participantId).isSome with
  | false => rfl
  | true =>
    have member' := alike.isSome_member? recurrence.participantId ▸ member
    have stored : records.hasAvailability recurrence.participantId day
        = records'.hasAvailability recurrence.participantId day := by
      rw [Bool.eq_iff_iff, hasAvailability_iff member, hasAvailability_iff member',
        alike.entered]
    rw [stored]

theorem Alike.merged_eq (alike : records.Alike records' calendarId day) :
    records.merged calendarId day = records'.merged calendarId day := by
  rw [merged, merged, alike.entered, alike.repeatedOn_eq]
  congr 1
  · refine List.filterMap_congr fun availability _ => ?_
    exact alike.map_member? _
      (fun id name => ⟨some id, name, availability.slot, availability.note⟩) fun _ => rfl
  · refine List.filterMap_congr fun recurrence _ => ?_
    exact alike.map_member? _
      (fun id name => ⟨some id, name, recurrence.slot, recurrence.note⟩) fun _ => rfl

/-- Where nothing differs that a date depends on, as many are counted on it. -/
theorem Alike.simultaneous_eq (alike : records.Alike records' calendarId day) :
    records.simultaneous calendarId day = records'.simultaneous calendarId day := by
  rw [simultaneous, simultaneous, contributionsOn_eq_merged, contributionsOn_eq_merged,
    alike.merged_eq]

/-- A stored participant belongs to the one calendar that knows them. -/
theorem calendarId_of_isSome_member? {participant : Participant}
    (stored : participant ∈ records.participants.rows)
    (joined : (records.member? calendarId participant.id).isSome) :
    participant.calendarId = calendarId := by
  obtain ⟨other, found⟩ := Option.isSome_iff_exists.mp joined
  obtain ⟨among, own⟩ := mem_of_member? found
  have one : other = participant := Table.eq_of_key among stored (id_of_member? found)
  exact one ▸ own

/-! ## Changes elsewhere -/

/-- An edit writes availabilities only. -/
theorem Edit.frame {now : Instant} {participantId : String} {day : Date}
    (edit : records.Edit now participantId day records') :
    records'.member? = records.member? ∧ records'.recurrences = records.recurrences
      ∧ records'.exclusions = records.exclusions := by
  cases edit <;> exact ⟨rfl, rfl, rfl⟩

/-- A view that shows nothing of a participant on a day does not change with an edit of it. -/
theorem Edit.filter_rows {now : Instant} {participantId : String} {day : Date}
    (edit : records.Edit now participantId day records') {shows : Availability → Bool}
    (hidden : ∀ availability : Availability, availability.participantId = participantId →
      availability.day = day → shows availability = false) :
    records'.availabilities.rows.filter shows = records.availabilities.rows.filter shows := by
  cases edit with
  | enter availability own on made absent fresh =>
    apply Table.filter_place (hidden availability own on)
    intro other inside same
    exact absurd same (fresh other inside)
  | revise present revised found sameId sameParticipant sameDay sameMade =>
    obtain ⟨inside, own, on⟩ := mem_of_availabilityOn? found
    apply Table.filter_place
    · exact hidden revised (sameParticipant.trans own) (sameDay.trans on)
    · intro other among same
      rw [Table.eq_of_key among inside (same.trans sameId)]
      exact hidden present own on
  | withdraw present found =>
    obtain ⟨inside, own, on⟩ := mem_of_availabilityOn? found
    apply Table.filter_erase
    intro other among same
    rw [Table.eq_of_key among inside same]
    exact hidden present own on

/-- What is stored for anybody else, or on another day, does not change with an edit. -/
theorem Edit.availabilityOn?_of_ne {now : Instant} {participantId other : String}
    {day' : Date} (edit : records.Edit now participantId day records')
    (elsewhere : other = participantId → day' ≠ day) :
    records'.availabilityOn? other day' = records.availabilityOn? other day' := by
  unfold availabilityOn?
  rw [← List.head?_filter, ← List.head?_filter, edit.filter_rows]
  intro availability own on
  by_cases same : other = participantId
  · simp [on, Ne.symm (elsewhere same)]
  · simp [own, Ne.symm same]

/-- An edit of another date, or by somebody of another calendar, leaves a date as it is. -/
theorem Edit.alike {now : Instant} {participantId : String} {day' : Date}
    (edit : records.Edit now participantId day' records')
    (elsewhere : (records.member? calendarId participantId).isSome → day' ≠ day) :
    records.Alike records' calendarId day := by
  have hidden : ∀ availability : Availability, availability.participantId = participantId →
      availability.day = day' → (decide (availability.day = day)
        && (records.member? calendarId availability.participantId).isSome) = false := by
    intro availability own on
    cases member : (records.member? calendarId availability.participantId).isSome with
    | false => simp
    | true => simpa [on] using elsewhere (own ▸ member)
  obtain ⟨members, recurrences, exclusions⟩ := edit.frame
  refine ⟨fun _ => by rw [members], ?_, recurrences.symm, exclusions.symm⟩
  rw [enteredOn, enteredOn, members, edit.filter_rows hidden]

/-- Somebody who keeps name and calendar leaves every date as it is. -/
theorem alike_putParticipant {present updated : Participant}
    (stored : present ∈ records.participants.rows) (alike : updated.Alike present)
    (calendarId : String) (day : Date) :
    records.Alike { records with participants := records.participants.put updated }
      calendarId day := by
  have names : ∀ participantId, (records.member? calendarId participantId).map Participant.name
      = (member? { records with participants := records.participants.put updated } calendarId
        participantId).map Participant.name := by
    intro participantId
    rw [member?, member?, participantsOf, participantsOf, List.find?_filter, List.find?_filter]
    refine (Table.find?_place ⟨present, stored, alike.id.symm⟩ ?_).symm
    intro other inside same
    have one : other = present := Table.eq_of_key inside stored (same.trans alike.id)
    rw [one, alike.id, alike.calendarId, alike.name]
    exact ⟨rfl, rfl⟩
  refine ⟨names, ?_, rfl, rfl⟩
  rw [enteredOn, enteredOn]
  congr 1
  refine List.filter_congr fun availability _ => ?_
  rw [← Option.isSome_map, names, Option.isSome_map]

end Rendezvous.Records
