import Rendezvous.Proofs.Escapes
import Rendezvous.Proofs.Uniqueness

/-!
# What a participant has

Availabilities, recurrences and the days excluded from them belong to a participant.  A request
names the participant it is for, and nobody else's rows change by it; where the participant or the
recurrence that it names is not there, or is somebody else's, it is refused and nothing changes.
-/

namespace Rendezvous

namespace Operation

/-- The participant whom an operation on availabilities or recurrences is for. -/
def participant? : Operation → Option String
  | .createAvailability _ participantId .. => some participantId
  | .updateAvailability _ participantId .. => some participantId
  | .deleteAvailability _ participantId .. => some participantId
  | .listAvailabilities _ participantId .. => some participantId
  | .createRecurrence _ participantId .. => some participantId
  | .updateRecurrence _ participantId .. => some participantId
  | .deleteRecurrence _ participantId .. => some participantId
  | .listRecurrences _ participantId .. => some participantId
  | .createExclusion _ participantId .. => some participantId
  | .deleteExclusion _ participantId .. => some participantId
  | _ => none

/-- The recurrence that an operation changes, or excludes a day from. -/
def recurrence? : Operation → Option String
  | .updateRecurrence _ _ recurrenceId .. => some recurrenceId
  | .deleteRecurrence _ _ recurrenceId .. => some recurrenceId
  | .createExclusion _ _ recurrenceId .. => some recurrenceId
  | .deleteExclusion _ _ recurrenceId .. => some recurrenceId
  | _ => none

end Operation

/-- The rows of a participant. -/
structure Holdings where
  availabilities : List Availability
  recurrences : List Recurrence
  exclusions : List Exclusion
deriving DecidableEq

namespace Records

def holdings (records : Records) (participantId : String) : Holdings :=
  let recurrences := records.recurrences.rows.filter fun recurrence =>
    recurrence.participantId = participantId
  { availabilities := records.availabilities.rows.filter fun availability =>
      availability.participantId = participantId
    recurrences := recurrences
    exclusions := records.exclusions.rows.filter fun exclusion =>
      recurrences.any fun recurrence => recurrence.id = exclusion.recurrenceId }

/-- Records in which a participant has the same, and in which calendars and people are the
same. -/
structure Spares (records after : Records) (participantId : String) : Prop where
  calendars : after.calendars = records.calendars
  users : after.users = records.users
  participants : after.participants = records.participants
  holdings : after.holdings participantId = records.holdings participantId

/-- Every exclusion is from a stored recurrence. -/
def Linked (records : Records) : Prop :=
  ∀ exclusion ∈ records.exclusions.rows,
    ∃ recurrence ∈ records.recurrences.rows, recurrence.id = exclusion.recurrenceId

variable {records : Records} {participantId : String}

theorem Spares.refl : records.Spares records participantId :=
  ⟨rfl, rfl, rfl, rfl⟩

theorem Rearrangement.linked {after : Records} (rearrangement : records.Rearrangement after)
    (linked : records.Linked) : after.Linked := by
  cases rearrangement with
  | enter recurrence ordered fresh apart =>
    intro exclusion inside
    obtain ⟨of, stored, same⟩ := linked exclusion inside
    exact ⟨of, Table.mem_put.mpr (.inr ⟨stored, fresh of stored⟩), same⟩
  | revise present revised inside sameId sameParticipant ordered apart =>
    intro exclusion among
    obtain ⟨of, stored, same⟩ := linked exclusion among
    by_cases here : of.id = revised.id
    · exact ⟨revised, Table.mem_put.mpr (.inl rfl), here ▸ same⟩
    · exact ⟨of, Table.mem_put.mpr (.inr ⟨stored, here⟩), same⟩
  | withdraw recurrence inside =>
    intro exclusion among
    obtain ⟨kept, other⟩ := List.mem_filter.mp among
    obtain ⟨of, stored, same⟩ := linked exclusion kept
    have other' : of.id ≠ recurrence.id := by
      rw [same]
      simpa using other
    exact ⟨of, Table.mem_erase.mpr ⟨stored, other'⟩, same⟩
  | exclude exclusion known absent fresh =>
    intro other inside
    rcases Table.mem_put.mp inside with rfl | ⟨stored, -⟩
    · exact known
    · exact linked other stored
  | restore recurrenceId day =>
    unfold removeExclusion
    split
    · intro other inside
      exact linked other (Table.mem_erase.mp inside).1
    · exact linked

/-! ## Rows of somebody else -/

theorem spares_putAvailability {availability : Availability}
    (foreign : availability.participantId ≠ participantId)
    (replaced : ∀ other ∈ records.availabilities.rows, other.id = availability.id →
      other.participantId = availability.participantId) :
    records.Spares { records with availabilities := records.availabilities.put availability }
      participantId := by
  refine ⟨rfl, rfl, rfl, ?_⟩
  have kept : (records.availabilities.put availability).rows.filter
        (fun other => other.participantId = participantId)
      = records.availabilities.rows.filter fun other => other.participantId = participantId := by
    apply Table.filter_place
    · simpa using foreign
    · intro other inside same
      simpa [replaced other inside same] using foreign
  unfold holdings
  simp only [kept]

theorem spares_eraseAvailability {present : Availability}
    (inside : present ∈ records.availabilities.rows)
    (foreign : present.participantId ≠ participantId) :
    records.Spares { records with availabilities := records.availabilities.erase present.id }
      participantId := by
  refine ⟨rfl, rfl, rfl, ?_⟩
  have kept : (records.availabilities.erase present.id).rows.filter
        (fun other => other.participantId = participantId)
      = records.availabilities.rows.filter fun other => other.participantId = participantId := by
    apply Table.filter_erase
    intro other inside' same
    rw [Table.eq_of_key inside' inside same]
    simpa using foreign
  unfold holdings
  simp only [kept]

theorem spares_putRecurrence {recurrence : Recurrence}
    (foreign : recurrence.participantId ≠ participantId)
    (replaced : ∀ other ∈ records.recurrences.rows, other.id = recurrence.id →
      other.participantId = recurrence.participantId) :
    records.Spares { records with recurrences := records.recurrences.put recurrence }
      participantId := by
  refine ⟨rfl, rfl, rfl, ?_⟩
  have kept : (records.recurrences.put recurrence).rows.filter
        (fun other => other.participantId = participantId)
      = records.recurrences.rows.filter fun other => other.participantId = participantId := by
    apply Table.filter_place
    · simpa using foreign
    · intro other inside same
      simpa [replaced other inside same] using foreign
  unfold holdings
  simp only [kept]

/-- The recurrences that an exclusion is looked for among are not those of somebody else. -/
theorem not_any_of_foreign {recurrence : Recurrence}
    (inside : recurrence ∈ records.recurrences.rows)
    (foreign : recurrence.participantId ≠ participantId) {recurrenceId : String}
    (same : recurrenceId = recurrence.id) :
    ((records.recurrences.rows.filter fun other => other.participantId = participantId).any
      fun other => other.id = recurrenceId) = false := by
  subst same
  simp only [List.any_filter, List.any_eq_false, Bool.and_eq_true, decide_eq_true_eq]
  rintro other inside' ⟨own, same⟩
  exact foreign (Table.eq_of_key inside' inside same ▸ own)

theorem spares_removeRecurrence {present : Recurrence}
    (inside : present ∈ records.recurrences.rows)
    (foreign : present.participantId ≠ participantId) :
    records.Spares (records.removeRecurrence present.id) participantId := by
  refine ⟨rfl, rfl, rfl, ?_⟩
  have kept : (records.recurrences.erase present.id).rows.filter
        (fun other => other.participantId = participantId)
      = records.recurrences.rows.filter fun other => other.participantId = participantId := by
    apply Table.filter_erase
    intro other inside' same
    rw [Table.eq_of_key inside' inside same]
    simpa using foreign
  unfold holdings removeRecurrence
  simp only [kept, Table.rows_keep, List.filter_filter, Holdings.mk.injEq, true_and]
  refine List.filter_congr fun exclusion _ => ?_
  by_cases same : exclusion.recurrenceId = present.id
  · simp [not_any_of_foreign inside foreign same]
  · simp [same]

theorem spares_putExclusion {exclusion : Exclusion} {recurrence : Recurrence}
    (inside : recurrence ∈ records.recurrences.rows)
    (foreign : recurrence.participantId ≠ participantId)
    (of : exclusion.recurrenceId = recurrence.id)
    (fresh : ∀ other ∈ records.exclusions.rows, other.id ≠ exclusion.id) :
    records.Spares { records with exclusions := records.exclusions.put exclusion }
      participantId := by
  refine ⟨rfl, rfl, rfl, ?_⟩
  unfold holdings
  simp only [Holdings.mk.injEq, true_and]
  apply Table.filter_place
  · exact not_any_of_foreign inside foreign of
  · intro other among same
    exact absurd same (fresh other among)

theorem spares_removeExclusion {recurrence : Recurrence}
    (inside : recurrence ∈ records.recurrences.rows)
    (foreign : recurrence.participantId ≠ participantId) (day : Date) :
    records.Spares (records.removeExclusion recurrence.id day) participantId := by
  unfold removeExclusion
  split
  next present found =>
    refine ⟨rfl, rfl, rfl, ?_⟩
    obtain ⟨stored, of, -⟩ : present ∈ records.exclusions.rows
        ∧ present.recurrenceId = recurrence.id ∧ present.day = day :=
      ⟨List.mem_of_find?_eq_some found, by simpa using List.find?_some found⟩
    unfold holdings
    simp only [Holdings.mk.injEq, true_and]
    apply Table.filter_erase
    intro other inside' same
    rw [Table.eq_of_key inside' stored same]
    exact not_any_of_foreign inside foreign of
  next => exact .refl

end Records

namespace Board

variable {surroundings : Surroundings} {board : Board} {operation : Operation}
  {token participantId : String}

/-- An operation that a calendar's token allows changes nothing of a participant it is not for, or
who is not a participant of the calendar. -/
theorem spares_perform (addressed : operation.token? = some token) {other : String}
    (foreign : ∀ located, operation.participant? = some other →
      board.records.locate token other ≠ .ok located) :
    board.records.Spares (board.perform surroundings operation).board.records other := by
  -- whoever the operation finds is somebody else
  have named {calendar : Calendar} {participant : Participant} {id : String}
      (asks : operation.participant? = some id)
      (located : board.records.locate token id = .ok (calendar, participant)) :
      participant.id ≠ other := by
    rintro rfl
    obtain ⟨-, -, rfl, -⟩ := Records.locate_eq_ok located
    exact foreign _ asks located
  cases perform_change surroundings board operation with
  | nothing tokens outages more fewer reaches =>
    rw [reaches.board]
    exact .refl
  | enter number asked decided absent next publishes =>
    subst asked
    cases addressed
    rw [publishes.records]
    refine Records.spares_putAvailability (named rfl (book_eq_ok decided).1) ?_
    intro other' inside same
    exact absurd (next ▸ same) (Fresh.ne_name_next _ _ _ other' inside)
  | revise asked decided publishes =>
    subst asked
    cases addressed
    obtain ⟨present, _, _, _, _, known, -, -, -, -, rfl⟩ := revise_eq_ok decided
    obtain ⟨located, -, found⟩ := present_eq_ok known
    obtain ⟨inside, own, -⟩ := Records.mem_of_availabilityOn? found
    rw [publishes.records]
    refine Records.spares_putAvailability (own ▸ named rfl located) ?_
    intro other' inside' same
    rw [Table.eq_of_key inside' inside same]
  | withdraw asked decided publishes =>
    subst asked
    cases addressed
    obtain ⟨located, -, found⟩ := present_eq_ok decided
    obtain ⟨inside, own, -⟩ := Records.mem_of_availabilityOn? found
    rw [publishes.records]
    exact Records.spares_eraseAvailability inside (own ▸ named rfl located)
  | agree number asked located decided next reaches =>
    subst asked
    cases addressed
    rw [reaches.board]
    refine Records.spares_putRecurrence (named rfl located) ?_
    intro other' inside same
    exact absurd (next ▸ same) (board.ne_nextRecurrenceId.1 other' inside)
  | amend asked owned decided reaches =>
    subst asked
    cases addressed
    obtain ⟨located, inside, -, own⟩ := owned_eq_ok owned
    rw [reaches.board]
    refine Records.spares_putRecurrence (own ▸ named rfl located) ?_
    intro other' inside' same
    rw [Table.eq_of_key inside' inside same]
    rfl
  | drop asked owned reaches =>
    subst asked
    cases addressed
    obtain ⟨located, inside, -, own⟩ := owned_eq_ok owned
    rw [reaches.board]
    exact Records.spares_removeRecurrence inside (own ▸ named rfl located)
  | exclude number asked decided absent next reaches =>
    subst asked
    cases addressed
    obtain ⟨⟨calendar, participant, owned⟩, -⟩ := excludable_eq_ok decided
    obtain ⟨located, inside, -, own⟩ := owned_eq_ok owned
    rw [reaches.board]
    refine Records.spares_putExclusion inside (own ▸ named rfl located) rfl ?_
    intro other' among
    exact next ▸ Fresh.ne_name_next _ _ _ other' among
  | restore asked decided reaches =>
    subst asked
    cases addressed
    obtain ⟨⟨calendar, participant, owned⟩, -⟩ := excludable_eq_ok decided
    obtain ⟨located, inside, -, own⟩ := owned_eq_ok owned
    rw [reaches.board]
    exact Records.spares_removeExclusion inside (own ▸ named rfl located) _
  | request asked stored lasts publishes => cases asked <;> cases addressed
  | confirm asked found unverified timely reaches => cases asked; cases addressed
  | check asked events follows => cases asked; cases addressed
  | clean asked retained reaches => cases asked; cases addressed
  | advance asked moved reaches => cases asked; cases addressed

theorem linked_perform (surroundings : Surroundings) (operation : Operation)
    (linked : board.records.Linked) :
    (board.perform surroundings operation).board.records.Linked := by
  rcases rearrangement_of_perform surroundings board operation with ⟨same, same'⟩ | rearranged
  · unfold Records.Linked
    rw [same, same']
    exact linked
  · exact rearranged.linked linked

/-- Along any run exclusions stay with their recurrences. -/
theorem linked_after (run : List (Surroundings × Operation)) (linked : board.records.Linked) :
    (board.after run).records.Linked := by
  induction run generalizing board with
  | nil => exact linked
  | cons entry rest ih => exact ih (linked_perform entry.1 entry.2 linked)

/-! ## Who or what is not there -/

/-- Where the calendar or the participant is not found, that is the answer. -/
theorem perform_of_not_located {failure : Failure} (addressed : operation.token? = some token)
    (asks : operation.participant? = some participantId)
    (absent : board.records.locate token participantId = .error failure) :
    board.perform surroundings operation = .fail board failure := by
  cases operation <;> cases addressed <;> cases asks
  case createAvailability => simp only [perform, createAvailability, book, absent]; rfl
  case updateAvailability => simp only [perform, updateAvailability, revise, present, absent]; rfl
  case deleteAvailability => simp only [perform, deleteAvailability, present, absent]; rfl
  case listAvailabilities => simp only [perform, schedule, absent]; rfl
  case createRecurrence => simp only [perform, createRecurrence, absent]; rfl
  case updateRecurrence => simp only [perform, updateRecurrence, owned, absent]; rfl
  case deleteRecurrence => simp only [perform, deleteRecurrence, owned, absent]; rfl
  case listRecurrences => simp only [perform, listRecurrences, absent]; rfl
  case createExclusion => simp only [perform, createExclusion, excludable, owned, absent]; rfl
  case deleteExclusion => simp only [perform, deleteExclusion, excludable, owned, absent]; rfl

/-- Where the participant has no such recurrence, that is the answer. -/
theorem perform_of_not_owned {failure : Failure} {recurrenceId : String}
    (addressed : operation.token? = some token)
    (asks : operation.participant? = some participantId)
    (about : operation.recurrence? = some recurrenceId)
    (absent : board.owned token participantId recurrenceId = .error failure) :
    board.perform surroundings operation = .fail board failure := by
  cases operation <;> cases addressed <;> cases asks <;> cases about
  case updateRecurrence => simp only [perform, updateRecurrence, absent]; rfl
  case deleteRecurrence => simp only [perform, deleteRecurrence, absent]; rfl
  case createExclusion => simp only [perform, createExclusion, excludable, absent]; rfl
  case deleteExclusion => simp only [perform, deleteExclusion, excludable, absent]; rfl

end Board

end Rendezvous
