import Mathlib.Logic.Equiv.Basic
import Rendezvous.Board.Operation
import Rendezvous.Proofs.Excerpts

/-!
# Generated ids

Which id a row is given when it is made depends on all rows of its table.  Answers and records
that differ in nothing else are the same under other names, and a row that is made goes by one
name or another without a trace in the rows that were there before.
-/

namespace Rendezvous

/-! ## Other names -/

/-- Other ids for the rows whose ids are generated.  Ids that a row refers to stay, as no
operation refers to an id that it generates. -/
structure Renaming where
  availability : Equiv.Perm String
  recurrence : Equiv.Perm String
  exclusion : Equiv.Perm String

variable (names : Renaming)

def Availability.renamed (availability : Availability) : Availability :=
  { availability with id := names.availability availability.id }

def Recurrence.renamed (recurrence : Recurrence) : Recurrence :=
  { recurrence with id := names.recurrence recurrence.id }

def Exclusion.renamed (exclusion : Exclusion) : Exclusion :=
  { exclusion with id := names.exclusion exclusion.id }

def Receipt.renamed (receipt : Receipt) : Receipt :=
  { receipt with id := names.availability receipt.id }

def ScheduleEntry.renamed (entry : ScheduleEntry) : ScheduleEntry :=
  { entry with id := names.availability entry.id }

def Schedule.renamed (schedule : Schedule) : Schedule :=
  { schedule with entries := schedule.entries.map (ScheduleEntry.renamed names) }

def RecurrenceListing.renamed (listing : RecurrenceListing) : RecurrenceListing :=
  ⟨listing.recurrence.renamed names, listing.exclusions.map (Exclusion.renamed names)⟩

/-- An answer with other ids; summaries tell none that are generated. -/
def Answer.renamed : Answer → Answer
  | .receipt told => .receipt (told.renamed names)
  | .schedule told => .schedule (told.renamed names)
  | .recurrence told => .recurrence (told.renamed names)
  | .recurrences listings => .recurrences (listings.map (RecurrenceListing.renamed names))
  | .exclusion told => .exclusion (told.renamed names)
  | answer => answer

/-- Records that differ in generated ids at most. -/
structure Records.Renamed (records other : Records) : Prop where
  calendars : other.calendars = records.calendars
  users : other.users = records.users
  participants : other.participants = records.participants
  availabilities :
    other.availabilities.rows = records.availabilities.rows.map (Availability.renamed names)
  recurrences : other.recurrences.rows = records.recurrences.rows.map (Recurrence.renamed names)
  exclusions : other.exclusions.rows = records.exclusions.rows.map (Exclusion.renamed names)

namespace Renaming

/-- A renaming under which every row keeps its id. -/
structure Keeps (records : Records) : Prop where
  availability : ∀ availability ∈ records.availabilities.rows,
    names.availability availability.id = availability.id
  recurrence : ∀ recurrence ∈ records.recurrences.rows,
    names.recurrence recurrence.id = recurrence.id
  exclusion : ∀ exclusion ∈ records.exclusions.rows,
    names.exclusion exclusion.id = exclusion.id

def refl : Renaming := ⟨.refl String, .refl String, .refl String⟩

theorem answer_renamed_refl : Answer.renamed refl = id := by
  have exclusion : Exclusion.renamed refl = id := rfl
  have listing : RecurrenceListing.renamed refl = id := by
    funext listing
    simp [RecurrenceListing.renamed, exclusion]
    rfl
  have schedule : Schedule.renamed refl = id := by
    funext schedule
    have entry : ScheduleEntry.renamed refl = id := rfl
    simp [Schedule.renamed, entry]
  funext answer
  cases answer <;> simp [Answer.renamed, listing, schedule] <;> rfl

theorem keeps_refl (records : Records) : refl.Keeps records := by
  constructor <;> intros <;> rfl

variable {names} {records : Records}

theorem Keeps.availability_renamed (keeps : names.Keeps records) {availability : Availability}
    (inside : availability ∈ records.availabilities.rows) :
    availability.renamed names = availability := by
  rw [Availability.renamed, keeps.availability availability inside]

theorem Keeps.recurrence_renamed (keeps : names.Keeps records) {recurrence : Recurrence}
    (inside : recurrence ∈ records.recurrences.rows) : recurrence.renamed names = recurrence := by
  rw [Recurrence.renamed, keeps.recurrence recurrence inside]

theorem Keeps.exclusion_renamed (keeps : names.Keeps records) {exclusion : Exclusion}
    (inside : exclusion ∈ records.exclusions.rows) : exclusion.renamed names = exclusion := by
  rw [Exclusion.renamed, keeps.exclusion exclusion inside]

/-- Records all of whose rows keep their ids are what they are renamed to. -/
theorem Keeps.renamed (keeps : names.Keeps records) : records.Renamed names records := by
  refine ⟨rfl, rfl, rfl, ?_, ?_, ?_⟩
  · rw [List.map_congr_left fun _ inside => keeps.availability_renamed inside, List.map_id']
  · rw [List.map_congr_left fun _ inside => keeps.recurrence_renamed inside, List.map_id']
  · rw [List.map_congr_left fun _ inside => keeps.exclusion_renamed inside, List.map_id']

/-! ## A row that is made -/

/-- The renaming that exchanges the ids of an availability. -/
def ofAvailability (made made' : String) : Renaming :=
  { refl with availability := .swap made made' }

def ofRecurrence (made made' : String) : Renaming :=
  { refl with recurrence := .swap made made' }

def ofExclusion (made made' : String) : Renaming :=
  { refl with exclusion := .swap made made' }

variable {made made' : String}

/-- Exchanging two ids that no row has leaves the ids of the rows alone. -/
theorem swap_of_absent {α : Type} {key : α → String} {rows : List α}
    (absent : ∀ row ∈ rows, key row ≠ made ∧ key row ≠ made') :
    ∀ row ∈ rows, Equiv.swap made made' (key row) = key row := by
  intro row inside
  obtain ⟨other, other'⟩ := absent row inside
  exact Equiv.swap_apply_of_ne_of_ne other other'

theorem keeps_ofAvailability
    (absent : ∀ availability ∈ records.availabilities.rows,
      availability.id ≠ made ∧ availability.id ≠ made') :
    (ofAvailability made made').Keeps records :=
  ⟨swap_of_absent absent, fun _ _ => rfl, fun _ _ => rfl⟩

theorem keeps_ofRecurrence
    (absent : ∀ recurrence ∈ records.recurrences.rows,
      recurrence.id ≠ made ∧ recurrence.id ≠ made') :
    (ofRecurrence made made').Keeps records :=
  ⟨fun _ _ => rfl, swap_of_absent absent, fun _ _ => rfl⟩

theorem keeps_ofExclusion
    (absent : ∀ exclusion ∈ records.exclusions.rows,
      exclusion.id ≠ made ∧ exclusion.id ≠ made') :
    (ofExclusion made made').Keeps records :=
  ⟨fun _ _ => rfl, fun _ _ => rfl, swap_of_absent absent⟩

end Renaming

/-- A new row that goes by another name is put in as it is put in by its own. -/
theorem Table.rows_put_renamed {α : Type} [Keyed α] {table : Table α} {rename : α → α}
    {row row' : α}
    (kept : ∀ other ∈ table.rows, rename other = other) (same : row' = rename row)
    (new : ∀ other ∈ table.rows,
      Keyed.key other ≠ Keyed.key row ∧ Keyed.key other ≠ Keyed.key row') :
    (table.put row').rows = (table.put row).rows.map rename := by
  rw [rows_put_of_new fun other inside => (new other inside).1,
    rows_put_of_new fun other inside => (new other inside).2, List.map_append,
    List.map_congr_left kept, List.map_id', same]
  rfl

end Rendezvous
