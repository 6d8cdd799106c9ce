import Rendezvous.Proofs.Agreement
import Rendezvous.Proofs.Increments
import Rendezvous.Proofs.Renaming

/-!
# Availabilities in another order

The order in which availabilities are stored, and the ids that they go by, are seen in the order of
a date at most.  What is counted on the date, and when it is busy, does not depend on them.
-/

namespace Rendezvous

/-- Records that hold the same availabilities in another order and by other ids. -/
structure Records.Shuffled (names : Renaming) (records other : Records) : Prop where
  calendars : other.calendars = records.calendars
  users : other.users = records.users
  participants : other.participants = records.participants
  availabilities : other.availabilities.rows.Perm
    (records.availabilities.rows.map (Availability.renamed names))
  recurrences : other.recurrences = records.recurrences
  exclusions : other.exclusions = records.exclusions

namespace Records.Shuffled

variable {names : Renaming} {records other : Records} {calendarId : String} {day : Date}

theorem member? (shuffled : records.Shuffled names other) :
    other.member? = records.member? := by
  unfold Records.member? participantsOf
  rw [shuffled.participants]

theorem mem_iff (shuffled : records.Shuffled names other) {availability : Availability} :
    availability ∈ other.availabilities.rows
      ↔ ∃ row ∈ records.availabilities.rows, row.renamed names = availability :=
  shuffled.availabilities.mem_iff.trans List.mem_map

theorem hasAvailability (shuffled : records.Shuffled names other) (participantId : String)
    (day : Date) :
    other.hasAvailability participantId day = records.hasAvailability participantId day := by
  unfold Records.hasAvailability availabilityOn?
  rw [List.isSome_find?, List.isSome_find?, shuffled.availabilities.any_eq, List.any_map]
  rfl

theorem repeatedOn (shuffled : records.Shuffled names other) (calendarId : String) (day : Date) :
    other.repeatedOn calendarId day = records.repeatedOn calendarId day := by
  unfold Records.repeatedOn isExcluded exclusionOn?
  simp only [shuffled.member?, shuffled.recurrences, shuffled.exclusions,
    shuffled.hasAvailability]

theorem enteredOn (shuffled : records.Shuffled names other) (calendarId : String) (day : Date) :
    (other.enteredOn calendarId day).Perm
      ((records.enteredOn calendarId day).map (Availability.renamed names)) := by
  unfold Records.enteredOn
  rw [shuffled.member?]
  apply (List.mergeSort_perm _ _).trans
  apply (shuffled.availabilities.filter _).trans
  rw [List.filter_map]
  exact ((List.mergeSort_perm _ _).map _).symm

/-- A date shows the same contributions, if in another order. -/
theorem contributionsOn (shuffled : records.Shuffled names other) (calendarId : String)
    (day : Date) :
    (other.contributionsOn calendarId day).Perm (records.contributionsOn calendarId day) := by
  rw [contributionsOn_eq_merged, contributionsOn_eq_merged]
  unfold merged
  rw [shuffled.repeatedOn, shuffled.member?]
  apply List.Perm.append_right
  apply ((shuffled.enteredOn calendarId day).filterMap _).trans
  rw [List.filterMap_map]
  rfl

theorem comparable_iff (shuffled : records.Shuffled names other) {start stop : Date} :
    other.Comparable calendarId start stop ↔ records.Comparable calendarId start stop := by
  unfold Comparable
  simp only [shuffled.mem_iff, shuffled.member?, forall_exists_index, and_imp,
    forall_apply_eq_imp_iff₂]
  rfl

theorem checkSpan (shuffled : records.Shuffled names other) (calendarId : String)
    (start stop : Date) :
    other.checkSpan calendarId start stop = records.checkSpan calendarId start stop := by
  apply checkSpan_congr shuffled.comparable_iff
  · exact fun _ => by rw [shuffled.member?]
  · exact shuffled.recurrences

theorem tally {board changed : Board} (shuffled : board.records.Shuffled names changed.records)
    (calendarId : String) (day : Date) :
    changed.tally calendarId day = board.tally calendarId day := by
  rw [Board.tally_eq, Board.tally_eq, shuffled.checkSpan, simultaneous, simultaneous,
    Sweep.maxSimultaneous_perm ((shuffled.contributionsOn calendarId day).map _)]

theorem busyTimes {board changed : Board}
    (shuffled : board.records.Shuffled names changed.records) (token text : String) :
    changed.busyTimes token text = board.busyTimes token text := by
  unfold Board.busyTimes calendarByToken calendarOf?
  rw [shuffled.calendars]
  apply Except.bind_congr
  intro calendar _
  apply Except.bind_congr
  intro day _
  rw [shuffled.checkSpan]
  simp only [Sweep.busyPieces_perm ((shuffled.contributionsOn calendar.id day).map _)]

end Records.Shuffled

end Rendezvous
