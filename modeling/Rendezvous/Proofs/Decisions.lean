import Rendezvous.Board.Recurrence
import Rendezvous.Proofs.Tables

/-!
# What a decision found out

Every operation decides before it writes.  A decision that did not fail has passed all of
its checks, and the lemmas here say which.
-/

namespace Rendezvous

theorem Except.ok_bind {α β : Type} (value : α) (next : α → Except Failure β) :
    (Except.ok value >>= next) = next value := rfl

theorem Except.error_bind {α β : Type} (failure : Failure) (next : α → Except Failure β) :
    (Except.error failure >>= next) = .error failure := rfl

theorem Except.bind_eq_ok_iff {α β : Type} {first : Except Failure α}
    {next : α → Except Failure β} {result : β} :
    (first >>= next) = .ok result ↔ ∃ value, first = .ok value ∧ next value = .ok result := by
  cases first <;> simp [bind, Except.bind]

theorem Refusal.unless_eq_ok_iff {condition : Bool} {refusal : Refusal} {done : Unit} :
    Refusal.unless condition refusal = .ok done ↔ condition := by
  cases condition <;> simp [Refusal.unless]

namespace Records

variable {records : Records}

theorem mem_of_availabilityOn? {participantId : String} {day : Date} {availability : Availability}
    (found : records.availabilityOn? participantId day = some availability) :
    availability ∈ records.availabilities.rows
      ∧ availability.participantId = participantId ∧ availability.day = day :=
  ⟨List.mem_of_find?_eq_some found, by simpa using List.find?_some found⟩

theorem availabilityOn?_eq_none_iff {participantId : String} {day : Date} :
    records.availabilityOn? participantId day = none
      ↔ ∀ availability ∈ records.availabilities.rows,
        availability.participantId = participantId → availability.day ≠ day := by
  simp [availabilityOn?]

theorem calendarByToken_eq_ok {token : String} {calendar : Calendar}
    (found : records.calendarByToken token = .ok calendar) :
    calendar ∈ records.calendars.rows ∧ calendar.publicToken = token := by
  rw [calendarByToken] at found
  split at found
  next calendar' known =>
    cases found
    exact ⟨List.mem_of_find?_eq_some known, by simpa using List.find?_some known⟩
  next => cases found

theorem participantIn_eq_ok {calendar : Calendar} {participantId : String}
    {participant : Participant}
    (found : records.participantIn calendar participantId = .ok participant) :
    participant ∈ records.participants.rows ∧ participant.id = participantId
      ∧ participant.calendarId = calendar.id := by
  rw [participantIn] at found
  split at found
  next participant' known =>
    cases found
    rw [Option.filter_eq_some_iff] at known
    obtain ⟨inside, same⟩ := Table.mem_of_get? known.1
    exact ⟨inside, same, by simpa using known.2⟩
  next => cases found

/-- A request that is located concerns a participant of a stored calendar. -/
theorem locate_eq_ok {token participantId : String} {calendar : Calendar}
    {participant : Participant}
    (found : records.locate token participantId = .ok (calendar, participant)) :
    (calendar ∈ records.calendars.rows ∧ calendar.publicToken = token)
      ∧ participant ∈ records.participants.rows ∧ participant.id = participantId
      ∧ participant.calendarId = calendar.id := by
  rw [locate, Except.bind_eq_ok_iff] at found
  obtain ⟨calendar', opened, found⟩ := found
  rw [Except.bind_eq_ok_iff] at found
  obtain ⟨participant', known, found⟩ := found
  cases found
  exact ⟨calendarByToken_eq_ok opened, participantIn_eq_ok known⟩

theorem calendarByToken_of_locate {token participantId : String} {calendar : Calendar}
    {participant : Participant}
    (found : records.locate token participantId = .ok (calendar, participant)) :
    records.calendarByToken token = .ok calendar := by
  rw [locate, Except.bind_eq_ok_iff] at found
  obtain ⟨calendar', opened, found⟩ := found
  rw [Except.bind_eq_ok_iff] at found
  obtain ⟨participant', -, found⟩ := found
  cases found
  exact opened

theorem availabilityOf_eq_ok {participant : Participant} {day : Date}
    {availability : Availability}
    (found : records.availabilityOf participant day = .ok availability) :
    records.availabilityOn? participant.id day = some availability := by
  rw [availabilityOf] at found
  split at found
  next known =>
    cases found
    exact known
  next => cases found

theorem recurrenceOf_eq_ok {participant : Participant} {recurrenceId : String}
    {recurrence : Recurrence}
    (found : records.recurrenceOf participant recurrenceId = .ok recurrence) :
    recurrence ∈ records.recurrences.rows ∧ recurrence.id = recurrenceId
      ∧ recurrence.participantId = participant.id := by
  rw [recurrenceOf] at found
  split at found
  next recurrence' known =>
    cases found
    rw [Option.filter_eq_some_iff] at known
    obtain ⟨inside, same⟩ := Table.mem_of_get? known.1
    exact ⟨inside, same, by simpa using known.2⟩
  next => cases found

theorem mem_recurrencesOf {participantId : String} {recurrence : Recurrence} :
    recurrence ∈ records.recurrencesOf participantId
      ↔ recurrence ∈ records.recurrences.rows ∧ recurrence.participantId = participantId := by
  simp [recurrencesOf, List.mem_mergeSort]

end Records

namespace Board

variable {surroundings : Surroundings} {board : Board}

/-- A booking is for a day that the calendar admits, in a slot that fits its window. -/
theorem book_eq_ok {token participantId : String} {request : AvailabilityRequest}
    {booking : Booking} (found : board.book surroundings token participantId request = .ok booking) :
    board.records.locate token participantId = .ok (booking.calendar, booking.participant)
      ∧ board.openDay surroundings request.day = .ok booking.day
      ∧ booking.calendar.checkRange booking.day = .ok ()
      ∧ booking.calendar.admits surroundings.holidays booking.day = .ok true
      ∧ ∃ start stop window, TimeOfDay.request request.start = .ok start
        ∧ TimeOfDay.request request.stop = .ok stop
        ∧ booking.calendar.window surroundings.holidays booking.day = .ok window
        ∧ window.fit booking.calendar.leastHours ⟨start, stop⟩ = .ok booking.slot := by
  rw [book, Except.bind_eq_ok_iff] at found
  obtain ⟨⟨calendar, participant⟩, located, found⟩ := found
  simp only [Except.bind_eq_ok_iff] at found
  obtain ⟨day, opened, ⟨⟩, range, admitted, admits, ⟨⟩, allowed, start, first, stop, last, window,
    hours, slot, fits, found⟩ := found
  cases found
  rw [Refusal.unless_eq_ok_iff] at allowed
  exact ⟨located, opened, range, allowed ▸ admits, start, stop, window, first, last, hours, fits⟩

/-- The availability that is to be changed is there, on a day that may still change. -/
theorem present_eq_ok {token participantId day : String} {calendar : Calendar}
    {participant : Participant} {availability : Availability}
    (found : board.present surroundings token participantId day
      = .ok (calendar, participant, availability)) :
    board.records.locate token participantId = .ok (calendar, participant)
      ∧ board.openDay surroundings day = .ok availability.day
      ∧ board.records.availabilityOn? participant.id availability.day = some availability := by
  rw [present, Except.bind_eq_ok_iff] at found
  obtain ⟨⟨calendar', participant'⟩, located, found⟩ := found
  simp only [Except.bind_eq_ok_iff] at found
  obtain ⟨day', opened, availability', known, found⟩ := found
  cases found
  have stored := Records.availabilityOf_eq_ok known
  obtain ⟨-, -, rfl⟩ := Records.mem_of_availabilityOn? stored
  exact ⟨located, opened, stored⟩

/-- A revision keeps everything but the slot, the note and the time of the last change. -/
theorem revise_eq_ok {token participantId day : String} {patch : AvailabilityPatch}
    {calendar : Calendar} {participant : Participant} {revised : Availability}
    (found : board.revise surroundings token participantId day patch
      = .ok (calendar, participant, revised)) :
    ∃ availability start stop window slot,
      board.present surroundings token participantId day
        = .ok (calendar, participant, availability)
      ∧ patched patch.start availability.slot.start = .ok start
      ∧ patched patch.stop availability.slot.stop = .ok stop
      ∧ calendar.window surroundings.holidays availability.day = .ok window
      ∧ window.fit calendar.leastHours ⟨start, stop⟩ = .ok slot
      ∧ revised =
        { availability with
          slot := slot
          note := patch.note.getD availability.note
          updatedAt := board.now } := by
  rw [revise, Except.bind_eq_ok_iff] at found
  obtain ⟨⟨calendar', participant', availability⟩, known, found⟩ := found
  simp only [Except.bind_eq_ok_iff] at found
  obtain ⟨start, first, stop, last, window, hours, slot, fits, found⟩ := found
  cases found
  exact ⟨availability, start, stop, window, slot, known, first, last, hours, fits, rfl⟩

/-- Terms that are agreed on end after they begin, and no other recurrence of the
participant overlaps them. -/
theorem terms_eq_ok {calendar : Calendar} {participant : Participant}
    {request : RecurrenceRequest} {replaced : Option String} {agreed : Terms}
    (found : board.terms calendar participant request replaced = .ok agreed) :
    weekdayOf calendar request.weekday = .ok agreed.weekday
      ∧ Date.request request.firstDate = .ok agreed.firstDate
      ∧ Date.requestOptional request.lastDate = .ok agreed.lastDate
      ∧ agreed.lastDate.all (agreed.firstDate ≤ ·)
      ∧ (∃ start stop, TimeOfDay.request request.start = .ok start
        ∧ TimeOfDay.request request.stop = .ok stop
        ∧ (calendar.weekdayWindow agreed.weekday.val).fit calendar.leastHours ⟨start, stop⟩
          = .ok agreed.slot)
      ∧ agreed.note = request.note
      ∧ ∀ other ∈ board.records.recurrences.rows, other.participantId = participant.id →
        some other.id ≠ replaced → agreed.overlaps other = false := by
  simp only [terms, Except.bind_eq_ok_iff] at found
  obtain ⟨weekday, allowed, start, first, stop, last, firstDate, begins, lastDate, ends, ⟨⟩,
    ordered, slot, fits, ⟨⟩, apart, found⟩ := found
  cases found
  rw [Refusal.unless_eq_ok_iff] at ordered apart
  refine ⟨allowed, begins, ends, ordered, ⟨start, stop, first, last, fits⟩, rfl, ?_⟩
  intro other inside own different
  simp only [Bool.not_eq_true', List.any_eq_false, Records.mem_recurrencesOf] at apart
  simpa [different] using apart other ⟨inside, own⟩

theorem owned_eq_ok {token participantId recurrenceId : String} {calendar : Calendar}
    {participant : Participant} {recurrence : Recurrence}
    (found : board.owned token participantId recurrenceId
      = .ok (calendar, participant, recurrence)) :
    board.records.locate token participantId = .ok (calendar, participant)
      ∧ recurrence ∈ board.records.recurrences.rows ∧ recurrence.id = recurrenceId
      ∧ recurrence.participantId = participant.id := by
  rw [owned, Except.bind_eq_ok_iff] at found
  obtain ⟨⟨calendar', participant'⟩, located, found⟩ := found
  rw [Except.bind_eq_ok_iff] at found
  obtain ⟨recurrence', known, found⟩ := found
  cases found
  exact ⟨located, Records.recurrenceOf_eq_ok known⟩

theorem excludable_eq_ok {token participantId recurrenceId text : String}
    {recurrence : Recurrence} {day : Date}
    (found : board.excludable token participantId recurrenceId text = .ok (recurrence, day)) :
    (∃ calendar participant,
      board.owned token participantId recurrenceId = .ok (calendar, participant, recurrence))
      ∧ Date.request text = .ok day := by
  rw [excludable, Except.bind_eq_ok_iff] at found
  obtain ⟨⟨calendar, participant, recurrence'⟩, known, found⟩ := found
  rw [Except.bind_eq_ok_iff] at found
  obtain ⟨day', read, found⟩ := found
  cases found
  exact ⟨⟨calendar, participant, known⟩, read⟩

theorem createExclusion_of_none {token participantId recurrenceId : String}
    {request : ExclusionRequest} {recurrence : Recurrence} {day : Date}
    (decided : board.excludable token participantId recurrenceId request.day
      = .ok (recurrence, day))
    (free : board.records.exclusionOn? recurrence.id day = none) :
    let number := Fresh.next board.exclusionIds board.issued
    let exclusion : Exclusion := ⟨Fresh.name number, recurrence.id, day, board.now⟩
    board.createExclusion token participantId recurrenceId request
      = .answer
        { board with
          records := { board.records with exclusions := board.records.exclusions.put exclusion }
          issued := number } exclusion := by
  rw [createExclusion, decided]
  simp only [Records.addExclusion, free]

end Board

end Rendezvous
