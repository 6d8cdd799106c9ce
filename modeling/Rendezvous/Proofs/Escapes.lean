import Rendezvous.Proofs.Readable

/-!
# What keeps an operation from finishing

Where the hours of a calendar are valid times, an operation that does not finish is refused.  The
end of the calendar of dates is the exception: the day after the last day is asked for when a day
may be the eve of a holiday, and the rest of the last week when a recurrence is looked up.
-/

namespace Rendezvous

variable {allowed : Failure → Prop}

/-! ## Decisions -/

/-- A calendar that a public token opens. -/
def Records.Opens (records : Records) (token : String) (calendar : Calendar) : Prop :=
  calendar ∈ records.calendars.rows ∧ calendar.publicToken = token

theorem Date.ends_request (text : String) (refuses : ∀ refusal, allowed (.refused refusal)) :
    Ends allowed (fun day => request text = .ok day) (request text) := by
  rw [request]
  split
  next day found => rfl
  next => exact refuses _

theorem Date.ends_requestOptional (text : Option String)
    (refuses : ∀ refusal, allowed (.refused refusal)) :
    Ends allowed (fun _ => True) (requestOptional text) := by
  rw [requestOptional]
  split
  next text _ => exact (ends_request text refuses).map some fun _ _ => trivial
  next => exact trivial

namespace Records

variable {records : Records} {token : String}

theorem ends_calendarByToken (refuses : ∀ refusal, allowed (.refused refusal)) :
    Ends allowed (records.Opens token) (records.calendarByToken token) := by
  cases found : records.calendarByToken token with
  | ok calendar => exact calendarByToken_eq_ok found
  | error failure =>
    rw [calendarByToken] at found
    split at found
    · cases found
    · cases found
      exact refuses _

theorem ends_locate (participantId : String) (refuses : ∀ refusal, allowed (.refused refusal)) :
    Ends allowed (fun located => records.Opens token located.1)
      (records.locate token participantId) := by
  rw [locate]
  refine Ends.bind (ends_calendarByToken refuses) fun calendar _ opened => ?_
  have known : Ends allowed (fun _ => True) (records.participantIn calendar participantId) := by
    rw [participantIn]
    split
    · exact trivial
    · exact refuses _
  exact Ends.bind known fun participant _ _ => ends_pure opened

theorem ends_availabilityOf (participant : Participant) (day : Date)
    (refuses : ∀ refusal, allowed (.refused refusal)) :
    Ends allowed (fun _ => True) (records.availabilityOf participant day) := by
  rw [availabilityOf]
  split
  · exact trivial
  · exact refuses _

theorem ends_recurrenceOf (participant : Participant) (recurrenceId : String)
    (refuses : ∀ refusal, allowed (.refused refusal)) :
    Ends allowed (fun _ => True) (records.recurrenceOf participant recurrenceId) := by
  rw [recurrenceOf]
  split
  · exact trivial
  · exact refuses _

end Records

theorem Calendar.ends_checkRange (calendar : Calendar) (day : Date)
    (refuses : ∀ refusal, allowed (.refused refusal)) :
    Ends allowed (fun _ => True) (calendar.checkRange day) := by
  rw [checkRange]
  split
  · exact refuses _
  · exact refuses _
  · exact trivial

namespace Board

variable {surroundings : Surroundings} {board : Board} {token participantId : String}

theorem ends_openDay (text : String) (refuses : ∀ refusal, allowed (.refused refusal)) :
    Ends allowed (fun day => Date.request text = .ok day) (board.openDay surroundings text) := by
  rw [openDay]
  refine Ends.bind (Date.ends_request text refuses) fun day _ read => ?_
  exact Ends.bind (ends_unless (refuses _)) fun _ _ _ => ends_pure read

theorem ends_weekdayOf (calendar : Calendar) (number : Option Int)
    (refuses : ∀ refusal, allowed (.refused refusal)) :
    Ends allowed (fun _ => True) (weekdayOf calendar number) := by
  rw [weekdayOf]
  split
  · exact refuses _
  · split
    · exact trivial
    · exact refuses _

theorem ends_book {request : AvailabilityRequest}
    (valid : ∀ calendar, board.records.Opens token calendar → calendar.allowedHours.isValid)
    (refuses : ∀ refusal, allowed (.refused refusal))
    (beyond : ∀ calendar day, board.records.Opens token calendar →
      Date.request request.day = .ok day → calendar.LooksBeyond surroundings.holidays day →
      allowed .beyondCalendar) :
    Ends allowed (fun _ => True) (board.book surroundings token participantId request) := by
  rw [book]
  refine Ends.bind (Records.ends_locate participantId refuses) fun located _ opened => ?_
  obtain ⟨calendar, participant⟩ := located
  refine Ends.bind (ends_openDay request.day refuses) fun day _ read => ?_
  have beyond' := beyond calendar day opened read
  refine Ends.bind (calendar.ends_checkRange day refuses) fun _ _ _ => ?_
  refine Ends.bind (Calendar.ends_admits beyond') fun admitted _ _ => ?_
  refine Ends.bind (ends_unless (refuses _)) fun _ _ _ => ?_
  refine Ends.bind (TimeOfDay.ends_request request.start refuses) fun start _ first => ?_
  refine Ends.bind (TimeOfDay.ends_request request.stop refuses) fun stop _ last => ?_
  refine Ends.bind (Calendar.ends_window (valid calendar opened) beyond')
    fun window _ legible => ?_
  exact Ends.bind (Window.ends_fit _ legible ⟨first, last⟩ refuses)
    fun slot _ _ => ends_pure trivial

theorem ends_present (day : String) (refuses : ∀ refusal, allowed (.refused refusal)) :
    Ends allowed (fun found => board.records.Opens token found.1
        ∧ Date.request day = .ok found.2.2.day)
      (board.present surroundings token participantId day) := by
  rw [present]
  refine Ends.bind (Records.ends_locate participantId refuses) fun located _ opened => ?_
  refine Ends.bind (ends_openDay day refuses) fun day' _ read => ?_
  refine Ends.bind (Records.ends_availabilityOf located.2 day' refuses)
    fun availability found _ => ends_pure ⟨opened, ?_⟩
  obtain ⟨-, -, same⟩ := Records.mem_of_availabilityOn? (Records.availabilityOf_eq_ok found)
  rw [read, same]

theorem legible_of_present (readable : board.records.Readable) {day : String}
    {calendar : Calendar} {participant : Participant} {present : Availability}
    (valid : calendar.allowedHours.isValid)
    (known : board.present surroundings token participantId day
      = .ok (calendar, participant, present)) : present.slot.Legible := by
  obtain ⟨located, -, found⟩ := present_eq_ok known
  obtain ⟨⟨stored, -⟩, member, -, belongs⟩ := Records.locate_eq_ok located
  obtain ⟨inside, own, -⟩ := Records.mem_of_availabilityOn? found
  exact readable.entries present inside calendar
    ⟨stored, participant, member, own.symm, belongs⟩ valid

theorem ends_revise {day : String} {patch : AvailabilityPatch}
    (readable : board.records.Readable)
    (valid : ∀ calendar, board.records.Opens token calendar → calendar.allowedHours.isValid)
    (refuses : ∀ refusal, allowed (.refused refusal))
    (beyond : ∀ calendar day', board.records.Opens token calendar →
      Date.request day = .ok day' → calendar.LooksBeyond surroundings.holidays day' →
      allowed .beyondCalendar) :
    Ends allowed (fun _ => True) (board.revise surroundings token participantId day patch) := by
  rw [revise]
  refine Ends.bind (ends_present day refuses) fun found known opened => ?_
  obtain ⟨calendar, participant, present⟩ := found
  obtain ⟨opened, read⟩ := opened
  have legible := legible_of_present readable (valid calendar opened) known
  refine Ends.bind (ends_patched legible.start refuses) fun start _ first => ?_
  refine Ends.bind (ends_patched legible.stop refuses) fun stop _ last => ?_
  refine Ends.bind (Calendar.ends_window (valid calendar opened)
    (beyond calendar present.day opened read)) fun window _ hours => ?_
  exact Ends.bind (Window.ends_fit _ hours ⟨first, last⟩ refuses)
    fun slot _ _ => ends_pure trivial

theorem ends_schedule (start stop : Option String)
    (refuses : ∀ refusal, allowed (.refused refusal)) :
    Ends allowed (fun _ => True) (board.schedule token participantId start stop) := by
  rw [schedule]
  refine Ends.bind (Records.ends_locate participantId refuses) fun _ _ _ => ?_
  refine Ends.bind (Date.ends_requestOptional start refuses) fun _ _ _ => ?_
  exact Ends.bind (Date.ends_requestOptional stop refuses) fun _ _ _ => ends_pure trivial

theorem ends_terms {calendar : Calendar} (participant : Participant)
    (request : RecurrenceRequest) (replaced : Option String)
    (valid : calendar.allowedHours.isValid) (refuses : ∀ refusal, allowed (.refused refusal)) :
    Ends allowed (fun _ => True) (board.terms calendar participant request replaced) := by
  rw [terms]
  refine Ends.bind (ends_weekdayOf calendar request.weekday refuses) fun weekday _ _ => ?_
  refine Ends.bind (TimeOfDay.ends_request request.start refuses) fun start _ first => ?_
  refine Ends.bind (TimeOfDay.ends_request request.stop refuses) fun stop _ last => ?_
  refine Ends.bind (Date.ends_request request.firstDate refuses) fun _ _ _ => ?_
  refine Ends.bind (Date.ends_requestOptional request.lastDate refuses) fun _ _ _ => ?_
  refine Ends.bind (ends_unless (refuses _)) fun _ _ _ => ?_
  refine Ends.bind (Window.ends_fit _ (AllowedHours.legible_onWeekday valid _) ⟨first, last⟩
    refuses) fun _ _ _ => ?_
  exact Ends.bind (ends_unless (refuses _)) fun _ _ _ => ends_pure trivial

theorem ends_owned (recurrenceId : String) (refuses : ∀ refusal, allowed (.refused refusal)) :
    Ends allowed (fun found => board.records.Opens token found.1)
      (board.owned token participantId recurrenceId) := by
  rw [owned]
  refine Ends.bind (Records.ends_locate participantId refuses) fun located _ opened => ?_
  exact Ends.bind (Records.ends_recurrenceOf located.2 recurrenceId refuses)
    fun _ _ _ => ends_pure opened

theorem ends_excludable (recurrenceId day : String)
    (refuses : ∀ refusal, allowed (.refused refusal)) :
    Ends allowed (fun _ => True) (board.excludable token participantId recurrenceId day) := by
  rw [excludable]
  refine Ends.bind (ends_owned recurrenceId refuses) fun _ _ _ => ?_
  exact Ends.bind (Date.ends_request day refuses) fun _ _ _ => ends_pure trivial

theorem ends_listRecurrences (refuses : ∀ refusal, allowed (.refused refusal)) :
    Ends allowed (fun _ => True) (board.listRecurrences token participantId) := by
  rw [listRecurrences]
  exact Ends.bind (Records.ends_locate participantId refuses) fun _ _ _ => ends_pure trivial

end Board

/-! ## Summaries -/

theorem DaySummary.ends_of (calendar : Calendar) (day : Date) {contributions : List Contribution}
    (legible : ∀ contribution ∈ contributions, contribution.slot.Legible) :
    Ends allowed (fun _ => True) (DaySummary.of calendar day contributions) := by
  rw [DaySummary.of]
  split
  · exact ends_pure trivial
  · refine Ends.bind (Sweep.ends_feasibleHours ?_) fun _ _ _ => ends_pure trivial
    intro slot inside
    obtain ⟨contribution, among, rfl⟩ := List.mem_map.mp inside
    exact legible contribution among

namespace Board

variable {board : Board} {token : String}

theorem Clocked.ends_checkSpan (clocked : board.Clocked) {calendarId : String} {start stop : Date}
    (cutOff : ¬ board.records.Foreseeable calendarId start stop → allowed .weekCutOff) :
    Ends allowed (fun _ => True) (board.records.checkSpan calendarId start stop) := by
  have comparable := clocked.comparable calendarId start stop
  cases checked : board.records.checkSpan calendarId start stop with
  | ok done => exact trivial
  | error failure =>
    have broken : ¬ board.records.Foreseeable calendarId start stop := by
      intro foreseeable
      rw [Records.checkSpan_eq_ok_iff.mpr ⟨comparable, foreseeable⟩] at checked
      cases checked
    rw [Records.checkSpan, if_neg (by simp [Records.areIncomparable_eq_false_iff.mpr comparable])]
      at checked
    split at checked
    · cases checked
      exact cutOff broken
    · cases checked

theorem ends_dateSummary (clocked : board.Clocked) (readable : board.records.Readable)
    (valid : ∀ calendar, board.records.Opens token calendar → calendar.allowedHours.isValid)
    (day : String) (refuses : ∀ refusal, allowed (.refused refusal))
    (cutOff : ∀ calendar day', board.records.Opens token calendar → Date.request day = .ok day' →
      ¬ board.records.Foreseeable calendar.id day' day' → allowed .weekCutOff) :
    Ends allowed (fun _ => True) (board.dateSummary token day) := by
  rw [dateSummary]
  refine Ends.bind (Records.ends_calendarByToken refuses) fun calendar _ opened => ?_
  refine Ends.bind (Date.ends_request day refuses) fun day' _ read => ?_
  refine Ends.bind (clocked.ends_checkSpan (cutOff calendar day' opened read)) fun _ _ _ => ?_
  refine DaySummary.ends_of calendar day' fun contribution inside => ?_
  rw [Records.contributionsOn_eq_merged] at inside
  exact readable.legible_of_mem_merged opened.1 (valid calendar opened) inside

theorem ends_rangeSummary (clocked : board.Clocked) (readable : board.records.Readable)
    (valid : ∀ calendar, board.records.Opens token calendar → calendar.allowedHours.isValid)
    (start stop : String) (requester : Option String)
    (refuses : ∀ refusal, allowed (.refused refusal))
    (cutOff : ∀ calendar start' stop', board.records.Opens token calendar →
      Date.request start = .ok start' → Date.request stop = .ok stop' →
      ¬ board.records.Foreseeable calendar.id start' stop' → allowed .weekCutOff) :
    Ends allowed (fun _ => True) (board.rangeSummary token start stop requester) := by
  rw [rangeSummary]
  refine Ends.bind (Records.ends_calendarByToken refuses) fun calendar _ opened => ?_
  refine Ends.bind (Date.ends_request start refuses) fun start' _ begins => ?_
  refine Ends.bind (Date.ends_request stop refuses) fun stop' _ ends => ?_
  refine Ends.bind (ends_unless (refuses _)) fun _ _ _ => ?_
  refine Ends.bind (clocked.ends_checkSpan (cutOff calendar start' stop' opened begins ends))
    fun _ _ _ => ?_
  have each : ∀ dated ∈ board.records.contributionsBetween calendar.id start' stop',
      Ends allowed (fun _ => True) (DaySummary.of calendar dated.1 dated.2) := by
    intro dated inside
    refine DaySummary.ends_of calendar dated.1 fun contribution among => ?_
    rw [Records.eq_merged_of_mem_contributionsBetween inside] at among
    exact readable.legible_of_mem_merged opened.1 (valid calendar opened) among
  exact Ends.bind (ends_mapM each) fun _ _ _ => ends_pure trivial

theorem ends_busyTimes (clocked : board.Clocked) (day : String)
    (refuses : ∀ refusal, allowed (.refused refusal))
    (cutOff : ∀ calendar day', board.records.Opens token calendar → Date.request day = .ok day' →
      ¬ board.records.Foreseeable calendar.id day' day' → allowed .weekCutOff) :
    Ends allowed (fun _ => True) (board.busyTimes token day) := by
  rw [busyTimes]
  refine Ends.bind (Records.ends_calendarByToken refuses) fun calendar _ opened => ?_
  refine Ends.bind (Date.ends_request day refuses) fun day' _ read => ?_
  exact Ends.bind (clocked.ends_checkSpan (cutOff calendar day' opened read))
    fun _ _ _ => ends_pure trivial

end Board

/-! ## Operations -/

/-- The public token by which an operation on availabilities or recurrences names its
calendar. -/
def Operation.token? : Operation → Option String
  | .createAvailability token .. => some token
  | .updateAvailability token .. => some token
  | .deleteAvailability token .. => some token
  | .listAvailabilities token .. => some token
  | .dateSummary token .. => some token
  | .rangeSummary token .. => some token
  | .busyTimes token .. => some token
  | .createRecurrence token .. => some token
  | .updateRecurrence token .. => some token
  | .deleteRecurrence token .. => some token
  | .listRecurrences token .. => some token
  | .createExclusion token .. => some token
  | .deleteExclusion token .. => some token
  | _ => none

/-- A look-up that breaks off looks beyond the last seven days. -/
theorem Records.late_of_not_foreseeable {records : Records} {calendarId : String}
    {start stop : Date} (cutOff : ¬ records.Foreseeable calendarId start stop) :
    lastOrdinal < stop.ordinal + 7 := by
  by_contra early
  refine cutOff fun recurrence _ _ => ?_
  by_contra overrun
  rw [Bool.not_eq_false, Recurrence.overruns_iff, Recurrence.isCutOff_iff] at overrun
  have within : (recurrence.finish stop).ordinal ≤ stop.ordinal :=
    (Recurrence.le_finish_iff.mp (Nat.le_refl _)).1
  have reach := overrun.2
  simp only [Recurrence.nextOrdinal] at reach
  omega

theorem Refusal.status_mem (refusal : Refusal) : refusal.kind.status ∈ [400, 404, 409] := by
  cases refusal <;> simp [Refusal.kind, Refusal.Kind.status]

/-- How an operation comes to the end of the calendar of dates: it asks for the day after the
last one, or for a day that the last week lacks. -/
inductive Board.Escapes (board : Board) (holidays : Holidays) : Operation → Failure → Prop where
  | enter {token participantId : String} {request : AvailabilityRequest} {calendar : Calendar}
      {day : Date} (opened : board.records.Opens token calendar)
      (read : Date.request request.day = .ok day) (beyond : calendar.LooksBeyond holidays day) :
      Escapes board holidays (.createAvailability token participantId request) .beyondCalendar
  | revise {token participantId text : String} {patch : AvailabilityPatch} {calendar : Calendar}
      {day : Date} (opened : board.records.Opens token calendar)
      (read : Date.request text = .ok day) (beyond : calendar.LooksBeyond holidays day) :
      Escapes board holidays (.updateAvailability token participantId text patch) .beyondCalendar
  | dateSummary {token text : String} {calendar : Calendar} {day : Date}
      (opened : board.records.Opens token calendar) (read : Date.request text = .ok day)
      (late : lastOrdinal < day.ordinal + 7)
      (cutOff : ¬ board.records.Foreseeable calendar.id day day) :
      Escapes board holidays (.dateSummary token text) .weekCutOff
  | rangeSummary {token text text' : String} {requester : Option String} {calendar : Calendar}
      {start stop : Date} (opened : board.records.Opens token calendar)
      (begins : Date.request text = .ok start) (ends : Date.request text' = .ok stop)
      (late : lastOrdinal < stop.ordinal + 7)
      (cutOff : ¬ board.records.Foreseeable calendar.id start stop) :
      Escapes board holidays (.rangeSummary token text text' requester) .weekCutOff
  | busyTimes {token text : String} {calendar : Calendar} {day : Date}
      (opened : board.records.Opens token calendar) (read : Date.request text = .ok day)
      (late : lastOrdinal < day.ordinal + 7)
      (cutOff : ¬ board.records.Foreseeable calendar.id day day) :
      Escapes board holidays (.busyTimes token text) .weekCutOff

namespace Board

variable {surroundings : Surroundings} {holidays : Holidays} {board : Board}
  {operation : Operation} {token : String}

/-- A failure that the caller is told of with a status, or one at the end of the calendar. -/
def Told (board : Board) (holidays : Holidays) (operation : Operation) (failure : Failure) :
    Prop :=
  (∃ refusal, failure = .refused refusal) ∨ board.Escapes holidays operation failure

theorem told_refused (refusal : Refusal) : board.Told holidays operation (.refused refusal) :=
  .inl ⟨refusal, rfl⟩

theorem ends_createAvailability {participantId : String} {request : AvailabilityRequest}
    (valid : ∀ calendar, board.records.Opens token calendar → calendar.allowedHours.isValid) :
    Ends (board.Told surroundings.holidays (.createAvailability token participantId request))
      (fun _ => True)
      (board.createAvailability surroundings token participantId request).outcome := by
  rw [createAvailability]
  split
  next failure failed =>
    refine (ends_book valid told_refused ?_).of_eq_error failed
    exact fun calendar day opened read beyond => .inr (.enter opened read beyond)
  next booking decided =>
    dsimp only
    split
    · exact told_refused _
    · exact trivial

theorem ends_updateAvailability {participantId day : String} {patch : AvailabilityPatch}
    (readable : board.records.Readable)
    (valid : ∀ calendar, board.records.Opens token calendar → calendar.allowedHours.isValid) :
    Ends (board.Told surroundings.holidays (.updateAvailability token participantId day patch))
      (fun _ => True)
      (board.updateAvailability surroundings token participantId day patch).outcome := by
  rw [updateAvailability]
  split
  next failure failed =>
    refine (ends_revise readable valid told_refused ?_).of_eq_error failed
    exact fun calendar day' opened read beyond => .inr (.revise opened read beyond)
  next => exact trivial

theorem ends_deleteAvailability (participantId day : String) :
    Ends (board.Told holidays operation) (fun _ => True)
      (board.deleteAvailability surroundings token participantId day).outcome := by
  rw [deleteAvailability]
  split
  next failure failed => exact (ends_present day told_refused).of_eq_error failed
  next => exact trivial

theorem ends_createRecurrence (participantId : String) (request : RecurrenceRequest)
    (valid : ∀ calendar, board.records.Opens token calendar → calendar.allowedHours.isValid) :
    Ends (board.Told holidays operation) (fun _ => True)
      (board.createRecurrence token participantId request).outcome := by
  rw [createRecurrence]
  dsimp only
  split
  next failure failed =>
    change board.Told holidays operation failure
    refine Ends.of_eq_error (?_ : Ends _ (fun _ => True) _) failed
    refine Ends.bind (Records.ends_locate participantId told_refused) fun located _ opened => ?_
    exact Ends.bind (ends_terms _ request none (valid _ opened) told_refused)
      fun _ _ _ => ends_pure trivial
  next => exact trivial

theorem ends_updateRecurrence (participantId recurrenceId : String) (request : RecurrenceRequest)
    (valid : ∀ calendar, board.records.Opens token calendar → calendar.allowedHours.isValid) :
    Ends (board.Told holidays operation) (fun _ => True)
      (board.updateRecurrence token participantId recurrenceId request).outcome := by
  rw [updateRecurrence]
  dsimp only
  split
  next failure failed =>
    change board.Told holidays operation failure
    refine Ends.of_eq_error (?_ : Ends _ (fun _ => True) _) failed
    refine Ends.bind (ends_owned recurrenceId told_refused) fun found _ opened => ?_
    exact Ends.bind (ends_terms _ request _ (valid _ opened) told_refused)
      fun _ _ _ => ends_pure trivial
  next => exact trivial

theorem ends_deleteRecurrence (participantId recurrenceId : String) :
    Ends (board.Told holidays operation) (fun _ => True)
      (board.deleteRecurrence token participantId recurrenceId).outcome := by
  rw [deleteRecurrence]
  split
  next failure failed => exact (ends_owned recurrenceId told_refused).of_eq_error failed
  next => exact trivial

theorem ends_createExclusion (participantId recurrenceId : String) (request : ExclusionRequest) :
    Ends (board.Told holidays operation) (fun _ => True)
      (board.createExclusion token participantId recurrenceId request).outcome := by
  rw [createExclusion]
  split
  next failure failed =>
    exact (ends_excludable recurrenceId request.day told_refused).of_eq_error failed
  next => split <;> exact trivial

theorem ends_deleteExclusion (participantId recurrenceId day : String) :
    Ends (board.Told holidays operation) (fun _ => True)
      (board.deleteExclusion token participantId recurrenceId day).outcome := by
  rw [deleteExclusion]
  split
  next failure failed => exact (ends_excludable recurrenceId day told_refused).of_eq_error failed
  next => exact trivial

/-- Whatever is asked with a public token ends with an answer, a refusal, or at the end of the
calendar. -/
theorem ends_perform (clocked : board.Clocked) (readable : board.records.Readable)
    (asks : operation.token? = some token)
    (valid : ∀ calendar, board.records.Opens token calendar → calendar.allowedHours.isValid) :
    Ends (board.Told surroundings.holidays operation) (fun _ => True)
      (board.perform surroundings operation).outcome := by
  cases operation <;> cases asks
  case createAvailability participantId request =>
    exact (ends_createAvailability valid).map _ fun _ _ => trivial
  case updateAvailability participantId day patch =>
    exact (ends_updateAvailability readable valid).map _ fun _ _ => trivial
  case deleteAvailability participantId day =>
    exact (ends_deleteAvailability participantId day).map _ fun _ _ => trivial
  case listAvailabilities participantId start stop =>
    exact (ends_schedule start stop told_refused).map _ fun _ _ => trivial
  case dateSummary day =>
    refine (ends_dateSummary clocked readable valid day told_refused ?_).map _ fun _ _ => trivial
    intro calendar day' opened read cutOff
    exact .inr (.dateSummary opened read (Records.late_of_not_foreseeable cutOff) cutOff)
  case rangeSummary start stop requester =>
    refine (ends_rangeSummary clocked readable valid start stop requester told_refused ?_).map _
      fun _ _ => trivial
    intro calendar start' stop' opened begins ends cutOff
    exact .inr (.rangeSummary opened begins ends (Records.late_of_not_foreseeable cutOff) cutOff)
  case busyTimes day =>
    refine (ends_busyTimes clocked day told_refused ?_).map _ fun _ _ => trivial
    intro calendar day' opened read cutOff
    exact .inr (.busyTimes opened read (Records.late_of_not_foreseeable cutOff) cutOff)
  case createRecurrence participantId request =>
    exact (ends_createRecurrence participantId request valid).map _ fun _ _ => trivial
  case updateRecurrence participantId recurrenceId request =>
    exact (ends_updateRecurrence participantId recurrenceId request valid).map _
      fun _ _ => trivial
  case deleteRecurrence participantId recurrenceId =>
    exact (ends_deleteRecurrence participantId recurrenceId).map _ fun _ _ => trivial
  case listRecurrences participantId =>
    exact (ends_listRecurrences told_refused).map _ fun _ _ => trivial
  case createExclusion participantId recurrenceId request =>
    exact (ends_createExclusion participantId recurrenceId request).map _ fun _ _ => trivial
  case deleteExclusion participantId recurrenceId day =>
    exact (ends_deleteExclusion participantId recurrenceId day).map _ fun _ _ => trivial

/-- Where nobody was available at first: an operation that names a calendar with valid hours by
its token finishes, is refused with one of three statuses, or comes to the end of the calendar
of dates. -/
theorem only_refusals_or_escapes (board : Board) (run : List (Surroundings × Operation))
    (surroundings : Surroundings) {operation : Operation} {token : String}
    (noAvailability : board.records.availabilities.rows = [])
    (noRecurrence : board.records.recurrences.rows = [])
    (asks : operation.token? = some token)
    (valid : ∀ calendar ∈ board.records.calendars.rows, calendar.publicToken = token →
      calendar.allowedHours.isValid) :
    (∃ answer, ((board.after run).perform surroundings operation).outcome = .ok answer)
    ∨ ∃ failure, ((board.after run).perform surroundings operation).outcome = .error failure
      ∧ ((∃ refusal, failure = .refused refusal ∧ refusal.kind.status ∈ [400, 404, 409])
        ∨ (board.after run).Escapes surroundings.holidays operation failure) := by
  have clocked : (board.after run).Clocked := clocked_after run (by simp [Clocked, noAvailability])
  have readable : (board.after run).records.Readable := by
    refine vetted_after board run (fun surrounded _ => surrounded.1.vets_readable) ⟨?_, ?_⟩ <;>
      simp [noAvailability, noRecurrence]
  have valid' : ∀ calendar, (board.after run).records.Opens token calendar →
      calendar.allowedHours.isValid := by
    rintro calendar ⟨stored, opened⟩
    rw [calendars_after] at stored
    exact valid calendar stored opened
  have ends : Ends ((board.after run).Told surroundings.holidays operation) (fun _ => True)
      ((board.after run).perform surroundings operation).outcome :=
    ends_perform clocked readable asks valid'
  cases outcome : ((board.after run).perform surroundings operation).outcome with
  | ok answer => exact .inl ⟨answer, rfl⟩
  | error failure =>
    refine .inr ⟨failure, rfl, ?_⟩
    rcases ends.of_eq_error outcome with ⟨refusal, refused⟩ | escapes
    · exact .inl ⟨refusal, refused, refusal.status_mem⟩
    · exact .inr escapes

end Board

/-! ## The last days -/

/-- A calendar that admits the eves of holidays, but no Friday otherwise. -/
def Calendar.sampleLate : Calendar :=
  { Calendar.sample with
    timezone := "America/New_York"
    allowedWeekdays := [0, 1, 2, 3, 4, 6]
    allowHolidayEves := true
    allowedHours := ⟨[(1, ⟨some "09:00", some "17:00"⟩)], .unbounded, .unbounded⟩ }

def Board.sampleLate : Board :=
  { sample with records := { sample.records with calendars := ⟨[.sampleLate], by decide⟩ } }

/-- A slot on every Saturday. -/
def Board.sampleLateRun : List (Surroundings × Operation) :=
  [(.sample, .createRecurrence "open" "ann" ⟨some 6, none, none, none, "2025-06-01", none⟩)]

namespace Board

theorem only_refusals_or_escapes_sample :
    let operation := Operation.dateSummary "open" "9999-12-28"
    sampleLate.records.availabilities.rows = [] ∧ sampleLate.records.recurrences.rows = []
      ∧ operation.token? = some "open"
      ∧ (∀ calendar ∈ sampleLate.records.calendars.rows, calendar.publicToken = "open" →
        calendar.allowedHours.isValid)
      ∧ ((∃ answer,
          ((sampleLate.after sampleLateRun).perform .sample operation).outcome = .ok answer)
        ∨ ∃ failure, ((sampleLate.after sampleLateRun).perform .sample operation).outcome
            = .error failure
          ∧ ((∃ refusal, failure = .refused refusal ∧ refusal.kind.status ∈ [400, 404, 409])
            ∨ (sampleLate.after sampleLateRun).Escapes .sample operation failure)) := by
  intro operation
  have valid : ∀ calendar ∈ sampleLate.records.calendars.rows, calendar.publicToken = "open" →
      calendar.allowedHours.isValid := by decide +kernel
  exact ⟨rfl, rfl, rfl, valid,
    only_refusals_or_escapes sampleLate sampleLateRun .sample rfl rfl rfl valid⟩

/-- The last day may be an eve, for which the day after it is asked for; and the last week has
no Saturday for the recurrence to be looked up on.  Neither is a refusal. -/
theorem unrefused_of_last_days :
    sampleLate.records.availabilities.rows = [] ∧ sampleLate.records.recurrences.rows = []
      ∧ (∀ calendar ∈ sampleLate.records.calendars.rows, calendar.allowedHours.isValid)
      ∧ (sampleLate.perform .sample
          (.createAvailability "open" "ann" ⟨"9999-12-31", none, none, none⟩)).outcome
        = .error .beyondCalendar
      ∧ ((sampleLate.after sampleLateRun).perform .sample
          (.dateSummary "open" "9999-12-28")).outcome
        = .error .weekCutOff := by
  refine ⟨rfl, rfl, ?_, ?_, ?_⟩ <;> decide +kernel

end Board

end Rendezvous
