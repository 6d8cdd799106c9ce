import Rendezvous.Proofs.Addressees
import Rendezvous.Proofs.Tokens

/-!
# Confirmed addresses

A participant who gives an address is sent a token, and the address is confirmed when the last
token that the participant was sent is presented in time.  A token that another one followed is
worthless, and presenting a good one again changes nothing.
-/

namespace Rendezvous

/-! ## Requests -/

/-- A token that was sent to a participant for an address, in answer to an operation on a
board, and what is asked of the board later. -/
structure Request where
  address : String
  token : String
  before : Board
  surroundings : Surroundings
  operation : Operation
  later : List (Surroundings × Operation)

namespace Request

/-- The board on which the token stands. -/
def board (request : Request) : Board :=
  (request.before.perform request.surroundings request.operation).board

/-- When the token stops being good. -/
def deadline (request : Request) : Int :=
  request.before.now.micros
    + request.surroundings.settings.verificationHours * Instant.microsPerHour

end Request

/-- The requests to a participant along a run, in the order in which they were made. -/
def Board.requests (participantId : String) :
    Board → List (Surroundings × Operation) → List Request
  | _, [] => []
  | board, (surroundings, operation) :: rest =>
      let step := board.perform surroundings operation
      (step.asks participantId).map (fun asked =>
          ⟨asked.1, asked.2, board, surroundings, operation, rest⟩)
        ++ requests participantId step.board rest

/-- Whether a run presents a token no later than a deadline. -/
def Board.Presents (board : Board) (run : List (Surroundings × Operation)) (token : String)
    (deadline : Int) : Prop :=
  ∃ first surroundings rest, run = first ++ (surroundings, .verifyEmail token) :: rest
    ∧ (board.after first).now.micros ≤ deadline

/-- Whether the token of a request is presented in time after it was sent. -/
def Request.Confirmed (request : Request) : Prop :=
  request.board.Presents request.later request.token request.deadline

namespace Board

theorem presents_cons {board : Board} {surroundings : Surroundings} {operation : Operation}
    {rest : List (Surroundings × Operation)} {token : String} {deadline : Int} :
    board.Presents ((surroundings, operation) :: rest) token deadline
      ↔ (operation = .verifyEmail token ∧ board.now.micros ≤ deadline)
        ∨ (board.perform surroundings operation).board.Presents rest token deadline := by
  constructor
  · rintro ⟨first, surroundings', rest', same, timely⟩
    cases first with
    | nil =>
      cases same
      exact .inl ⟨rfl, timely⟩
    | cons head tail =>
      cases same
      exact .inr ⟨tail, surroundings', rest', rfl, timely⟩
  · rintro (⟨rfl, timely⟩ | ⟨first, surroundings', rest', rfl, timely⟩)
    · exact ⟨[], surroundings, rest, rfl, timely⟩
    · exact ⟨(surroundings, operation) :: first, surroundings', rest', rfl, timely⟩

theorem not_presents_nil {board : Board} {token : String} {deadline : Int} :
    ¬ board.Presents [] token deadline := by
  rintro ⟨first, surroundings, rest, same, -⟩
  cases first <;> cases same

end Board

/-- Whether a run presents the token of a participant in time. -/
def Participant.Presented (participant : Participant) (board : Board)
    (run : List (Surroundings × Operation)) : Prop :=
  ∃ token expiry, participant.verificationToken = some token
    ∧ participant.verificationExpiresAt = some expiry ∧ board.Presents run token expiry.micros

namespace Participant

variable {participant later : Participant} {surroundings : Surroundings} {board : Board}
  {operation : Operation} {rest : List (Surroundings × Operation)}

theorem presented_cons :
    participant.Presented board ((surroundings, operation) :: rest)
      ↔ participant.Timely board operation
        ∨ participant.Presented (board.perform surroundings operation).board rest := by
  constructor
  · rintro ⟨token, expiry, held, ends, presents⟩
    rcases Board.presents_cons.mp presents with ⟨now, timely⟩ | later
    · exact .inl ⟨token, expiry, held, ends, now, timely⟩
    · exact .inr ⟨token, expiry, held, ends, later⟩
  · rintro (⟨token, expiry, held, ends, now, timely⟩ | ⟨token, expiry, held, ends, later⟩)
    · exact ⟨token, expiry, held, ends, Board.presents_cons.mpr (.inl ⟨now, timely⟩)⟩
    · exact ⟨token, expiry, held, ends, Board.presents_cons.mpr (.inr later)⟩

theorem not_presented_nil : ¬ participant.Presented board [] := by
  rintro ⟨token, expiry, -, -, presents⟩
  exact Board.not_presents_nil presents

theorem Keeps.presented_iff (keeps : participant.Keeps later) :
    later.Presented board rest ↔ participant.Presented board rest := by
  rw [Presented, Presented, keeps.token, keeps.expiry]

end Participant

namespace Board

variable {surroundings : Surroundings} {board : Board} {operation : Operation}
  {participant : Participant}

/-! ## Runs -/

/-- Nobody joins along a run. -/
theorem exists_earlier_after {run : List (Surroundings × Operation)} {later : Participant}
    (inside : later ∈ (board.after run).records.participants.rows) :
    ∃ earlier ∈ board.records.participants.rows, earlier.id = later.id := by
  induction run generalizing board with
  | nil => exact ⟨later, inside, rfl⟩
  | cons head rest ih =>
    obtain ⟨surroundings, operation⟩ := head
    obtain ⟨middle, inside, same⟩ := ih inside
    have correspondence := (perform_change surroundings board operation).correspondence
    obtain ⟨earlier, stored, same'⟩ := correspondence.exists_earlier inside
    exact ⟨earlier, stored, same'.trans same⟩

variable {participantId : String} {rest : List (Surroundings × Operation)}

theorem requests_of_unasked
    (unasked : (board.perform surroundings operation).asks participantId = []) :
    board.requests participantId ((surroundings, operation) :: rest)
      = (board.perform surroundings operation).board.requests participantId rest := by
  rw [requests, unasked, List.map_nil, List.nil_append]

theorem requests_of_asked {address token : String}
    (asked : (board.perform surroundings operation).asks participantId = [(address, token)]) :
    board.requests participantId ((surroundings, operation) :: rest)
      = ⟨address, token, board, surroundings, operation, rest⟩
        :: (board.perform surroundings operation).board.requests participantId rest := by
  rw [requests, asked, List.map_cons, List.map_nil, List.singleton_append]

/-- Who is asked nothing along a run stays as before, up to the address that is confirmed. -/
theorem Tokened.kept_after (tokened : board.Tokened)
    (stored : participant ∈ board.records.participants.rows)
    {run : List (Surroundings × Operation)} (unasked : board.requests participant.id run = []) :
    ∃ later ∈ (board.after run).records.participants.rows, participant.Keeps later
      ∧ (later.emailVerified = true
        ↔ participant.emailVerified = true ∨ participant.Presented board run) := by
  induction run generalizing board participant with
  | nil =>
    refine ⟨participant, stored, rfl, ?_⟩
    rw [or_iff_left Participant.not_presented_nil]
  | cons head rest ih =>
    obtain ⟨surroundings, operation⟩ := head
    rw [requests, List.append_eq_nil_iff, List.map_eq_nil_iff] at unasked
    obtain ⟨middle, stored', keeps, verified⟩ := tokened.kept_perform stored unasked.1
    have tokened' := (perform_change surroundings board operation).correspondence.tokened tokened
    obtain ⟨later, inside, keeps', verified'⟩ := ih tokened' stored' (keeps.id ▸ unasked.2)
    refine ⟨later, inside, keeps.trans keeps', ?_⟩
    rw [verified', verified, keeps.presented_iff, Participant.presented_cons, or_assoc]

/-- The last request along a run decides about the address of a participant. -/
theorem Tokened.asked_after (tokened : board.Tokened)
    (stored : participant ∈ board.records.participants.rows)
    {run : List (Surroundings × Operation)} {request : Request}
    (last : (board.requests participant.id run).getLast? = some request) :
    ∃ later ∈ (board.after run).records.participants.rows, later.id = participant.id
      ∧ later.email = some request.address ∧ later.verificationToken = some request.token
      ∧ (later.emailVerified = true ↔ request.Confirmed) := by
  induction run generalizing board participant with
  | nil => cases last
  | cons head rest ih =>
    obtain ⟨surroundings, operation⟩ := head
    have correspondence := (perform_change surroundings board operation).correspondence
    have tokened' := correspondence.tokened tokened
    by_cases unasked : (board.perform surroundings operation).asks participant.id = []
    · obtain ⟨middle, stored', keeps, -⟩ := tokened.kept_perform stored unasked
      rw [requests_of_unasked unasked, ← keeps.id] at last
      obtain ⟨later, inside, same, settled⟩ := ih tokened' stored' last
      exact ⟨later, inside, same.trans keeps.id, settled⟩
    · obtain ⟨address, expiry, -, asked, lasts, stored'⟩ :=
        correspondence.mem_of_asked stored unasked
      rw [requests_of_asked asked] at last
      cases others : (board.perform surroundings operation).board.requests participant.id rest with
      | nil =>
        rw [others] at last
        cases last
        obtain ⟨later, inside, keeps, verified⟩ := tokened'.kept_after stored' others
        refine ⟨later, inside, keeps.id, keeps.email, keeps.token, ?_⟩
        rw [verified, Request.Confirmed, Request.deadline]
        constructor
        · rintro (already | ⟨token, expiry', held, ends, presents⟩)
          · cases already
          · cases held
            cases ends
            exact lasts ▸ presents
        · exact fun presents => .inr ⟨_, expiry, rfl, rfl, lasts.symm ▸ presents⟩
      | cons next more =>
        rw [others, List.getLast?_cons_cons, ← others] at last
        obtain ⟨later, inside, same, settled⟩ := ih tokened' stored' last
        exact ⟨later, inside, same, settled⟩

theorem Tokened.retired_of_held (tokened : board.Tokened)
    (stored : participant ∈ board.records.participants.rows) {token : String}
    (held : participant.verificationToken = some token)
    {run : List (Surroundings × Operation)} (again : board.requests participant.id run ≠ []) :
    (board.after run).Retired token := by
  induction run generalizing board participant with
  | nil => exact absurd rfl again
  | cons head rest ih =>
    obtain ⟨surroundings, operation⟩ := head
    have correspondence := (perform_change surroundings board operation).correspondence
    by_cases unasked : (board.perform surroundings operation).asks participant.id = []
    · obtain ⟨middle, stored', keeps, -⟩ := tokened.kept_perform stored unasked
      rw [requests_of_unasked unasked, ← keeps.id] at again
      exact ih (correspondence.tokened tokened) stored' (keeps.token.trans held) again
    · exact (correspondence.retires tokened stored held unasked).after rest

/-- Every request but the last is one whose token nobody holds. -/
theorem Tokened.retired_after (tokened : board.Tokened)
    (stored : participant ∈ board.records.participants.rows)
    {run : List (Surroundings × Operation)} {request : Request}
    (earlier : request ∈ (board.requests participant.id run).dropLast) :
    (board.after run).Retired request.token := by
  induction run generalizing board participant with
  | nil => cases earlier
  | cons head rest ih =>
    obtain ⟨surroundings, operation⟩ := head
    have correspondence := (perform_change surroundings board operation).correspondence
    have tokened' := correspondence.tokened tokened
    by_cases unasked : (board.perform surroundings operation).asks participant.id = []
    · obtain ⟨middle, stored', keeps, -⟩ := tokened.kept_perform stored unasked
      rw [requests_of_unasked unasked, ← keeps.id] at earlier
      exact ih tokened' stored' earlier
    · obtain ⟨address, expiry, -, asked, lasts, stored'⟩ :=
        correspondence.mem_of_asked stored unasked
      rw [requests_of_asked asked] at earlier
      cases others : (board.perform surroundings operation).board.requests participant.id rest with
      | nil =>
        rw [others] at earlier
        cases earlier
      | cons next more =>
        rw [others, List.dropLast_cons_cons, ← others, List.mem_cons] at earlier
        rcases earlier with rfl | earlier
        · have again : (board.perform surroundings operation).board.requests participant.id rest
              ≠ [] := others ▸ List.cons_ne_nil _ _
          exact tokened'.retired_of_held stored' rfl again
        · exact ih tokened' stored' earlier

/-- Every request asks a participant who is there. -/
theorem asks_of_mem_requests {run : List (Surroundings × Operation)} {request : Request}
    (made : request ∈ board.requests participantId run) :
    ∃ participant ∈ request.before.records.participants.rows, participant.id = participantId
      ∧ request.operation.Asks participant request.address := by
  induction run generalizing board with
  | nil => cases made
  | cons head rest ih =>
    obtain ⟨surroundings, operation⟩ := head
    rw [requests, List.mem_append, List.mem_map] at made
    rcases made with ⟨⟨address, token⟩, asks, rfl⟩ | made
    · cases (perform_change surroundings board operation).correspondence with
      | none keeps silent => exact absurd asks (silent participantId ▸ List.not_mem_nil)
      | @request participant address expiry asked stored lasts anchored participants tokens now
          asked' =>
        rw [asked'] at asks
        split at asks
        next here =>
          cases List.mem_singleton.mp asks
          exact ⟨participant, stored, here, asked⟩
        next => cases asks
      | confirm presented found participants tokens now silent =>
        exact absurd asks (silent participantId ▸ List.not_mem_nil)
    · exact ih made

/-- A token that was good changes nothing when it is presented again, unless its holder was
asked again. -/
theorem Tokened.verifyEmail_again (tokened : board.Tokened) {token : String}
    (verifies : (board.verifyEmail token).outcome = .ok participant)
    (surroundings : Surroundings)
    (unasked : (board.verifyEmail token).board.requests participant.id rest = []) :
    (board.after ((surroundings, .verifyEmail token) :: rest)).verifyEmail token
      = .answer (board.after ((surroundings, .verifyEmail token) :: rest)) participant := by
  obtain ⟨stored, held, verified⟩ := mem_of_verifyEmail verifies
  have change := perform_change surroundings board (.verifyEmail token)
  have tokened' := change.correspondence.tokened tokened
  obtain ⟨later, inside, keeps, verified'⟩ := tokened'.kept_after stored unasked
  have same : later = participant := by
    rw [keeps, verified'.mpr (.inl verified), ← verified]
  exact (tokened'.after rest).verifyEmail_of_verified (same ▸ inside) held verified

end Board

/-! ## Who is written to -/

/-- Whoever is written to is the owner, or somebody whose address is confirmed. -/
theorem Records.exists_of_mem_recipients {records : Records} {calendar : Calendar}
    {config : NotifyConfig} {day : Date} {recipient : Recipient}
    (written : recipient ∈ records.recipients calendar config day)
    (guest : recipient.isOwner = false) :
    ∃ participant ∈ records.participants.rows, recipient.recipientId = participant.id
      ∧ participant.email = some recipient.email ∧ participant.emailVerified = true := by
  obtain ⟨participant, found, same⟩ :=
    (collected_recipients records calendar config day).guest recipient written guest
  have reaches := reaches_of_find? found
  exact ⟨participant, List.mem_of_find?_eq_some found, congrArg Recipient.recipientId same,
    reaches.confirmed, reaches.verified⟩

/-! ## Addresses that are confirmed -/

/-- What a run makes of the addresses of the participants. -/
structure Board.SettlesAddresses (board : Board) (run : List (Surroundings × Operation)) :
    Prop where
  /-- Who is never asked has no confirmed address. -/
  unasked : ∀ participant ∈ (board.after run).records.participants.rows,
    board.requests participant.id run = [] →
      participant.emailVerified = false ∧ participant.verificationToken = none
  /-- The last request tells the address, and whether it is confirmed. -/
  asked : ∀ participant ∈ (board.after run).records.participants.rows, ∀ request,
    (board.requests participant.id run).getLast? = some request →
      participant.email = some request.address
      ∧ participant.verificationToken = some request.token
      ∧ (participant.emailVerified = true ↔ request.Confirmed)
  /-- A request is made for an address that is given then, or was there before. -/
  given : ∀ participantId, ∀ request ∈ board.requests participantId run,
    ∃ participant ∈ request.before.records.participants.rows, participant.id = participantId
      ∧ request.operation.Asks participant request.address
  /-- A token that another one followed is refused. -/
  superseded : ∀ participant ∈ (board.after run).records.participants.rows,
    ∀ request ∈ (board.requests participant.id run).dropLast,
      (board.after run).verifyEmail request.token
        = .fail (board.after run) (.refused .invalidVerificationToken)
  /-- A token that was good changes nothing when it is presented again, in time or not, unless
  its holder was asked again. -/
  repeated : ∀ first surroundings token rest,
    run = first ++ (surroundings, .verifyEmail token) :: rest →
      ∀ participant, ((board.after first).verifyEmail token).outcome = .ok participant →
        ((board.after first).verifyEmail token).board.requests participant.id rest = [] →
          (board.after run).verifyEmail token = .answer (board.after run) participant
  /-- Nobody but the owner is written to at an address that is not confirmed. -/
  written : ∀ calendar config day,
    ∀ recipient ∈ (board.after run).records.recipients calendar config day,
      recipient.isOwner = false →
        ∃ request, (board.requests recipient.recipientId run).getLast? = some request
          ∧ recipient.email = request.address ∧ request.Confirmed

namespace Board

theorem tokened_of_tokenless {board : Board}
    (tokenless : ∀ participant ∈ board.records.participants.rows,
      participant.verificationToken = none) : board.Tokened := by
  refine ⟨fun participant inside token held => ?_, fun participant inside _ _ token held _ => ?_,
    fun participant inside token held => ?_⟩
  · cases (tokenless participant inside).symm.trans held
  · cases (tokenless participant inside).symm.trans held
  · cases (tokenless participant inside).symm.trans held

/-- Who is asked nothing along a run was there before it, and kept all but the confirmation. -/
theorem Tokened.keeps_of_unasked {board : Board} (tokened : board.Tokened)
    {run : List (Surroundings × Operation)} {participant : Participant}
    (inside : participant ∈ (board.after run).records.participants.rows)
    (unasked : board.requests participant.id run = []) :
    ∃ earlier ∈ board.records.participants.rows, earlier.Keeps participant
      ∧ (participant.emailVerified = true
        ↔ earlier.emailVerified = true ∨ earlier.Presented board run) := by
  obtain ⟨earlier, stored, same⟩ := exists_earlier_after inside
  obtain ⟨later, inside', keeps, verified⟩ := tokened.kept_after stored (same ▸ unasked)
  have here := Table.eq_of_key inside' inside (keeps.id.trans same)
  subst here
  exact ⟨earlier, stored, keeps, verified⟩

/-- The record of who is asked along a run tells of the last request. -/
theorem Tokened.settled_of_asked {board : Board} (tokened : board.Tokened)
    {run : List (Surroundings × Operation)} {participant : Participant} {request : Request}
    (inside : participant ∈ (board.after run).records.participants.rows)
    (last : (board.requests participant.id run).getLast? = some request) :
    participant.email = some request.address
      ∧ participant.verificationToken = some request.token
      ∧ (participant.emailVerified = true ↔ request.Confirmed) := by
  obtain ⟨earlier, stored, same⟩ := exists_earlier_after inside
  obtain ⟨later, inside', same', settled⟩ := tokened.asked_after stored (same ▸ last)
  have here := Table.eq_of_key inside' inside (same'.trans same)
  exact here ▸ settled

/-- From a board on which nobody has a confirmed address or a token, every run confirms just the
addresses whose last token is presented in time. -/
theorem run_settles_addresses (board : Board)
    (fresh : ∀ participant ∈ board.records.participants.rows,
      participant.emailVerified = false ∧ participant.verificationToken = none)
    (run : List (Surroundings × Operation)) : board.SettlesAddresses run := by
  have tokened := tokened_of_tokenless fun participant inside => (fresh participant inside).2
  have unasked : ∀ participant ∈ (board.after run).records.participants.rows,
      board.requests participant.id run = [] →
        participant.emailVerified = false ∧ participant.verificationToken = none := by
    intro participant inside unasked
    obtain ⟨earlier, stored, keeps, verified⟩ := tokened.keeps_of_unasked inside unasked
    obtain ⟨unverified, tokenless⟩ := fresh earlier stored
    refine ⟨Bool.eq_false_iff.mpr fun verified' => ?_, keeps.token.trans tokenless⟩
    rcases verified.mp verified' with already | ⟨token, -, held, -⟩
    · cases unverified.symm.trans already
    · cases tokenless.symm.trans held
  refine ⟨unasked, fun participant inside request last => tokened.settled_of_asked inside last,
    fun participantId request made => asks_of_mem_requests made, ?_, ?_, ?_⟩
  · intro participant inside request earlier
    obtain ⟨earliest, stored, same⟩ := exists_earlier_after inside
    exact (tokened.retired_after stored (same ▸ earlier)).verifyEmail
  · rintro first surroundings token rest rfl participant verifies unasked
    rw [after_append]
    exact (tokened.after first).verifyEmail_again verifies surroundings unasked
  · intro calendar config day recipient written guest
    obtain ⟨participant, inside, same, address, verified⟩ :=
      Records.exists_of_mem_recipients written guest
    rw [same]
    cases last : (board.requests participant.id run).getLast? with
    | none =>
      have unverified := (unasked participant inside (List.getLast?_eq_none_iff.mp last)).1
      cases unverified.symm.trans verified
    | some request =>
      obtain ⟨given, -, confirmed⟩ := tokened.settled_of_asked inside last
      exact ⟨request, rfl, Option.some.inj (address.symm.trans given), confirmed.mp verified⟩

/-- A participant confirms her second address, and another comes a day too late. -/
def sampleLetters : List (Surroundings × Operation) :=
  [.addEmail "open" "ann" " ann@old ", .addEmail "open" "ann" "ann@new",
    .verifyEmail (Fresh.token 1), .verifyEmail (Fresh.token 2), .addEmail "open" "bob" "bob@x",
    .advance (25 * Instant.microsPerHour), .verifyEmail (Fresh.token 3)].map (.sample, ·)

theorem run_settles_addresses_sample :
    (∀ participant ∈ sample.records.participants.rows,
      participant.emailVerified = false ∧ participant.verificationToken = none)
    ∧ (sample.requests "ann" sampleLetters).map Request.address = ["ann@old", "ann@new"]
    ∧ (sample.after sampleLetters).records.participants.rows.map (fun participant =>
        (participant.email, participant.emailVerified))
      = [(some "ann@new", true), (some "bob@x", false)]
    ∧ sample.SettlesAddresses sampleLetters := by
  have fresh : ∀ participant ∈ sample.records.participants.rows,
      participant.emailVerified = false ∧ participant.verificationToken = none := by
    decide +kernel
  exact ⟨fresh, by decide +kernel, by decide +kernel, run_settles_addresses sample fresh _⟩

end Board

end Rendezvous
