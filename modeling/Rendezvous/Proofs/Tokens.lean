import Rendezvous.Proofs.Changes
import Rendezvous.Proofs.Names

/-!
# Tokens

A participant is asked to confirm an address with a token that nobody had before, and the token
that the participant had is retired.  Whoever is not asked stays as before, but for the address
that a token confirms which is presented in time.
-/

namespace Rendezvous

/-! ## Asking -/

/-- The address and the token of an event that asks a participant to confirm. -/
def Event.asks? (participantId : String) : Event → Option (String × String)
  | .verificationRequested id address _ _ token =>
      if id = participantId then some (address, token) else none
  | .availabilityChanged .. => none

/-- The addresses and tokens by which a step asks a participant to confirm. -/
def Step.asks {α : Type} (step : Step α) (participantId : String) : List (String × String) :=
  step.events.filterMap (Event.asks? participantId)

theorem Step.asks_eq_nil {α : Type} {step : Step α} (silent : step.events = [])
    (participantId : String) : step.asks participantId = [] := by
  rw [Step.asks, silent, List.filterMap_nil]

/-! ## Participants who keep their tokens -/

/-- Whether nothing became of a participant but that an address may have been confirmed. -/
def Participant.Keeps (participant later : Participant) : Prop :=
  later = { participant with emailVerified := later.emailVerified }

/-- Whether an operation presents the token of a participant in time. -/
def Participant.Timely (participant : Participant) (board : Board) (operation : Operation) :
    Prop :=
  ∃ token expiry, participant.verificationToken = some token
    ∧ participant.verificationExpiresAt = some expiry
    ∧ operation = .verifyEmail token ∧ board.now.micros ≤ expiry.micros

namespace Participant.Keeps

variable {participant later : Participant}

theorem id (keeps : participant.Keeps later) : later.id = participant.id := by
  rw [keeps]

theorem email (keeps : participant.Keeps later) : later.email = participant.email := by
  rw [keeps]

theorem token (keeps : participant.Keeps later) :
    later.verificationToken = participant.verificationToken := by
  rw [keeps]

theorem expiry (keeps : participant.Keeps later) :
    later.verificationExpiresAt = participant.verificationExpiresAt := by
  rw [keeps]

theorem trans {last : Participant} (first : participant.Keeps later)
    (second : later.Keeps last) : participant.Keeps last := by
  rw [Keeps] at first
  rw [first] at second
  exact second

end Participant.Keeps

/-! ## What a step does to addresses -/

/-- Whether two boards hold the same participants, tokens drawn later aside. -/
structure Board.KeepsTokens (board later : Board) : Prop where
  participants : later.records.participants = board.records.participants
  tokens : board.tokens ≤ later.tokens
  anchored : later.now.isAnchored = board.now.isAnchored

/-- What a step does to the addresses and tokens of the participants. -/
inductive Board.Correspondence {α : Type} (surroundings : Surroundings) (board : Board)
    (operation : Operation) (step : Step α) : Prop where
  | none (keeps : board.KeepsTokens step.board) (silent : ∀ id, step.asks id = [])
  | request {participant : Participant} {address : String} {expiry : Instant}
      (asked : operation.Asks participant address)
      (stored : participant ∈ board.records.participants.rows)
      (lasts : expiry.micros = board.now.micros
        + surroundings.settings.verificationHours * Instant.microsPerHour)
      (anchored : expiry.isAnchored = board.now.isAnchored)
      (participants : step.board.records.participants = board.records.participants.put
        (participant.asked address (Fresh.token (board.tokens + 1)) expiry))
      (tokens : step.board.tokens = board.tokens + 1)
      (now : step.board.now = board.now)
      (asks : ∀ id, step.asks id
        = if participant.id = id then [(address, Fresh.token (board.tokens + 1))] else [])
  | confirm {token : String} {participant : Participant}
      (presented : operation = .verifyEmail token)
      (found : board.records.participantVerifying? token = some participant)
      (participants : step.board.records.participants
        = board.records.participants.put participant.confirmed)
      (tokens : step.board.tokens = board.tokens)
      (now : step.board.now = board.now)
      (silent : ∀ id, step.asks id = [])

/-- Whether no two participants hold the same token, and every token is a number that was drawn
and ends at a moment. -/
structure Board.Tokened (board : Board) : Prop where
  made : ∀ participant ∈ board.records.participants.rows, ∀ token,
    participant.verificationToken = some token →
      ∃ number ≤ board.tokens, token = Fresh.token number
  own : ∀ participant ∈ board.records.participants.rows,
    ∀ other ∈ board.records.participants.rows, ∀ token,
      participant.verificationToken = some token → other.verificationToken = some token →
        participant.id = other.id
  ends : ∀ participant ∈ board.records.participants.rows, ∀ token,
    participant.verificationToken = some token →
      ∃ expiry, participant.verificationExpiresAt = some expiry
        ∧ expiry.isAnchored = board.now.isAnchored

/-- Whether a token was drawn and no participant holds it any more. -/
structure Board.Retired (board : Board) (token : String) : Prop where
  made : ∃ number ≤ board.tokens, token = Fresh.token number
  unheld : ∀ participant ∈ board.records.participants.rows,
    participant.verificationToken ≠ some token

namespace Board

variable {α : Type} {surroundings : Surroundings} {board : Board} {operation : Operation}
  {step : Step α} {participant : Participant}

theorem Correspondence.of_reaches {later : Board} (reaches : step.Reaches later)
    (keeps : board.KeepsTokens later) : board.Correspondence surroundings operation step := by
  refine .none ?_ (Step.asks_eq_nil reaches.events)
  rw [reaches.board]
  exact keeps

theorem Correspondence.of_publishes {changed : Board} {calendarId : String} {day : Date}
    {previous : Int}
    (publishes : step.Publishes surroundings changed
      (.availabilityChanged calendarId day previous))
    (keeps : board.KeepsTokens changed) : board.Correspondence surroundings operation step := by
  obtain ⟨log, outages, -, reached⟩ := publishes.board
  refine .none ?_ fun id => ?_
  · rw [reached]
    exact ⟨keeps.participants, keeps.tokens, keeps.anchored⟩
  · rw [Step.asks, publishes.events]
    rfl

theorem expiry?_eq_some {expiry : Instant} (found : board.expiry? surroundings = some expiry) :
    expiry.micros = board.now.micros
        + surroundings.settings.verificationHours * Instant.microsPerHour
      ∧ expiry.isAnchored = board.now.isAnchored := by
  obtain ⟨span, spans, shifted⟩ := Option.bind_eq_some_iff.mp found
  rw [Instant.micros_of_shift? shifted, Instant.eq_of_span? spans]
  exact ⟨rfl, Instant.isAnchored_of_shift? shifted⟩

theorem Change.correspondence (change : board.Change surroundings operation step) :
    board.Correspondence surroundings operation step := by
  have same : board.KeepsTokens board := ⟨rfl, Nat.le_refl _, rfl⟩
  cases change with
  | nothing tokens outages more fewer reaches =>
    exact .of_reaches reaches ⟨rfl, more, rfl⟩
  | enter number asked decided absent next publishes =>
    exact .of_publishes publishes ⟨rfl, same.tokens, rfl⟩
  | revise asked decided publishes => exact .of_publishes publishes ⟨rfl, same.tokens, rfl⟩
  | withdraw asked decided publishes => exact .of_publishes publishes ⟨rfl, same.tokens, rfl⟩
  | agree number asked located decided next reaches =>
    exact .of_reaches reaches ⟨rfl, same.tokens, rfl⟩
  | amend asked owned decided reaches => exact .of_reaches reaches ⟨rfl, same.tokens, rfl⟩
  | drop asked owned reaches => exact .of_reaches reaches ⟨rfl, same.tokens, rfl⟩
  | exclude number asked decided absent next reaches =>
    exact .of_reaches reaches ⟨rfl, same.tokens, rfl⟩
  | restore asked decided reaches =>
    refine .of_reaches reaches ⟨?_, same.tokens, rfl⟩
    dsimp only
    rw [Records.removeExclusion]
    split <;> rfl
  | @request participant address expiry asked stored lasts publishes =>
    obtain ⟨log, outages, -, reached⟩ := publishes.board
    obtain ⟨lasts, anchored⟩ := expiry?_eq_some lasts
    have changed := congrArg (·.records.participants) reached
    have drawn := congrArg Board.tokens reached
    have now := congrArg Board.now reached
    refine .request asked stored lasts anchored changed drawn now fun id => ?_
    by_cases here : participant.id = id
    · simp [Step.asks, publishes.events, Event.asks?, here]
    · simp [Step.asks, publishes.events, Event.asks?, here]
  | confirm asked found unverified timely reaches =>
    have changed := congrArg (·.records.participants) reaches.board
    have drawn := congrArg Board.tokens reaches.board
    have now := congrArg Board.now reaches.board
    exact .confirm asked found changed drawn now (Step.asks_eq_nil reaches.events)
  | check asked events follows =>
    obtain ⟨log, outages, -, reached⟩ := board.board_checkThreshold surroundings _ _ _
    refine .none ?_ (Step.asks_eq_nil events)
    rw [follows.board, reached]
    exact ⟨rfl, same.tokens, rfl⟩
  | clean asked retained reaches => exact .of_reaches reaches ⟨rfl, same.tokens, rfl⟩
  | advance asked moved reaches =>
    obtain ⟨span, -, shifted⟩ := Option.bind_eq_some_iff.mp moved
    exact .of_reaches reaches ⟨rfl, same.tokens, Instant.isAnchored_of_shift? shifted⟩

/-! ## Tokens of their own -/

theorem token_ne_next {number : Nat} (drawn : number ≤ board.tokens) :
    Fresh.token number ≠ Fresh.token (board.tokens + 1) := by
  intro same
  have equal := Fresh.numeral_injective Fresh.tokenWidth same
  omega

/-- The next token is nobody's yet. -/
theorem Tokened.ne_next (tokened : board.Tokened)
    (stored : participant ∈ board.records.participants.rows) {token : String}
    (held : participant.verificationToken = some token) :
    token ≠ Fresh.token (board.tokens + 1) := by
  obtain ⟨number, drawn, rfl⟩ := tokened.made participant stored token held
  exact token_ne_next drawn

theorem Correspondence.tokens_le
    (correspondence : board.Correspondence surroundings operation step) :
    board.tokens ≤ step.board.tokens := by
  cases correspondence with
  | none keeps silent => exact keeps.tokens
  | request asked stored lasts anchored participants tokens now asks => omega
  | confirm presented found participants tokens now silent => omega

theorem Correspondence.isAnchored_now
    (correspondence : board.Correspondence surroundings operation step) :
    step.board.now.isAnchored = board.now.isAnchored := by
  cases correspondence with
  | none keeps silent => exact keeps.anchored
  | request asked stored lasts anchored participants tokens now asks => rw [now]
  | confirm presented found participants tokens now silent => rw [now]

theorem mem_of_participantVerifying? {records : Records} {token : String}
    {participant : Participant} (found : records.participantVerifying? token = some participant) :
    participant ∈ records.participants.rows ∧ participant.verificationToken = some token :=
  ⟨List.mem_of_find?_eq_some found, by simpa using List.find?_some found⟩

/-- A row is kept as it was, or just asked with the next token. -/
theorem Correspondence.row
    (correspondence : board.Correspondence surroundings operation step) {later : Participant}
    (inside : later ∈ step.board.records.participants.rows) :
    (∃ earlier ∈ board.records.participants.rows, earlier.Keeps later)
    ∨ (later.verificationToken = some (Fresh.token (board.tokens + 1))
      ∧ step.board.tokens = board.tokens + 1
      ∧ (∃ expiry, later.verificationExpiresAt = some expiry
        ∧ expiry.isAnchored = board.now.isAnchored)
      ∧ step.asks later.id ≠ []) := by
  cases correspondence with
  | none keeps silent =>
    rw [keeps.participants] at inside
    exact .inl ⟨later, inside, rfl⟩
  | request asked stored lasts anchored participants tokens now asks =>
    rw [participants, Table.mem_put] at inside
    rcases inside with rfl | ⟨inside, -⟩
    · refine .inr ⟨rfl, tokens, ⟨_, rfl, anchored⟩, ?_⟩
      rw [asks, ite_ne_right_iff]
      exact ⟨rfl, List.cons_ne_nil _ _⟩
    · exact .inl ⟨later, inside, rfl⟩
  | confirm presented found participants tokens now silent =>
    rw [participants, Table.mem_put] at inside
    rcases inside with rfl | ⟨inside, -⟩
    · exact .inl ⟨_, (mem_of_participantVerifying? found).1, rfl⟩
    · exact .inl ⟨later, inside, rfl⟩

theorem Correspondence.asks_unique
    (correspondence : board.Correspondence surroundings operation step) {a b : String}
    (first : step.asks a ≠ []) (second : step.asks b ≠ []) : a = b := by
  cases correspondence with
  | none keeps silent => exact absurd (silent a) first
  | request asked stored lasts anchored participants tokens now asks =>
    rw [asks, ite_ne_right_iff] at first second
    exact first.1.symm.trans second.1
  | confirm presented found participants tokens now silent => exact absurd (silent a) first

theorem Correspondence.tokened
    (correspondence : board.Correspondence surroundings operation step) (tokened : board.Tokened) :
    step.board.Tokened := by
  have more := correspondence.tokens_le
  refine ⟨fun later inside token held => ?_, fun later inside other inside' token held held' => ?_,
    fun later inside token held => ?_⟩
  · rcases correspondence.row inside with ⟨earlier, stored, keeps⟩ | ⟨next, tokens, -, -⟩
    · obtain ⟨number, drawn, rfl⟩ := tokened.made earlier stored token (keeps.token ▸ held)
      exact ⟨number, Nat.le_trans drawn more, rfl⟩
    · refine ⟨board.tokens + 1, Nat.le_of_eq tokens.symm, ?_⟩
      exact Option.some.inj (held.symm.trans next)
  · rcases correspondence.row inside with ⟨earlier, stored, keeps⟩ | ⟨next, -, -, asked⟩
    · have held := keeps.token ▸ held
      rcases correspondence.row inside' with ⟨earlier', stored', keeps'⟩ | ⟨next, -, -, -⟩
      · rw [keeps.id, keeps'.id]
        exact tokened.own earlier stored earlier' stored' token held (keeps'.token ▸ held')
      · exact absurd (Option.some.inj (held'.symm.trans next)) (tokened.ne_next stored held)
    · rcases correspondence.row inside' with ⟨earlier', stored', keeps'⟩ | ⟨-, -, -, asked'⟩
      · have held' := keeps'.token ▸ held'
        exact absurd (Option.some.inj (held.symm.trans next)) (tokened.ne_next stored' held')
      · exact correspondence.asks_unique asked asked'
  · rw [correspondence.isAnchored_now]
    rcases correspondence.row inside with ⟨earlier, stored, keeps⟩ | ⟨-, -, lasts, -⟩
    · rw [keeps.expiry]
      exact tokened.ends earlier stored token (keeps.token ▸ held)
    · exact lasts

theorem Correspondence.retired {token : String}
    (correspondence : board.Correspondence surroundings operation step)
    (retired : board.Retired token) :
    step.board.Retired token := by
  obtain ⟨number, drawn, rfl⟩ := retired.made
  refine ⟨⟨number, Nat.le_trans drawn correspondence.tokens_le, rfl⟩, fun later inside held => ?_⟩
  rcases correspondence.row inside with ⟨earlier, stored, keeps⟩ | ⟨next, -, -, -⟩
  · exact retired.unheld earlier stored (keeps.token ▸ held)
  · exact absurd (Option.some.inj (held.symm.trans next)) (token_ne_next drawn)

theorem Retired.after {token : String} (retired : board.Retired token)
    (run : List (Surroundings × Operation)) : (board.after run).Retired token := by
  induction run generalizing board with
  | nil => exact retired
  | cons head rest ih =>
    obtain ⟨surroundings, operation⟩ := head
    exact ih ((perform_change surroundings board operation).correspondence.retired retired)

theorem Tokened.after (tokened : board.Tokened) (run : List (Surroundings × Operation)) :
    (board.after run).Tokened := by
  induction run generalizing board with
  | nil => exact tokened
  | cons head rest ih =>
    obtain ⟨surroundings, operation⟩ := head
    exact ih ((perform_change surroundings board operation).correspondence.tokened tokened)

/-- Who is asked again holds the last token no longer. -/
theorem Correspondence.retires (tokened : board.Tokened)
    (correspondence : board.Correspondence surroundings operation step)
    {participant : Participant} (stored : participant ∈ board.records.participants.rows)
    {token : String} (held : participant.verificationToken = some token)
    (again : step.asks participant.id ≠ []) : step.board.Retired token := by
  obtain ⟨number, drawn, made⟩ := tokened.made participant stored token held
  refine ⟨⟨number, Nat.le_trans drawn correspondence.tokens_le, made⟩,
    fun later inside held' => ?_⟩
  cases correspondence with
  | none keeps silent => exact again (silent participant.id)
  | @request other address expiry asked stored' lasts anchored participants tokens now asks =>
    rw [participants, Table.mem_put] at inside
    rcases inside with rfl | ⟨inside, elsewhere⟩
    · exact tokened.ne_next stored held (Option.some.inj held').symm
    · rw [asks, ite_ne_right_iff] at again
      have same := tokened.own later inside participant stored token held' held
      exact elsewhere (same.trans again.1.symm)
  | confirm presented found participants tokens now silent => exact again (silent participant.id)

/-! ## Presenting a token -/

theorem Tokened.participantVerifying? (tokened : board.Tokened) {participant : Participant}
    (stored : participant ∈ board.records.participants.rows) {token : String}
    (held : participant.verificationToken = some token) :
    board.records.participantVerifying? token = some participant := by
  cases found : board.records.participantVerifying? token with
  | none =>
    have absent := List.find?_eq_none.mp found participant stored
    exact absurd held (by simpa using absent)
  | some other =>
    obtain ⟨inside, held'⟩ := mem_of_participantVerifying? found
    have same := tokened.own other inside participant stored token held' held
    rw [Table.eq_of_key inside stored same]

theorem Retired.verifyEmail {token : String} (retired : board.Retired token) :
    board.verifyEmail token = .fail board (.refused .invalidVerificationToken) := by
  have absent : board.records.participantVerifying? token = none := by
    refine List.find?_eq_none.mpr fun participant inside => ?_
    simpa using retired.unheld participant inside
  rw [Board.verifyEmail, absent]

theorem Tokened.verifyEmail_of_verified (tokened : board.Tokened) {participant : Participant}
    (stored : participant ∈ board.records.participants.rows) {token : String}
    (held : participant.verificationToken = some token)
    (verified : participant.emailVerified = true) :
    board.verifyEmail token = .answer board participant := by
  rw [Board.verifyEmail, tokened.participantVerifying? stored held]
  exact if_pos verified

theorem expired_of_anchored {participant : Participant} {expiry : Instant}
    (ends : participant.verificationExpiresAt = some expiry)
    (anchored : expiry.isAnchored = board.now.isAnchored) :
    board.expired participant = .ok (decide (expiry.micros < board.now.micros)) := by
  rw [expired, ends]
  simp only [Instant.compare?, if_pos anchored, Int.compare_eq_lt]

/-- A token that somebody holds confirms the address until its last moment. -/
theorem Tokened.verifyEmail_of_unverified (tokened : board.Tokened) {participant : Participant}
    (stored : participant ∈ board.records.participants.rows) {token : String}
    (held : participant.verificationToken = some token)
    (unverified : participant.emailVerified = false) {expiry : Instant}
    (ends : participant.verificationExpiresAt = some expiry) :
    board.verifyEmail token
      = if expiry.micros < board.now.micros then
          .fail board (.refused .invalidVerificationToken)
        else
          .answer (board.putParticipant participant.confirmed) participant.confirmed := by
  obtain ⟨expiry', ends', anchored⟩ := tokened.ends participant stored token held
  have same := Option.some.inj (ends'.symm.trans ends)
  subst same
  rw [Board.verifyEmail, tokened.participantVerifying? stored held]
  dsimp only
  rw [if_neg (Bool.eq_false_iff.mp unverified), expired_of_anchored ends anchored]
  by_cases late : expiry'.micros < board.now.micros
  · rw [decide_eq_true late, if_pos late]
  · rw [decide_eq_false late, if_neg late]
    rfl

theorem mem_of_verifyEmail {token : String}
    (verifies : (board.verifyEmail token).outcome = .ok participant) :
    participant ∈ (board.verifyEmail token).board.records.participants.rows
      ∧ participant.verificationToken = some token ∧ participant.emailVerified = true := by
  rw [verifyEmail] at verifies ⊢
  cases found : board.records.participantVerifying? token with
  | none =>
    rw [found] at verifies
    cases verifies
  | some present =>
    obtain ⟨stored, held⟩ := mem_of_participantVerifying? found
    rw [found] at verifies
    dsimp only at verifies ⊢
    split at verifies
    next verified =>
      cases verifies
      rw [if_pos verified]
      exact ⟨stored, held, verified⟩
    next unverified =>
      rw [if_neg unverified]
      split at verifies
      next => cases verifies
      next => cases verifies
      next timely =>
        cases verifies
        exact ⟨Table.mem_put.mpr (.inl rfl), held, rfl⟩

/-! ## Who is asked, and who is not -/

/-- Who is neither asked nor has a token presented stays as before. -/
theorem Correspondence.mem_of_unasked
    (correspondence : board.Correspondence surroundings operation step)
    (stored : participant ∈ board.records.participants.rows)
    (unasked : step.asks participant.id = [])
    (unpresented : ∀ token, participant.verificationToken = some token →
      operation ≠ .verifyEmail token) :
    participant ∈ step.board.records.participants.rows := by
  cases correspondence with
  | none keeps silent => exact keeps.participants ▸ stored
  | @request other address expiry asked stored' lasts anchored participants tokens now asks =>
    rw [participants, Table.mem_put]
    refine .inr ⟨stored, fun same => ?_⟩
    have here : other.id = participant.id := same.symm
    rw [asks, if_pos here] at unasked
    exact List.cons_ne_nil _ _ unasked
  | @confirm token other presented found participants tokens now silent =>
    rw [participants, Table.mem_put]
    refine .inr ⟨stored, fun same => ?_⟩
    obtain ⟨inside, held⟩ := mem_of_participantVerifying? found
    have here : participant = other := Table.eq_of_key stored inside same
    exact unpresented token (here ▸ held) presented

/-- Who has a token presented stays as before, up to the address that it confirms in time. -/
theorem Tokened.kept_verifyEmail (tokened : board.Tokened)
    (stored : participant ∈ board.records.participants.rows) {token : String}
    (held : participant.verificationToken = some token) :
    ∃ later ∈ (board.verifyEmail token).board.records.participants.rows,
      participant.Keeps later
      ∧ (later.emailVerified = true
        ↔ participant.emailVerified = true ∨ participant.Timely board (.verifyEmail token)) := by
  obtain ⟨expiry, ends, -⟩ := tokened.ends participant stored token held
  by_cases verified : participant.emailVerified = true
  · rw [tokened.verifyEmail_of_verified stored held verified]
    exact ⟨participant, stored, rfl, by simp [verified]⟩
  · have unverified := Bool.eq_false_iff.mpr verified
    rw [tokened.verifyEmail_of_unverified stored held unverified ends]
    by_cases late : expiry.micros < board.now.micros
    · rw [if_pos late]
      refine ⟨participant, stored, rfl, ?_⟩
      constructor
      · exact .inl
      · rintro (already | ⟨-, expiry', -, ends', -, timely⟩)
        · exact already
        · have same := Option.some.inj (ends'.symm.trans ends)
          exact absurd (same ▸ timely) (Int.not_le.mpr late)
    · rw [if_neg late]
      refine ⟨participant.confirmed, Table.mem_put.mpr (.inl rfl), rfl, ?_⟩
      exact iff_of_true rfl (.inr ⟨token, expiry, held, ends, rfl, Int.not_lt.mp late⟩)

/-- Who is not asked stays as before, up to the address that a timely token confirms. -/
theorem Tokened.kept_perform (tokened : board.Tokened)
    (stored : participant ∈ board.records.participants.rows)
    (unasked : (board.perform surroundings operation).asks participant.id = []) :
    ∃ later ∈ (board.perform surroundings operation).board.records.participants.rows,
      participant.Keeps later
      ∧ (later.emailVerified = true
        ↔ participant.emailVerified = true ∨ participant.Timely board operation) := by
  by_cases presented : ∃ token, participant.verificationToken = some token
      ∧ operation = .verifyEmail token
  · obtain ⟨token, held, rfl⟩ := presented
    exact tokened.kept_verifyEmail stored held
  · have unpresented : ∀ token, participant.verificationToken = some token →
        operation ≠ .verifyEmail token := fun token held same => presented ⟨token, held, same⟩
    refine ⟨participant, ?_, rfl, ?_⟩
    · exact (perform_change surroundings board operation).correspondence.mem_of_unasked stored
        unasked unpresented
    · constructor
      · exact .inl
      · rintro (already | ⟨token, expiry, held, -, same, -⟩)
        · exact already
        · exact absurd same (unpresented token held)

theorem Correspondence.exists_earlier
    (correspondence : board.Correspondence surroundings operation step) {later : Participant}
    (inside : later ∈ step.board.records.participants.rows) :
    ∃ earlier ∈ board.records.participants.rows, earlier.id = later.id := by
  cases correspondence with
  | none keeps silent => exact ⟨later, keeps.participants ▸ inside, rfl⟩
  | request asked stored lasts anchored participants tokens now asks =>
    rw [participants, Table.mem_put] at inside
    rcases inside with rfl | ⟨inside, -⟩
    · exact ⟨_, stored, rfl⟩
    · exact ⟨later, inside, rfl⟩
  | confirm presented found participants tokens now silent =>
    rw [participants, Table.mem_put] at inside
    rcases inside with rfl | ⟨inside, -⟩
    · exact ⟨_, (mem_of_participantVerifying? found).1, rfl⟩
    · exact ⟨later, inside, rfl⟩

/-- Who is asked holds the next token, for the address in question. -/
theorem Correspondence.mem_of_asked
    (correspondence : board.Correspondence surroundings operation step)
    (stored : participant ∈ board.records.participants.rows)
    (again : step.asks participant.id ≠ []) :
    ∃ address expiry, operation.Asks participant address
      ∧ step.asks participant.id = [(address, Fresh.token (board.tokens + 1))]
      ∧ expiry.micros = board.now.micros
        + surroundings.settings.verificationHours * Instant.microsPerHour
      ∧ participant.asked address (Fresh.token (board.tokens + 1)) expiry
        ∈ step.board.records.participants.rows := by
  cases correspondence with
  | none keeps silent => exact absurd (silent participant.id) again
  | @request other address expiry asked stored' lasts anchored participants tokens now asks =>
    rw [asks, ite_ne_right_iff] at again
    have same := Table.eq_of_key stored' stored again.1
    subst same
    refine ⟨address, expiry, asked, ?_, lasts, ?_⟩
    · rw [asks, if_pos rfl]
    · rw [participants, Table.mem_put]
      exact .inl rfl
  | confirm presented found participants tokens now silent =>
    exact absurd (silent participant.id) again

end Board

end Rendezvous
