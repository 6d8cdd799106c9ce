import Rendezvous.Board.Notify
import Rendezvous.Text.Blank

/-!
# Addresses of participants

A participant gives an address, is sent a token there, and confirms the address by the
token.  Every new token makes the one before it worthless.
-/

namespace Rendezvous.Board

def putParticipant (board : Board) (participant : Participant) : Board :=
  { board with
    records :=
      { board.records with participants := board.records.participants.put participant } }

def expiry? (surroundings : Surroundings) (board : Board) : Option Instant :=
  (Instant.span? surroundings.settings.verificationHours Instant.microsPerHour).bind
    board.now.shift?

/-- Gives a participant an unconfirmed address and a new token. -/
def issueToken (surroundings : Surroundings) (board : Board) (participant : Participant)
    (address : String) : Step Participant :=
  let number := board.tokens + 1
  let board := { board with tokens := number }
  match board.expiry? surroundings with
  | none => .fail board .beyondCalendar
  | some expiry =>
      let token := Fresh.token number
      let updated : Participant :=
        { participant with
          email := some address
          emailVerified := false
          verificationToken := some token
          verificationExpiresAt := some expiry }
      publish surroundings (board.putParticipant updated)
        (.verificationRequested updated.id address updated.name updated.locale token) updated

def trimmed (address : String) : String :=
  String.ofList (Text.trim Text.isBlank address.toList)

/-- Gives a participant an address, which has to have an at sign. -/
def addEmail (surroundings : Surroundings) (board : Board) (token participantId : String)
    (address : String) : Step Participant :=
  match board.records.locate token participantId with
  | .error failure => .fail board failure
  | .ok (_, participant) =>
      let address := trimmed address
      if address.toList.contains '@' then
        board.issueToken surroundings participant address
      else
        .fail board (.refused .malformedAddress)

def resendVerification (surroundings : Surroundings) (board : Board)
    (token participantId : String) : Step Participant :=
  match board.records.locate token participantId with
  | .error failure => .fail board failure
  | .ok (_, participant) =>
      if participant.emailVerified then .fail board (.refused .alreadyVerified)
      else
        match participant.email.filter (· ≠ "") with
        | none => .fail board (.refused .noAddress)
        | some address => board.issueToken surroundings participant address

def expired (board : Board) (participant : Participant) : Except Failure Bool :=
  match participant.verificationExpiresAt with
  | none => .ok false
  | some expiry =>
      match expiry.compare? board.now with
      | some order => .ok (order = .lt)
      | none => .error .incomparable

def verifyEmail (board : Board) (token : String) : Step Participant :=
  match board.records.participantVerifying? token with
  | none => .fail board (.refused .invalidVerificationToken)
  | some participant =>
      if participant.emailVerified then .answer board participant
      else
        match board.expired participant with
        | .error failure => .fail board failure
        | .ok true => .fail board (.refused .invalidVerificationToken)
        | .ok false =>
            let verified := { participant with emailVerified := true }
            .answer (board.putParticipant verified) verified

end Rendezvous.Board
