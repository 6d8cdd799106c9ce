import Rendezvous.Board.State
import Rendezvous.Delivery.Round

/-!
# What events lead to

A changed availability leads to a check of the threshold, and a requested verification to
a letter.  Whatever comes of it, the event's publisher does not learn of a failure.
-/

namespace Rendezvous.Board

def detect (board : Board) (calendarId : String) (day : Date) (threshold previous : Int) :
    Step Transition :=
  match board.count calendarId day with
  | (.error failure, board) => .fail board failure
  | (.ok current, board) =>
      .answer board
        ⟨calendarId, day, previous, current, threshold,
          .classify previous current threshold⟩

/-- The calendar with an id and its configuration, where notifications are enabled. -/
def notified? (board : Board) (calendarId : String) : Option (Calendar × NotifyConfig) :=
  (board.records.calendars.get? calendarId).bind fun calendar =>
    (calendar.notifyConfig.filter NotifyConfig.enabled).map fun config => (calendar, config)

def announce (surroundings : Surroundings) (board : Board) (calendar : Calendar)
    (config : NotifyConfig) (transition : Transition) : Step (Option Transition) :=
  if transition.crossing = .unchanged then
    ⟨.ok (some transition), board, [], [transition], []⟩
  else
    let round := Round.dispatch surroundings board.now transition
      (Due.all surroundings board.records calendar config transition) board.log
    ⟨match round.failure with
      | none => .ok (some transition)
      | some failure => .error failure,
      { board with log := round.log }, [], [transition], round.attempts⟩

/-- Checks a date for a crossed threshold and announces it; none where notifications are
not enabled. -/
def checkThreshold (surroundings : Surroundings) (board : Board) (calendarId : String)
    (day : Date) (previous : Int) : Step (Option Transition) :=
  match board.notified? calendarId with
  | none => .answer board none
  | some (calendar, config) =>
      let detected := board.detect calendar.id day calendar.threshold previous
      match detected.outcome with
      | .error failure => .fail detected.board failure
      | .ok transition => announce surroundings detected.board calendar config transition

def verificationLetter (settings : Settings) (email name locale token : String) : Letter where
  address := email
  subject := Verification.subject (some locale)
  body := Verification.html name (settings.baseUrl ++ "/c/verify-email/" ++ token)
    (some locale) settings.verificationHours

def sendVerification (surroundings : Surroundings) (board : Board)
    (email name locale token : String) : Step Unit :=
  if surroundings.outlets.mailConfigured then
    let message := Message.mail
      (verificationLetter surroundings.settings email name locale token)
    let reception := surroundings.outlets.receive message
    ⟨match reception with
      | .crashed failure => .error failure
      | _ => .ok (),
      board, [], [], [⟨message, none, reception, board.now⟩]⟩
  else
    .answer board ()

def react (surroundings : Surroundings) (board : Board) : Event → Step Unit
  | .availabilityChanged calendarId day previous =>
      (board.checkThreshold surroundings calendarId day previous).map fun _ => ()
  | .verificationRequested _ email name locale token =>
      board.sendVerification surroundings email name locale token

/-- Answers with a value after publishing an event.  The outcome of the reaction is
dropped. -/
def publish {α : Type} (surroundings : Surroundings) (board : Board) (event : Event)
    (value : α) : Step α :=
  let reaction := board.react surroundings event
  ⟨.ok value, reaction.board, [event], reaction.transitions, reaction.attempts⟩

/-- Forgets the deliveries that are older than the settings ask to keep, and tells how
many there were. -/
def cleanup (surroundings : Surroundings) (board : Board) : Step Nat :=
  match board.log.retain board.now surroundings.settings.retentionDays with
  | .error failure => .fail board failure
  | .ok kept => .answer { board with log := kept } (board.log.length - kept.length)

def sentRecently (surroundings : Surroundings) (board : Board) (key : DeliveryKey)
    (minutes : Int) : Except Failure Bool :=
  match Instant.span? minutes Instant.microsPerMinute with
  | none => .error .beyondCalendar
  | some span =>
      if surroundings.lookupFails.hits key then .error .outage
      else board.log.sentWithin board.now span key

def enterDelivery (surroundings : Surroundings) (board : Board) (delivery : Delivery) :
    Step Unit :=
  if surroundings.writeFails.hits delivery then .fail board .outage
  else .answer { board with log := board.log ++ [{ delivery with sentAt := board.now }] } ()

/-- Those to be written to about a date, by the calendar's own configuration or another. -/
def recipientsOn (board : Board) (calendarId : String) (day : Date)
    (config : Option NotifyConfig) : Except Failure (List Recipient) :=
  match board.records.calendars.get? calendarId with
  | none => .error .absent
  | some calendar =>
      match config <|> calendar.notifyConfig with
      | none => .error .absent
      | some config => board.records.mailingList calendar config day

def namesOn (board : Board) (calendarId : String) (day : Date) :
    Except Failure (List String) := do
  board.records.checkSpan calendarId day day
  pure (board.records.namesOn calendarId day)

def contributions (board : Board) (calendarId : String) (start stop : Date) :
    Except Failure (List (Date × List Contribution)) := do
  board.records.checkSpan calendarId start stop
  pure (board.records.contributionsBetween calendarId start stop)

end Rendezvous.Board
