/-!
# Phrases

A phrase is made of words and named blanks.  A phrase book holds every phrase of the
messages in one language.
-/

namespace Rendezvous

/-- Words as they are, or a blank to fill in. -/
inductive PhrasePart where
  | words (text : String)
  | blank (name : String)
deriving DecidableEq

abbrev Phrase := List PhrasePart

namespace Phrase

/-- The phrase with its blanks written in braces. -/
def source (phrase : Phrase) : String :=
  String.join (phrase.map fun part =>
    match part with
    | .words text => text
    | .blank name => "\x7b" ++ name ++ "\x7d")

def fill (phrase : Phrase) (value : String → String) : String :=
  String.join (phrase.map fun part =>
    match part with
    | .words text => text
    | .blank name => value name)

end Phrase

structure PhraseBook where
  subject : String
  reached : Phrase
  lost : Phrase
  changed : Phrase
  calendarLabel : String
  dateLabel : String
  participantsLabel : String
  participantListLabel : String
  viewButton : String
  cancelButton : String
  verifySubject : String
  verifyGreeting : Phrase
  verifyIntro : String
  verifyButton : String
  verifyExpiry : Phrase

namespace PhraseBook

def english : PhraseBook where
  subject := "Quorum Calendar Notification"
  reached := [.words "Threshold reached for ", .blank "date", .words "! (", .blank "count",
    .words "/", .blank "threshold", .words " participants available)"]
  lost := [.words "Threshold lost for ", .blank "date", .words " (", .blank "count",
    .words "/", .blank "threshold", .words " participants)"]
  changed := [.words "Availability changed for ", .blank "date", .words " (", .blank "count",
    .words "/", .blank "threshold", .words " participants)"]
  calendarLabel := "Calendar:"
  dateLabel := "Date:"
  participantsLabel := "Participants available:"
  participantListLabel := "Participant list:"
  viewButton := "View Calendar"
  cancelButton := "Cancel my participation"
  verifySubject := "Confirm your email address"
  verifyGreeting := [.words "Hello ", .blank "name", .words ","]
  verifyIntro := "Please confirm your email address to receive calendar notifications."
  verifyButton := "Confirm my email"
  verifyExpiry := [.words "This link expires in ", .blank "hours", .words " hours."]

def french : PhraseBook where
  subject := "Notification de Calendrier Quorum"
  reached := [.words "Seuil atteint pour ", .blank "date", .words " ! (", .blank "count",
    .words "/", .blank "threshold", .words " participants disponibles)"]
  lost := [.words "Seuil perdu pour ", .blank "date", .words " (", .blank "count",
    .words "/", .blank "threshold", .words " participants)"]
  changed := [.words "Disponibilité modifiée pour ", .blank "date", .words " (",
    .blank "count", .words "/", .blank "threshold", .words " participants)"]
  calendarLabel := "Calendrier :"
  dateLabel := "Date :"
  participantsLabel := "Participants disponibles :"
  participantListLabel := "Liste des participants :"
  viewButton := "Voir le calendrier"
  cancelButton := "Annuler ma participation"
  verifySubject := "Confirmez votre adresse email"
  verifyGreeting := [.words "Bonjour ", .blank "name", .words ","]
  verifyIntro :=
    "Merci de confirmer votre adresse email pour recevoir les notifications du calendrier."
  verifyButton := "Confirmer mon email"
  verifyExpiry := [.words "Ce lien expire dans ", .blank "hours", .words " heures."]

/-- The book of a locale; every locale but French reads the English one. -/
def ofLocale (locale : Option String) : PhraseBook :=
  if locale = some "fr" then french else english

def entries (book : PhraseBook) : List (String × String) :=
  [("subject", book.subject),
    ("reached", book.reached.source),
    ("lost", book.lost.source),
    ("changed", book.changed.source),
    ("calendar_label", book.calendarLabel),
    ("date_label", book.dateLabel),
    ("participants_label", book.participantsLabel),
    ("participant_list_label", book.participantListLabel),
    ("view_button", book.viewButton),
    ("cancel_button", book.cancelButton),
    ("verify_subject", book.verifySubject),
    ("verify_greeting", book.verifyGreeting.source),
    ("verify_intro", book.verifyIntro),
    ("verify_button", book.verifyButton),
    ("verify_expiry", book.verifyExpiry.source)]

end PhraseBook

end Rendezvous
