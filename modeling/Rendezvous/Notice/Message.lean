import Rendezvous.Threshold
import Rendezvous.Notice.Phrase
import Rendezvous.Notice.Markup

/-!
# Messages

What a crossed threshold is announced by, in one line for the chat channels and as a
page for e-mail, and the page that asks a participant to confirm an address.
-/

namespace Rendezvous

namespace Notice

def subject (locale : Option String) : String :=
  (PhraseBook.ofLocale locale).subject

def emoji : Crossing → String
  | .reached => "🎉"
  | .lost => "⚠\ufe0f"
  | .unchanged => ""

def phrase (book : PhraseBook) : Crossing → Phrase
  | .reached => book.reached
  | .lost => book.lost
  | .unchanged => book.changed

/-- The date of a transition, the count it led to and the threshold, in words. -/
def headline (locale : Option String) (transition : Transition) : String :=
  (phrase (PhraseBook.ofLocale locale) transition.crossing).fill fun name =>
    if name = "date" then transition.day.iso
    else if name = "count" then toString transition.current
    else toString transition.threshold

def text (calendarName : String) (transition : Transition) : String :=
  let line := "Calendar '" ++ calendarName ++ "': " ++ headline (some "en") transition
  match transition.crossing with
  | .unchanged => line
  | crossing => emoji crossing ++ " " ++ line

def heading (locale : Option String) (transition : Transition) : Page :=
  [.markup "    <div class=\"header\">", .words (emoji transition.crossing), .words " ",
    .text (headline locale transition), .markup "</div>\n"]

def calendarLine (book : PhraseBook) (calendarName : String) : Page :=
  [.markup "    <div class=\"message\">", .words book.calendarLabel, .words " ",
    .markup "<span class=\"calendar-name\">", .text calendarName, .markup "</span></div>\n"]

def dateLine (book : PhraseBook) (day : Date) : Page :=
  [.markup "    <div class=\"date-info\">", .words book.dateLabel, .words " ", .words day.iso,
    .markup "</div>\n"]

def countLine (book : PhraseBook) (transition : Transition) : Page :=
  [.markup "    <div class=\"message\">", .words book.participantsLabel, .markup " <strong>",
    .words (toString transition.current), .words "/", .words (toString transition.threshold),
    .markup "</strong></div>\n    "]

def participantItem (name : String) : Page :=
  [.markup "<li>", .text name, .markup "</li>"]

/-- The list of participants, left out where there are none. -/
def participantList (book : PhraseBook) : List String → Page
  | [] => []
  | names =>
      [.markup "<div class=\"participant-list\"><div class=\"participant-list-header\">",
        .words book.participantListLabel, .markup "</div><ul class=\"participant-names\">"]
      ++ names.flatMap participantItem
      ++ [.markup "</ul></div>"]

def viewLink (book : PhraseBook) (url : String) : Page :=
  [.markup "<a href=\"", .text url, .markup "\" class=\"btn btn-primary\">",
    .words book.viewButton, .markup "</a>\n      "]

/-- The link by which a participant withdraws. -/
def cancelLink (book : PhraseBook) (url : String) (day : Date) : Page :=
  [.markup "<a href=\"", .text (url ++ "?cancel=" ++ day.iso),
    .markup "\" class=\"btn btn-danger\">", .words book.cancelButton, .markup "</a>"]

def page (calendarName : String) (transition : Transition) (url : String)
    (locale : Option String) (names : List String) (showCancel : Bool) : Page :=
  let book := PhraseBook.ofLocale locale
  Page.begin
  ++ [.markup "  <div class=\"container\">\n"]
  ++ heading locale transition
  ++ calendarLine book calendarName
  ++ dateLine book transition.day
  ++ countLine book transition
  ++ participantList book names
  ++ [.markup "\n    <div class=\"buttons\">\n      "]
  ++ viewLink book url
  ++ (if showCancel then cancelLink book url transition.day else [])
  ++ [.markup "\n    </div>\n  </div>\n"]
  ++ Page.finish

def html (calendarName : String) (transition : Transition) (url : String)
    (locale : Option String) (names : List String) (showCancel : Bool) : String :=
  (page calendarName transition url locale names showCancel).render

end Notice

namespace Verification

def subject (locale : Option String) : String :=
  (PhraseBook.ofLocale locale).verifySubject

def paragraph (contents : Page) : Page :=
  [.markup "  ", .markup "<p>"] ++ contents ++ [.markup "</p>\n"]

def confirmLink (book : PhraseBook) (url : String) : Page :=
  [.markup "<a href=\"", .text url, .markup "\">", .words book.verifyButton, .markup "</a>"]

def page (name url : String) (locale : Option String) (hours : Int) : Page :=
  let book := PhraseBook.ofLocale locale
  Page.begin
  ++ paragraph [.text (book.verifyGreeting.fill fun _ => name)]
  ++ paragraph [.words book.verifyIntro]
  ++ paragraph (confirmLink book url)
  ++ paragraph [.text url]
  ++ paragraph [.words (book.verifyExpiry.fill fun _ => toString hours)]
  ++ Page.finish

def html (name url : String) (locale : Option String) (hours : Int) : String :=
  (page name url locale hours).render

end Verification

end Rendezvous
