import Rendezvous.Text.Escape

/-!
# Markup

A page is made of markup and of words, which are written as they are, and of text, which
is escaped.  So no text can open or close a tag or end an attribute.
-/

namespace Rendezvous

inductive PagePart where
  | markup (tags : String)
  /-- Words of the service itself, which need no escape. -/
  | words (phrase : String)
  | text (written : String)
deriving DecidableEq

abbrev Page := List PagePart

def PagePart.render : PagePart → String
  | .markup tags => tags
  | .words phrase => phrase
  | .text written => Text.escape written

def Page.render (page : Page) : String :=
  String.join (page.map PagePart.render)

namespace Page

def begin : Page :=
  [.markup "<!DOCTYPE html>\n<html>\n<head><meta charset=\"UTF-8\"></head>\n<body>\n"]

def finish : Page :=
  [.markup "</body>\n</html>\n"]

end Page

end Rendezvous
