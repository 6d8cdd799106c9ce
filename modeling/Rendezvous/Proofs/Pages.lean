import Rendezvous.Notice.Message
import Rendezvous.Proofs.DateTexts
import Rendezvous.Proofs.Markup

/-!
# What e-mails show

The pages sent by e-mail have the tags of the service alone, and show calendars, addresses and
participants as these were written.
-/

namespace Rendezvous

/-! ## Openings -/

namespace Page

/-- The tags behind which names and addresses stand. -/
def itemOpening : List Char := "<li>".toList

def nameOpening : List Char := "<span class=\"calendar-name\">".toList

def linkOpening : List Char := "<a href=\"".toList

def paragraphOpening : List Char := "<p>".toList

theorem opens_itemOpening : Text.Opens itemOpening := ⟨_, rfl, by decide⟩

theorem opens_nameOpening : Text.Opens nameOpening := ⟨_, rfl, by decide⟩

theorem opens_linkOpening : Text.Opens linkOpening := ⟨_, rfl, by decide⟩

theorem opens_paragraphOpening : Text.Opens paragraphOpening := ⟨_, rfl, by decide⟩

def openings : List (List Char) :=
  [itemOpening, nameOpening, linkOpening, paragraphOpening]

theorem avoids_begin : begin.Avoids openings := by
  simp only [begin, Avoids]
  exact ⟨by decide, trivial⟩

theorem following_finish {opening : List Char} {closing : Char} (known : opening ∈ openings)
    (opens : Text.Opens opening) : following opening closing finish = [] := by
  have free : finish.Avoids openings := by
    simp only [finish, Avoids]
    exact ⟨by decide, trivial⟩
  rw [← List.append_nil finish, following_append_of_avoids opens known free]
  rfl

end Page

/-! ## Words without tags -/

namespace Text

theorem isDigit_of_mem_repr {number : Nat} : ∀ c ∈ number.repr.toList, c.isDigit := by
  intro c inside
  rw [Nat.repr, String.toList_ofList] at inside
  exact Nat.isDigit_of_mem_toDigits (by decide) (by decide) inside

theorem plain_toString (number : Int) : '<' ∉ (toString number).toList := by
  intro inside
  cases number with
  | ofNat number =>
    cases isDigit_of_mem_repr _ inside
  | negSucc number =>
    change '<' ∈ ("-" ++ (number + 1).repr).toList at inside
    rw [String.toList_append, List.mem_append] at inside
    rcases inside with sign | digit
    · revert sign
      decide
    · cases isDigit_of_mem_repr _ digit

end Text

namespace PhraseBook

/-- The labels that stand on the pages. -/
def labels (book : PhraseBook) : List String :=
  [book.calendarLabel, book.dateLabel, book.participantsLabel, book.participantListLabel,
    book.viewButton, book.cancelButton, book.verifyIntro, book.verifyButton]

theorem plain_labels (locale : Option String) :
    ∀ label ∈ (ofLocale locale).labels, '<' ∉ label.toList := by
  unfold ofLocale
  split
  · decide
  · decide

end PhraseBook

/-! ## Notices -/

namespace Notice

open Page

theorem plain_emoji (crossing : Crossing) : '<' ∉ (emoji crossing).toList := by
  cases crossing <;> decide

/-- Lists of one length have the same markup. -/
theorem unescaped_participantList (book : PhraseBook) {names names' : List String}
    (same : names.length = names'.length) :
    (participantList book names).unescaped = (participantList book names').unescaped := by
  have items : ∀ names : List String, unescaped (names.flatMap participantItem)
      = (List.replicate names.length ["<li>", "</li>"]).flatten := by
    intro names
    induction names with
    | nil => rfl
    | cons name rest ih =>
      rw [List.flatMap_cons, unescaped_append, ih]
      rfl
  cases names with
  | nil => rw [List.eq_nil_of_length_eq_zero same.symm]
  | cons name rest =>
    cases names' with
    | nil => cases same
    | cons name' rest' =>
      rw [participantList, participantList, unescaped_append, unescaped_append,
        unescaped_append, unescaped_append, items, items, same]
      · exact List.cons_ne_nil _ _
      · exact List.cons_ne_nil _ _

theorem unescaped_page (calendarName calendarName' url url' : String) (transition : Transition)
    (locale : Option String) (showCancel : Bool) {names names' : List String}
    (same : names.length = names'.length) :
    (page calendarName transition url locale names showCancel).unescaped
      = (page calendarName' transition url' locale names' showCancel).unescaped := by
  simp only [page, unescaped_append, unescaped_participantList _ same]
  cases showCancel <;> rfl

theorem avoids_heading (locale : Option String) (transition : Transition) :
    (heading locale transition).Avoids [itemOpening, nameOpening, linkOpening] := by
  simp only [heading, Avoids]
  exact ⟨by decide, plain_emoji _, by decide, by decide, trivial⟩

/-- The items of the list are the names. -/
theorem following_items (names : List String) (rest : Page) :
    following itemOpening '<' (names.flatMap participantItem ++ rest)
      = names.map (fun name => (Text.escape name).toList)
        ++ following itemOpening '<' rest := by
  induction names with
  | nil => rfl
  | cons name later ih =>
    rw [List.flatMap_cons, participantItem, List.append_assoc]
    dsimp only [List.cons_append, List.nil_append]
    rw [following_text opens_itemOpening rfl rfl rfl,
      following_cons_of_avoids (by decide), ih]
    rfl

section

variable {book : PhraseBook} (plain : ∀ label ∈ book.labels, '<' ∉ label.toList)

include plain

theorem avoids_calendarLine (calendarName : String) :
    (calendarLine book calendarName).Avoids [itemOpening, linkOpening] := by
  simp only [calendarLine, Avoids]
  exact ⟨by decide, plain _ (by simp [PhraseBook.labels]), by decide, by decide, by decide,
    trivial⟩

theorem avoids_dateLine (day : Date) :
    (dateLine book day).Avoids [itemOpening, nameOpening, linkOpening] := by
  simp only [dateLine, Avoids]
  have plainDay : '<' ∉ day.iso.toList := day.not_mem_iso (by decide) (by decide)
  exact ⟨by decide, plain _ (by simp [PhraseBook.labels]), by decide, plainDay, by decide, trivial⟩

theorem avoids_countLine (transition : Transition) :
    (countLine book transition).Avoids [itemOpening, nameOpening, linkOpening] := by
  simp only [countLine, Avoids]
  exact ⟨by decide, plain _ (by simp [PhraseBook.labels]), by decide, Text.plain_toString _,
    by decide, Text.plain_toString _, by decide, trivial⟩

theorem avoids_participantList (names : List String) :
    (participantList book names).Avoids [nameOpening, linkOpening] := by
  have items : Avoids [nameOpening, linkOpening] (names.flatMap participantItem) := by
    induction names with
    | nil => trivial
    | cons name rest ih =>
      apply avoids_append _ ih
      simp only [participantItem, Avoids]
      exact ⟨by decide, by decide, trivial⟩
  cases names with
  | nil => trivial
  | cons name rest =>
    apply avoids_append (avoids_append _ items)
    · simp only [Avoids]
      exact ⟨by decide, trivial⟩
    · simp only [Avoids]
      exact ⟨by decide, plain _ (by simp [PhraseBook.labels]), by decide, trivial⟩

theorem avoids_viewLink (url : String) :
    (viewLink book url).Avoids [itemOpening, nameOpening] := by
  simp only [viewLink, Avoids]
  exact ⟨by decide, by decide, plain _ (by simp [PhraseBook.labels]), by decide, trivial⟩

theorem avoids_cancelLink (url : String) (day : Date) :
    (cancelLink book url day).Avoids [itemOpening, nameOpening] := by
  simp only [cancelLink, Avoids]
  exact ⟨by decide, by decide, plain _ (by simp [PhraseBook.labels]), by decide, trivial⟩

theorem following_participantList (names : List String) (rest : Page) :
    following itemOpening '<' (participantList book names ++ rest)
      = names.map (fun name => (Text.escape name).toList)
        ++ following itemOpening '<' rest := by
  cases names with
  | nil => rfl
  | cons name later =>
    have head : Avoids [itemOpening]
        [.markup "<div class=\"participant-list\"><div class=\"participant-list-header\">",
          .words book.participantListLabel, .markup "</div><ul class=\"participant-names\">"] := by
      simp only [Avoids]
      exact ⟨by decide, plain _ (by simp [PhraseBook.labels]), by decide, trivial⟩
    rw [participantList, List.append_assoc, List.append_assoc,
      following_append_of_avoids opens_itemOpening List.mem_cons_self head, following_items,
      List.singleton_append, following_cons_of_avoids (by decide)]
    exact List.cons_ne_nil _ _

theorem following_calendarLine (calendarName : String) (rest : Page) :
    following nameOpening '<' (calendarLine book calendarName ++ rest)
      = (Text.escape calendarName).toList :: following nameOpening '<' rest := by
  rw [calendarLine]
  dsimp only [List.cons_append, List.nil_append]
  rw [following_cons_of_avoids (by decide),
    following_words opens_nameOpening (plain _ (by simp [PhraseBook.labels])),
    following_words opens_nameOpening (by decide),
    following_text opens_nameOpening rfl rfl rfl,
    following_cons_of_avoids (by decide)]

theorem following_viewLink (url : String) (rest : Page) :
    following linkOpening '"' (viewLink book url ++ rest)
      = (Text.escape url).toList :: following linkOpening '"' rest := by
  rw [viewLink]
  dsimp only [List.cons_append, List.nil_append]
  rw [following_text opens_linkOpening rfl rfl rfl,
    following_cons_of_avoids (by decide),
    following_words opens_linkOpening (plain _ (by simp [PhraseBook.labels])),
    following_cons_of_avoids (by decide)]

theorem following_cancelLink (url : String) (day : Date) (rest : Page) :
    following linkOpening '"' (cancelLink book url day ++ rest)
      = (Text.escape (url ++ "?cancel=" ++ day.iso)).toList
        :: following linkOpening '"' rest := by
  rw [cancelLink]
  dsimp only [List.cons_append, List.nil_append]
  rw [following_text opens_linkOpening rfl rfl rfl,
    following_cons_of_avoids (by decide),
    following_words opens_linkOpening (plain _ (by simp [PhraseBook.labels])),
    following_cons_of_avoids (by decide)]

theorem following_cancellation (showCancel : Bool) (url : String) (day : Date) (rest : Page) :
    following linkOpening '"'
        ((if showCancel then cancelLink book url day else []) ++ rest)
      = (if showCancel then [(Text.escape (url ++ "?cancel=" ++ day.iso)).toList] else [])
        ++ following linkOpening '"' rest := by
  cases showCancel with
  | false => rfl
  | true => exact following_cancelLink plain url day rest

theorem avoids_cancellation (showCancel : Bool) (url : String) (day : Date) :
    Avoids [itemOpening, nameOpening]
      (if showCancel then cancelLink book url day else []) := by
  cases showCancel with
  | false => trivial
  | true => exact avoids_cancelLink plain url day

end

variable (calendarName : String) (transition : Transition) (url : String)
  (locale : Option String) (names : List String) (showCancel : Bool)

theorem following_page_items :
    following itemOpening '<' (page calendarName transition url locale names showCancel)
      = names.map fun name => (Text.escape name).toList := by
  have plain := PhraseBook.plain_labels locale
  simp only [page, List.append_assoc, List.cons_append, List.nil_append]
  rw [following_append_of_avoids opens_itemOpening (by simp [openings]) avoids_begin,
    following_cons_of_avoids (by decide),
    following_append_of_avoids opens_itemOpening (by simp) (avoids_heading locale transition),
    following_append_of_avoids opens_itemOpening (by simp)
      (avoids_calendarLine plain calendarName),
    following_append_of_avoids opens_itemOpening (by simp)
      (avoids_dateLine plain transition.day),
    following_append_of_avoids opens_itemOpening (by simp) (avoids_countLine plain transition),
    following_participantList plain, following_cons_of_avoids (by decide),
    following_append_of_avoids opens_itemOpening (by simp) (avoids_viewLink plain url),
    following_append_of_avoids opens_itemOpening (by simp)
      (avoids_cancellation plain showCancel url transition.day),
    following_cons_of_avoids (by decide),
    following_finish (by simp [openings]) opens_itemOpening, List.append_nil]

theorem following_page_name :
    following nameOpening '<' (page calendarName transition url locale names showCancel)
      = [(Text.escape calendarName).toList] := by
  have plain := PhraseBook.plain_labels locale
  simp only [page, List.append_assoc, List.cons_append, List.nil_append]
  rw [following_append_of_avoids opens_nameOpening (by simp [openings]) avoids_begin,
    following_cons_of_avoids (by decide),
    following_append_of_avoids opens_nameOpening (by simp) (avoids_heading locale transition),
    following_calendarLine plain,
    following_append_of_avoids opens_nameOpening (by simp)
      (avoids_dateLine plain transition.day),
    following_append_of_avoids opens_nameOpening (by simp) (avoids_countLine plain transition),
    following_append_of_avoids opens_nameOpening (by simp) (avoids_participantList plain names),
    following_cons_of_avoids (by decide),
    following_append_of_avoids opens_nameOpening (by simp) (avoids_viewLink plain url),
    following_append_of_avoids opens_nameOpening (by simp)
      (avoids_cancellation plain showCancel url transition.day),
    following_cons_of_avoids (by decide),
    following_finish (by simp [openings]) opens_nameOpening]

/-- The links of a notice show the calendar and, where it is asked for, the withdrawal. -/
theorem following_page_links :
    following linkOpening '"' (page calendarName transition url locale names showCancel)
      = (Text.escape url).toList
        :: if showCancel then [(Text.escape (url ++ "?cancel=" ++ transition.day.iso)).toList]
          else [] := by
  have plain := PhraseBook.plain_labels locale
  simp only [page, List.append_assoc, List.cons_append, List.nil_append]
  rw [following_append_of_avoids opens_linkOpening (by simp [openings]) avoids_begin,
    following_cons_of_avoids (by decide),
    following_append_of_avoids opens_linkOpening (by simp) (avoids_heading locale transition),
    following_append_of_avoids opens_linkOpening (by simp)
      (avoids_calendarLine plain calendarName),
    following_append_of_avoids opens_linkOpening (by simp)
      (avoids_dateLine plain transition.day),
    following_append_of_avoids opens_linkOpening (by simp) (avoids_countLine plain transition),
    following_append_of_avoids opens_linkOpening (by simp) (avoids_participantList plain names),
    following_cons_of_avoids (by decide), following_viewLink plain,
    following_cancellation plain, following_cons_of_avoids (by decide),
    following_finish (by simp [openings]) opens_linkOpening, List.append_nil]

end Notice

/-! ## Verifications -/

namespace Verification

open Page

theorem unescaped_page (name name' url url' : String) (locale : Option String) (hours : Int) :
    (page name url locale hours).unescaped = (page name' url' locale hours).unescaped := rfl

theorem plain_expiry (locale : Option String) (hours : Int) :
    '<' ∉ ((PhraseBook.ofLocale locale).verifyExpiry.fill fun _ => toString hours).toList := by
  have number : '<' ∉ hours.repr.toList := Text.plain_toString hours
  unfold PhraseBook.ofLocale
  split
  · simpa [PhraseBook.french, Phrase.fill] using number
  · simpa [PhraseBook.english, Phrase.fill] using number

theorem avoids_introduction (openings : List (List Char)) (locale : Option String) :
    Avoids openings [.words (PhraseBook.ofLocale locale).verifyIntro] :=
  ⟨PhraseBook.plain_labels locale _ (by simp [PhraseBook.labels]), trivial⟩

theorem avoids_expiry (openings : List (List Char)) (locale : Option String) (hours : Int) :
    Avoids openings
      [.words ((PhraseBook.ofLocale locale).verifyExpiry.fill fun _ => toString hours)] :=
  ⟨plain_expiry locale hours, trivial⟩

theorem fill_verifyGreeting (locale : Option String) (name : String) :
    ((PhraseBook.ofLocale locale).verifyGreeting.fill fun _ => name)
      = (if locale = some "fr" then "Bonjour " else "Hello ") ++ name ++ "," := by
  unfold PhraseBook.ofLocale
  split
  · rfl
  · rfl

theorem following_paragraph {contents : Page} (free : contents.Avoids [paragraphOpening])
    (rest : Page) :
    following paragraphOpening '<' (paragraph contents ++ rest)
      = (Page.render (contents ++ .markup "</p>\n" :: rest)).toList.takeWhile (· ≠ '<')
        :: following paragraphOpening '<' rest := by
  simp only [paragraph, List.append_assoc, List.cons_append, List.nil_append]
  rw [following_cons_of_avoids (by decide), following_opening opens_paragraphOpening rfl,
    following_append_of_avoids opens_paragraphOpening List.mem_cons_self free,
    following_cons_of_avoids (by decide)]

theorem following_paragraph_text (written : String) (rest : Page) :
    following paragraphOpening '<' (paragraph [.text written] ++ rest)
      = (Text.escape written).toList :: following paragraphOpening '<' rest := by
  have free : Avoids [paragraphOpening] [.text written] := trivial
  rw [following_paragraph free, List.singleton_append, Page.toList_render_cons,
    Page.toList_render_cons]
  exact congrArg (· :: _) (Text.takeWhile_escape rfl _)

theorem avoids_paragraph {contents : Page} (free : contents.Avoids [linkOpening]) :
    (paragraph contents).Avoids [linkOpening] := by
  apply avoids_append (avoids_append _ free)
  · simp only [Avoids]
    exact ⟨by decide, trivial⟩
  · simp only [Avoids]
    exact ⟨by decide, by decide, trivial⟩

theorem following_paragraph_link {book : PhraseBook}
    (plain : ∀ label ∈ book.labels, '<' ∉ label.toList) (url : String) (rest : Page) :
    following linkOpening '"' (paragraph (confirmLink book url) ++ rest)
      = (Text.escape url).toList :: following linkOpening '"' rest := by
  simp only [paragraph, confirmLink, List.cons_append, List.nil_append]
  rw [following_cons_of_avoids (by decide), following_cons_of_avoids (by decide),
    following_text opens_linkOpening rfl rfl rfl, following_cons_of_avoids (by decide),
    following_words opens_linkOpening (plain _ (by simp [PhraseBook.labels])),
    following_cons_of_avoids (by decide), following_cons_of_avoids (by decide)]

variable (name url : String) (locale : Option String) (hours : Int)

/-- A verification greets in its first paragraph and shows the address in its fourth. -/
theorem following_page_paragraphs :
    ∃ introduction link expiry,
      following paragraphOpening '<' (page name url locale hours)
        = [(Text.escape
              ((PhraseBook.ofLocale locale).verifyGreeting.fill fun _ => name)).toList,
            introduction, link, (Text.escape url).toList, expiry] := by
  have plain := PhraseBook.plain_labels locale
  have link : Avoids [paragraphOpening] (confirmLink (PhraseBook.ofLocale locale) url) := by
    simp only [confirmLink, Avoids]
    exact ⟨by decide, by decide, plain _ (by simp [PhraseBook.labels]), by decide, trivial⟩
  simp only [page, List.append_assoc]
  rw [following_append_of_avoids opens_paragraphOpening (by simp [openings]) avoids_begin,
    following_paragraph_text, following_paragraph (avoids_introduction _ locale),
    following_paragraph link, following_paragraph_text,
    following_paragraph (avoids_expiry _ locale hours),
    following_finish (by simp [openings]) opens_paragraphOpening]
  exact ⟨_, _, _, rfl⟩

theorem following_page_links :
    following linkOpening '"' (page name url locale hours) = [(Text.escape url).toList] := by
  have plain := PhraseBook.plain_labels locale
  have text : ∀ written : String, Avoids [linkOpening] [.text written] := fun _ => trivial
  simp only [page, List.append_assoc]
  rw [following_append_of_avoids opens_linkOpening (by simp [openings]) avoids_begin,
    following_append_of_avoids opens_linkOpening List.mem_cons_self
      (avoids_paragraph (text _)),
    following_append_of_avoids opens_linkOpening List.mem_cons_self
      (avoids_paragraph (avoids_introduction _ locale)),
    following_paragraph_link plain,
    following_append_of_avoids opens_linkOpening List.mem_cons_self
      (avoids_paragraph (text _)),
    following_append_of_avoids opens_linkOpening List.mem_cons_self
      (avoids_paragraph (avoids_expiry _ locale hours)),
    following_finish (by simp [openings]) opens_linkOpening]

theorem shown_paragraphs :
    ∃ introduction link expiry,
      Text.shown "<p>" '<' (html name url locale hours)
        = [(if locale = some "fr" then "Bonjour " else "Hello ") ++ name ++ ",", introduction,
            link, url, expiry] := by
  obtain ⟨introduction, link, expiry, paragraphs⟩ :=
    following_page_paragraphs name url locale hours
  rw [html, Page.shown_render, ← paragraphOpening, paragraphs, ← fill_verifyGreeting]
  simp only [List.map_cons, List.map_nil, Text.ofList_unescape_escape]
  exact ⟨_, _, _, rfl⟩

end Verification

/-! ## What was written -/

/-- Whoever names a calendar, an address or a participant changes nothing about the tags of an
e-mail, and readers of it are shown exactly what was written. -/
theorem pages_show_what_was_written (transition : Transition) (locale : Option String)
    (showCancel : Bool) (hours : Int) :
    (∀ (calendarName calendarName' url url' : String) (names names' : List String),
        names.length = names'.length →
          Text.outline (Notice.html calendarName transition url locale names showCancel)
            = Text.outline (Notice.html calendarName' transition url' locale names' showCancel))
      ∧ (∀ (calendarName url : String) (names : List String),
        let html := Notice.html calendarName transition url locale names showCancel
        Text.shown "<li>" '<' html = names
          ∧ Text.shown "<span class=\"calendar-name\">" '<' html = [calendarName]
          ∧ Text.shown "<a href=\"" '"' html
              = url :: if showCancel then [url ++ "?cancel=" ++ transition.day.iso] else [])
      ∧ (∀ name name' url url' : String,
        Text.outline (Verification.html name url locale hours)
          = Text.outline (Verification.html name' url' locale hours))
      ∧ ∀ name url : String,
        let html := Verification.html name url locale hours
        (Text.shown "<p>" '<' html)[0]?
            = some ((if locale = some "fr" then "Bonjour " else "Hello ") ++ name ++ ",")
          ∧ (Text.shown "<p>" '<' html)[3]? = some url
          ∧ Text.shown "<a href=\"" '"' html = [url] := by
  refine ⟨?notice, ?noticed, ?verification, ?verified⟩
  case notice =>
    intro calendarName calendarName' url url' names names' same
    rw [Notice.html, Notice.html, Page.outline_render, Page.outline_render,
      Notice.unescaped_page calendarName calendarName' url url' transition locale showCancel same]
  case noticed =>
    intro calendarName url names
    refine ⟨?items, ?name, ?links⟩
    case items =>
      exact Page.shown_of_following
        (Notice.following_page_items calendarName transition url locale names showCancel)
    case name =>
      exact Page.shown_of_following
        (Notice.following_page_name calendarName transition url locale names showCancel)
    case links =>
      apply Page.shown_of_following
      refine (Notice.following_page_links calendarName transition url locale names
        showCancel).trans ?_
      cases showCancel <;> rfl
  case verification =>
    intro name name' url url'
    rw [Verification.html, Verification.html, Page.outline_render, Page.outline_render,
      Verification.unescaped_page name name' url url' locale hours]
  case verified =>
    intro name url
    obtain ⟨introduction, link, expiry, paragraphs⟩ :=
      Verification.shown_paragraphs name url locale hours
    dsimp only
    rw [paragraphs]
    exact ⟨rfl, rfl, Page.shown_of_following
      (Verification.following_page_links name url locale hours)⟩

theorem pages_show_what_was_written_sample :
    let day : Date := ⟨739407, by decide, by decide⟩
    let transition : Transition := ⟨"club", day, 0, 1, 1, .reached⟩
    (["Ben <script>", "&lt;"].length = ["Ana", "\""].length
        ∧ Text.outline (Notice.html "</span>" transition "/c/1" none ["Ben <script>", "&lt;"] true)
          = Text.outline (Notice.html "Club" transition "\">" none ["Ana", "\""] true))
      ∧ Text.shown "<li>" '<'
          (Notice.html "</span>" transition "/c/1" none ["Ben <script>", "&lt;"] true)
        = ["Ben <script>", "&lt;"] := by
  intro day transition
  have shows := pages_show_what_was_written transition none true 24
  exact ⟨⟨rfl, shows.1 _ _ _ _ _ _ rfl⟩, (shows.2.1 _ _ _).1⟩

end Rendezvous
