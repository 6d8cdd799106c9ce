import Mathlib.Data.List.Basic
import Mathlib.Data.List.Infix
import Rendezvous.Notice.Markup

/-!
# Reading markup

Text on a page is escaped.  So which text it is makes no difference to where tags and attributes
begin and end, and a reader who takes the text behind a tag, and puts characters in the place of
entities, gets back what was written.
-/

namespace Rendezvous

/-! ## Escaped text -/

namespace Text

/-- Characters at which a tag or an attribute begins or ends. -/
def isStructural (c : Char) : Bool :=
  c = '<' || c = '>' || c = '"'

/-- The characters that make up the tags of a page, one after the other. -/
def outline (html : String) : List Char :=
  html.toList.filter isStructural

theorem unescape_cons_of_ne {c : Char} (plain : c ≠ '&') (rest : List Char) :
    unescape (c :: rest) = c :: unescape rest := by
  rw [unescape]
  all_goals
    intros
    contradiction

theorem unescape_escapeChar (c : Char) (rest : List Char) :
    unescape (escapeChar c ++ rest) = c :: unescape rest := by
  fun_cases escapeChar c with
  | case1 | case2 | case3 | case4 | case5 => subst c; rfl
  | case6 plain => exact unescape_cons_of_ne plain rest

/-- Entities in the place of characters are read back as these. -/
theorem unescape_escape (text : String) : unescape (escape text).toList = text.toList := by
  rw [escape, String.toList_ofList]
  induction text.toList with
  | nil => rfl
  | cons c rest ih => rw [List.flatMap_cons, unescape_escapeChar, ih]

theorem ofList_unescape_escape (text : String) :
    String.ofList (unescape (escape text).toList) = text := by
  rw [unescape_escape, String.ofList_toList]

theorem isStructural_of_mem_escapeChar {written : Char} :
    ∀ c ∈ escapeChar written, isStructural c = false := by
  fun_cases escapeChar written with
  | case1 | case2 | case3 | case4 | case5 => simp [isStructural]
  | case6 _ opens closes quotes _ =>
    intro c inside
    rw [List.mem_singleton.mp inside]
    simp [isStructural, opens, closes, quotes]

theorem isStructural_of_mem_escape {text : String} :
    ∀ c ∈ (escape text).toList, isStructural c = false := by
  intro c inside
  rw [escape, String.toList_ofList, List.mem_flatMap] at inside
  obtain ⟨written, -, inside⟩ := inside
  exact isStructural_of_mem_escapeChar c inside

theorem outline_escape (text : String) : outline (escape text) = [] := by
  rw [outline, List.filter_eq_nil_iff]
  intro c inside
  rw [isStructural_of_mem_escape c inside]
  exact Bool.false_ne_true

end Text

/-! ## Where tags begin and end -/

namespace Page

theorem toList_render (page : Page) :
    page.render.toList = page.flatMap fun part => part.render.toList := by
  rw [render, String.toList_join, List.flatMap_map]

theorem toList_render_cons (part : PagePart) (rest : Page) :
    (render (part :: rest)).toList = part.render.toList ++ rest.render.toList := by
  rw [toList_render, toList_render, List.flatMap_cons]

/-- What stands on a page as it is. -/
def unescaped (page : Page) : List String :=
  page.filterMap fun part =>
    match part with
    | .markup tags => some tags
    | .words phrase => some phrase
    | .text _ => none

theorem unescaped_append (page page' : Page) :
    unescaped (page ++ page') = page.unescaped ++ page'.unescaped := List.filterMap_append

/-- Text neither opens nor closes anything. -/
theorem outline_render (page : Page) :
    Text.outline page.render = page.unescaped.flatMap Text.outline := by
  induction page with
  | nil => rfl
  | cons part rest ih =>
    have apart : Text.outline (render (part :: rest))
        = Text.outline part.render ++ Text.outline (render rest) := by
      rw [Text.outline, toList_render_cons, List.filter_append]
      rfl
    rw [apart, ih]
    cases part with
    | markup phrase | words phrase =>
      rw [unescaped, unescaped, List.filterMap_cons, List.flatMap_cons]
      rfl
    | text written =>
      rw [PagePart.render, Text.outline_escape, List.nil_append, unescaped, unescaped,
        List.filterMap_cons]

end Page

/-! ## Reading between tags -/

namespace Text

/-- What follows an opening up to a closing character, at each place where the opening stands. -/
def following (opening : List Char) (closing : Char) : List Char → List (List Char)
  | [] => []
  | c :: rest =>
      if opening.isPrefixOf (c :: rest) then
        ((c :: rest).drop opening.length).takeWhile (· ≠ closing)
          :: following opening closing rest
      else following opening closing rest

/-- The texts behind an opening, as they are read. -/
def shown (opening : String) (closing : Char) (html : String) : List String :=
  (following opening.toList closing html.toList).map fun text => String.ofList (unescape text)

/-- Whether an opening neither stands in a text nor begins at the end of it. -/
def avoids (opening : List Char) : List Char → Bool
  | [] => true
  | c :: rest =>
      !opening.isPrefixOf (c :: rest) && !(c :: rest).isPrefixOf opening && avoids opening rest

/-- An opening is the beginning of a tag. -/
def Opens (opening : List Char) : Prop :=
  ∃ name, opening = '<' :: name ∧ '<' ∉ name

variable {opening : List Char} {closing : Char} {cs : List Char}

theorem following_append_of_avoids (free : avoids opening cs) (rest : List Char) :
    following opening closing (cs ++ rest) = following opening closing rest := by
  induction cs with
  | nil => rfl
  | cons c later ih =>
    simp only [avoids, Bool.and_eq_true, Bool.not_eq_true'] at free
    obtain ⟨⟨absent, apart⟩, free⟩ := free
    have elsewhere : ¬ opening.isPrefixOf (c :: (later ++ rest)) := by
      intro stands
      rw [List.isPrefixOf_iff_prefix] at stands
      rcases List.prefix_or_prefix_of_prefix stands (List.prefix_append (c :: later) rest)
        with inside | outside
      · rw [List.isPrefixOf_iff_prefix.mpr inside] at absent
        cases absent
      · rw [List.isPrefixOf_iff_prefix.mpr outside] at apart
        cases apart
    rw [List.cons_append, following, if_neg elsewhere, ih free]

/-- No tag begins where there is no angle bracket. -/
theorem avoids_of_plain (opens : Opens opening) (plain : '<' ∉ cs) : avoids opening cs := by
  obtain ⟨name, rfl, -⟩ := opens
  induction cs with
  | nil => rfl
  | cons c rest ih =>
    rw [List.mem_cons, not_or] at plain
    obtain ⟨other, plain⟩ := plain
    simp [avoids, ih plain, List.isPrefixOf_cons_cons, other, Ne.symm other]

theorem following_opening (opens : Opens opening) (rest : List Char) :
    following opening closing (opening ++ rest)
      = rest.takeWhile (· ≠ closing) :: following opening closing rest := by
  have later := opens
  obtain ⟨name, rfl, plain⟩ := opens
  have stands : ('<' :: name).isPrefixOf ('<' :: (name ++ rest)) :=
    List.isPrefixOf_iff_prefix.mpr (List.prefix_append ('<' :: name) rest)
  rw [List.cons_append, following, if_pos stands, ← List.cons_append, List.drop_left,
    following_append_of_avoids (avoids_of_plain later plain)]

/-- Escaped text ends where a tag or an attribute does. -/
theorem takeWhile_escape {text : String} (structural : isStructural closing)
    (rest : List Char) :
    ((escape text).toList ++ closing :: rest).takeWhile (· ≠ closing) = (escape text).toList := by
  rw [List.takeWhile_append_of_pos, List.takeWhile_cons_of_neg, List.append_nil]
  · simp
  · rintro c inside
    have plain := isStructural_of_mem_escape c inside
    rw [decide_eq_true_eq]
    rintro rfl
    rw [structural] at plain
    cases plain

end Text

namespace Page

/-- What stands on a page behind an opening, up to a closing character. -/
def following (opening : List Char) (closing : Char) (page : Page) : List (List Char) :=
  Text.following opening closing page.render.toList

/-- A page on which no tag begins with one of some openings. -/
def Avoids (openings : List (List Char)) : Page → Prop
  | [] => True
  | .markup tags :: rest =>
      (∀ opening ∈ openings, Text.avoids opening tags.toList) ∧ Avoids openings rest
  | .words phrase :: rest => '<' ∉ phrase.toList ∧ Avoids openings rest
  | .text _ :: rest => Avoids openings rest

variable {openings : List (List Char)} {opening : List Char} {closing : Char} {page rest : Page}

theorem avoids_append (free : page.Avoids openings) (free' : rest.Avoids openings) :
    Avoids openings (page ++ rest) := by
  induction page with
  | nil => exact free'
  | cons part later ih =>
    cases part with
    | markup tags => exact ⟨free.1, ih free.2⟩
    | words phrase => exact ⟨free.1, ih free.2⟩
    | text written => exact ih free

theorem following_cons_of_avoids {part : PagePart}
    (free : Text.avoids opening part.render.toList) :
    following opening closing (part :: rest) = following opening closing rest := by
  rw [following, toList_render_cons, Text.following_append_of_avoids free]
  rfl

theorem avoids_escape (opens : Text.Opens opening) (written : String) :
    Text.avoids opening (Text.escape written).toList := by
  apply Text.avoids_of_plain opens
  intro inside
  cases Text.isStructural_of_mem_escape _ inside

theorem following_append_of_avoids (opens : Text.Opens opening) (known : opening ∈ openings)
    (free : page.Avoids openings) :
    following opening closing (page ++ rest) = following opening closing rest := by
  induction page with
  | nil => rfl
  | cons part later ih =>
    rw [List.cons_append, following_cons_of_avoids]
    · cases part with
      | markup tags => exact ih free.2
      | words phrase => exact ih free.2
      | text written => exact ih free
    · cases part with
      | markup tags => exact free.1 opening known
      | words phrase => exact Text.avoids_of_plain opens free.1
      | text written => exact avoids_escape opens written

theorem following_words (opens : Text.Opens opening) {phrase : String}
    (plain : '<' ∉ phrase.toList) :
    following opening closing (.words phrase :: rest) = following opening closing rest :=
  following_cons_of_avoids (Text.avoids_of_plain opens plain)

theorem following_written (opens : Text.Opens opening) {written : String} :
    following opening closing (.text written :: rest) = following opening closing rest :=
  following_cons_of_avoids (avoids_escape opens written)

theorem following_opening (opens : Text.Opens opening) {tags : String}
    (same : tags.toList = opening) :
    following opening closing (.markup tags :: rest)
      = rest.render.toList.takeWhile (· ≠ closing) :: following opening closing rest := by
  rw [following, toList_render_cons, PagePart.render, same, Text.following_opening opens]
  rfl

/-- Text behind an opening is read as it was escaped. -/
theorem following_text (opens : Text.Opens opening) (structural : Text.isStructural closing)
    {tags tags' written : String} (same : tags.toList = opening)
    (begins : tags'.toList.head? = some closing) :
    following opening closing (.markup tags :: .text written :: .markup tags' :: rest)
      = (Text.escape written).toList :: following opening closing (.markup tags' :: rest) := by
  obtain ⟨trail, begins⟩ := List.head?_eq_some_iff.mp begins
  rw [following_opening opens same, following_written opens, toList_render_cons,
    toList_render_cons, PagePart.render, PagePart.render, begins, List.cons_append,
    Text.takeWhile_escape structural]

theorem shown_render {opening : String} :
    Text.shown opening closing page.render
      = (following opening.toList closing page).map fun text =>
          String.ofList (Text.unescape text) := rfl

/-- Escaped text is read as it was written. -/
theorem shown_of_following {opening : String} {texts : List String}
    (escaped : following opening.toList closing page
      = texts.map fun text => (Text.escape text).toList) :
    Text.shown opening closing page.render = texts := by
  have read : (fun text => String.ofList (Text.unescape text))
      ∘ (fun text => (Text.escape text).toList) = id :=
    funext Text.ofList_unescape_escape
  rw [shown_render, escaped, List.map_map, read, List.map_id]

end Page

end Rendezvous
