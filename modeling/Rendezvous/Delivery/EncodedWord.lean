import Rendezvous.Text.Base64
import Rendezvous.Text.Blank
import Rendezvous.Text.Charset
import Rendezvous.Text.Line
import Rendezvous.Text.Percent

/-!
# Encoded words

A header is a text of ASCII characters, in which a word can be written as the bytes of
another charset.  Such a word names its charset and says how its bytes are written:
`=?utf-8?q?caf=C3=A9?=`.
-/

namespace Rendezvous

open Text

inductive WordForm where
  /-- As ASCII characters, and the others as an equals sign and two hexadecimal digits. -/
  | quoted
  | base64
deriving DecidableEq

def WordForm.ofChar? (c : Char) : Option WordForm :=
  if c = 'q' ∨ c = 'Q' then some .quoted
  else if c = 'b' ∨ c = 'B' then some .base64
  else none

structure EncodedWord where
  charset : List Char
  form : WordForm
  text : List Char
deriving DecidableEq

namespace EncodedWord

/-- The text of a word up to its end mark, which stands on the same line. -/
def text? : List Char → Option (List Char)
  | '?' :: '=' :: _ => some []
  | '\n' :: _ => none
  | c :: cs => (text? cs).map (c :: ·)
  | [] => none

def ofStart? (cs : List Char) : Option (EncodedWord × Nat) :=
  match cs with
  | '=' :: '?' :: rest =>
      let charset := rest.takeWhile (· ≠ '?')
      match rest.drop charset.length with
      | '?' :: form :: '?' :: body =>
          match WordForm.ofChar? form, text? body with
          | some form, some text =>
              some (⟨charset.map Char.toLower, form, text⟩, charset.length + text.length + 7)
          | _, _ => none
      | _ => none
  | _ => none

/-- The bytes of a quoted text, in which an underscore is a space. -/
def quotedBytes : List Char → List UInt8
  | '=' :: a :: b :: rest =>
      match hexDigit? a, hexDigit? b with
      | some high, some low => (16 * high + low).toUInt8 :: quotedBytes rest
      | _, _ => 61 :: quotedBytes (a :: b :: rest)
  | c :: rest => (if c = '_' then 32 else c.toNat.toUInt8) :: quotedBytes rest
  | [] => []

def bytes? (word : EncodedWord) : Option (List UInt8) :=
  match word.form with
  | .quoted => some (quotedBytes word.text)
  | .base64 => Base64.bytes? word.text

end EncodedWord

inductive HeaderWord where
  | plain (text : List Char)
  | encoded (word : EncodedWord)
deriving DecidableEq

namespace HeaderWord

def text : HeaderWord → List Char
  | .plain text => text
  | .encoded word => word.text

def isEncoded : HeaderWord → Bool
  | .plain _ => false
  | .encoded _ => true

/-- The words of a text after some plain characters, the last one first, and some that are
passed over. -/
def split (skipped : Nat) (before : List Char) : List Char → List HeaderWord
  | [] => [.plain before.reverse]
  | c :: cs =>
      if skipped = 0 then
        match EncodedWord.ofStart? (c :: cs) with
        | some (word, length) =>
            .plain before.reverse :: .encoded word :: split (length - 1) [] cs
        | none => split 0 (c :: before) cs
      else split (skipped - 1) before cs

/-- The words of a line.  The plain text before the first encoded one has no blanks at its
start, and there is no empty plain text. -/
def ofLine (line : List Char) : List HeaderWord :=
  let words := match split 0 [] line with
    | plain text :: rest => plain (text.dropWhile isBlank) :: rest
    | words => words
  words.filter (· ≠ plain [])

/-- Whether a word is blank, between two words of which the later one is encoded. -/
def isGap (before word after : HeaderWord) : Bool :=
  before.isEncoded && after.isEncoded && word.text ≠ [] && word.text.all isBlank

def withoutGaps (before : HeaderWord) : List HeaderWord → List HeaderWord
  | word :: after :: rest =>
      if isGap before word after then withoutGaps word (after :: rest)
      else word :: withoutGaps word (after :: rest)
  | words => words

end HeaderWord

end Rendezvous
