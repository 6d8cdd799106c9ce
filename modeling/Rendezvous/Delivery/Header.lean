import Rendezvous.Delivery.EncodedWord
import Rendezvous.Failure

/-!
# Headers of a letter

A value goes out with its lines one below the other, where every line but the first is
indented; any other line would begin a header of its own.  Whoever receives the letter
reads the encoded words in it.  A value with characters outside ASCII goes out as encoded
words altogether, one a line, so that nothing in it is read as anything else.
-/

namespace Rendezvous

open Text

namespace Header

def isIndent (c : Char) : Bool := c = ' ' || c = '\t'

/-! ## Sending -/

def withoutLoneSpace (line : List Char) : List Char :=
  if line.reverse.takeWhile isIndent = [' '] then line.dropLast else line

/-- Lines, the last one first, with a further one below them.  A blank one is added to the
end of the last. -/
def addLine (above : List (List Char)) (line : List Char) : List (List Char) :=
  match above with
  | last :: rest => if line.all isBlank then (last ++ line) :: rest else line :: last :: rest
  | [] => [line]

def layout (value : List Char) : List Char :=
  match lines value with
  | [] => []
  | [line] => line
  | lines => ['\n'].intercalate ((lines.map withoutLoneSpace).foldl addLine []).reverse

def afterBreak (holds : List Char → Bool) : List Char → Bool
  | '\n' :: cs => holds cs || afterBreak holds cs
  | _ :: cs => afterBreak holds cs
  | [] => false

def opensHeader (cs : List Char) : Bool :=
  ((cs.takeWhile fun c => !isIndent c).drop 1).contains ':'

def opensLine : List Char → Bool
  | c :: _ => !isIndent c
  | [] => false

/-- A value of ASCII characters as it goes out, if it stays one header. -/
def sent (value : List Char) : Except Failure (List Char) :=
  let sent := layout value
  if afterBreak opensHeader sent then .error .nestedHeader
  else if afterBreak opensLine sent then .error .brokenHeader
  else .ok sent

/-! ## Reading -/

structure Run where
  charset : List Char
  text : List Char

def plainCharset : List Char := "us-ascii".toList

def aliases : List (List Char × List Char) :=
  [("latin-1".toList, "iso-8859-1".toList), ("latin_1".toList, "iso-8859-1".toList),
    ("latin-9".toList, "iso-8859-15".toList), ("latin_9".toList, "iso-8859-15".toList),
    ("ascii".toList, plainCharset)]

def bytesOf : HeaderWord → Except Failure (Option (List Char) × List UInt8)
  | .plain text => .ok (none, text.flatMap utf8)
  | .encoded word =>
      match word.bytes? with
      | some bytes => .ok (some word.charset, bytes)
      | none => .error .badEncoding

/-- Bytes with those of the same charset put together: plain words with a space between
them, encoded ones without. -/
def joinBytes : List (Option (List Char) × List UInt8) → List (Option (List Char) × List UInt8)
  | [] => []
  | (charset, bytes) :: rest =>
      match joinBytes rest with
      | (next, more) :: rest =>
          if next = charset then
            (charset, bytes ++ (if charset.isNone then [32] else []) ++ more) :: rest
          else (charset, bytes) :: (next, more) :: rest
      | [] => [(charset, bytes)]

/-- The characters of some bytes.  Where no charset is named it is ASCII. -/
def runOf (part : Option (List Char) × List UInt8) : Except Failure Run := do
  let name := part.1.getD plainCharset
  let charset ← match if name = [] then some .ascii else Charset.ofName? name with
    | some charset => pure charset
    | none => .error .unknownCharset
  match charset.read? part.2 with
  | some text => pure ⟨(aliases.lookup name).getD name, text⟩
  | none => .error .outsideCharset

def joinRuns : List Run → List Run
  | [] => []
  | run :: rest =>
      match joinRuns rest with
      | next :: rest =>
          if next.charset = run.charset then
            ⟨run.charset, run.text ++ ' ' :: next.text⟩ :: rest
          else run :: next :: rest
      | [] => [run]

def isMark (c : Char) : Bool := isBlank c || c = '(' || c = ')' || c = '\\'

/-- Whether a space is needed between two runs: where an encoded one meets a plain one,
unless the plain one has a mark there. -/
def needsSpace (before after : Run) : Bool :=
  if after.charset = plainCharset then
    before.charset ≠ plainCharset && !after.text.head?.any isMark
  else before.charset = plainCharset && !before.text.getLast?.any isMark

def textOf : List Run → List Char
  | before :: after :: rest =>
      before.text ++ (if needsSpace before after then [' '] else []) ++ textOf (after :: rest)
  | [run] => run.text
  | [] => []

def hasEncoded (cs : List Char) : Bool := (HeaderWord.split 0 [] cs).any (·.isEncoded)

def read (sent : List Char) : Except Failure (List Char) := do
  let sent := trimEnd (fun c => c = '\r' || c = '\n') (sent.dropWhile isIndent)
  if hasEncoded sent then
    let words := HeaderWord.withoutGaps (.plain []) ((lines sent).flatMap HeaderWord.ofLine)
    let runs ← (joinBytes (← words.mapM bytesOf)).mapM runOf
    pure (textOf (joinRuns runs))
  else pure sent

/-! ## Values outside ASCII -/

/-- A value as it is read when each of its lines went out as an encoded word. -/
def unfolded (value : List Char) : List Char :=
  match lines value with
  | [] => []
  | line :: rest => line ++ rest.flatMap fun line => ' ' :: line.dropWhile isBlank

def check (value : String) : Except Failure Unit :=
  if value.toList.all isAscii then (sent value.toList).map fun _ => () else .ok ()

def received (value : String) : Except Failure String :=
  if value.toList.all isAscii then do
    pure (String.ofList (← read (← sent value.toList)))
  else .ok (String.ofList (unfolded value.toList))

end Header

end Rendezvous
