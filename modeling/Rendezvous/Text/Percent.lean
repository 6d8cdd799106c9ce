import Rendezvous.Text.Utf8

/-!
# Percent escapes

In an address of the web any byte may be written as a percent sign and two hexadecimal
digits.
-/

namespace Rendezvous.Text

def hexDigit? (c : Char) : Option Nat :=
  let n := c.toNat
  if 48 ≤ n ∧ n < 58 then some (n - 48)
  else if 97 ≤ n ∧ n < 103 then some (n - 87)
  else if 65 ≤ n ∧ n < 71 then some (n - 55)
  else none

def hexChar (digit : Nat) : Char :=
  if digit < 10 then Char.ofNat (48 + digit) else Char.ofNat (55 + digit)

def escapeByte (byte : UInt8) : List Char :=
  ['%', hexChar (byte.toNat / 16), hexChar (byte.toNat % 16)]

/-- A text with an escape for every byte of the characters that are not safe. -/
def percentEscape (safe : Char → Bool) (cs : List Char) : List Char :=
  cs.flatMap fun c => if safe c then [c] else (utf8 c).flatMap escapeByte

def isAscii (c : Char) : Bool := c.toNat < 0x80

/-- The bytes of a text, with each escape as the byte it stands for. -/
def unescapedBytes : List Char → List UInt8
  | '%' :: a :: b :: rest =>
      match hexDigit? a, hexDigit? b with
      | some high, some low => (16 * high + low).toUInt8 :: unescapedBytes rest
      | _, _ => 37 :: unescapedBytes (a :: b :: rest)
  | c :: rest => utf8 c ++ unescapedBytes rest
  | [] => []

/-- A text with its escapes replaced.  Runs of ASCII characters are read on their own, so
that no escape completes a character which stands beside it. -/
def percentUnescape (cs : List Char) : List Char :=
  (cs.splitBy fun a b => isAscii a = isAscii b).flatMap fun run =>
    if run.all isAscii then ofUtf8 (unescapedBytes run) else run

/-! ## Parameters -/

/-- Letters, digits and the marks that stand for themselves everywhere. -/
def isUnreserved (c : Char) : Bool :=
  c.isAlphanum || c = '-' || c = '.' || c = '_' || c = '~'

/-- A name or a value of a parameter, with a plus for every space. -/
def escapeParameter (text : String) : List Char :=
  text.toList.flatMap fun c => if c = ' ' then ['+'] else percentEscape isUnreserved [c]

def unescapeParameter (cs : List Char) : String :=
  String.ofList (percentUnescape (cs.map fun c => if c = '+' then ' ' else c))

def writeParameters (parameters : List (String × String)) : List Char :=
  ['&'].intercalate (parameters.map fun parameter =>
    escapeParameter parameter.1 ++ '=' :: escapeParameter parameter.2)

/-- The parameters of a text.  One without a value has an empty one. -/
def readParameters (cs : List Char) : List (String × String) :=
  ((cs.splitOn '&').filter (· ≠ [])).map fun part =>
    (unescapeParameter (part.takeWhile (· ≠ '=')),
      unescapeParameter ((part.dropWhile (· ≠ '=')).drop 1))

end Rendezvous.Text
