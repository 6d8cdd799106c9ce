import Rendezvous.Text.Digit
import Rendezvous.Text.Blank

/-!
# Numerals

Writing integers with a least width, and reading them in the digits of every script, with
white space around, one sign, and a single underscore between two digits.  Numerals of very
many digits are not read.
-/

namespace Rendezvous.Text

/-- Decimal digits of `n`, with zeros in front up to `width`. -/
def padded (width n : Nat) : List Char :=
  (Nat.toDigits 10 n).leftpad width '0'

/-- Decimal text of `n` whose minus sign counts towards the width. -/
def paddedInt (width : Nat) (n : Int) : List Char :=
  if n < 0 then '-' :: padded (width - 1) n.natAbs else padded width n.natAbs

/-- Continues a numeral whose digits so far denote `value`. -/
def digitsFrom? (value : Nat) : List Char → Option Nat
  | [] => some value
  | c :: rest =>
      match decimalDigit? c with
      | some digit => digitsFrom? (10 * value + digit) rest
      | none =>
          if c = '_' then
            match rest with
            | next :: later =>
                match decimalDigit? next with
                | some digit => digitsFrom? (10 * value + digit) later
                | none => none
            | [] => none
          else
            none

def natural? : List Char → Option Nat
  | [] => none
  | c :: rest => (decimalDigit? c).bind fun digit => digitsFrom? digit rest

def signed? : List Char → Option Int
  | [] => none
  | c :: rest =>
      if c = '-' then (natural? rest).map fun n => -(n : Int)
      else if c = '+' then (natural? rest).map fun n => (n : Int)
      else (natural? (c :: rest)).map fun n => (n : Int)

/-- A numeral has at most this many digits. -/
def mostDigits : Nat := 4300

def integer? (cs : List Char) : Option Int :=
  if mostDigits < cs.countP fun c => (decimalDigit? c).isSome then none
  else signed? (trim isSpace cs)

end Rendezvous.Text
