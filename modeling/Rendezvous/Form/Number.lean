import Rendezvous.Double
import Rendezvous.Form.Checked
import Rendezvous.Text.Blank
import Rendezvous.Text.Digit

/-!
# Numbers in texts

The texts that forms take for numbers.  An integer is a plain numeral, or one that is
made plain first: without blanks around it, a fraction of noughts, a plus, noughts in
front, and single underscores.  A double is written with a point and an exponent, or is
infinite, or is no number.
-/

namespace Rendezvous.Number

def isDigit (c : Char) : Bool := (Text.asciiDigit? c).isSome

/-- The value of a run of ASCII digits, any other character counting as nought. -/
def digitsValue (cs : List Char) : Nat :=
  cs.foldl (fun value c => 10 * value + (Text.asciiDigit? c).getD 0) 0

def spanDigits (cs : List Char) : List Char × List Char := cs.span isDigit

/-- Text without the underscores that stand singly between other characters. -/
def withoutUnderscores? (cs : List Char) : Option (List Char) :=
  let paired := (cs.zip (cs.drop 1)).any fun pair => pair.1 = '_' && pair.2 = '_'
  if cs.head? = some '_' || cs.getLast? = some '_' || paired then none
  else some (cs.filter (· ≠ '_'))

/-! ## Integers -/

/-- A numeral that no nought begins, but for nought itself. -/
def natural? (cs : List Char) : Option Nat :=
  if cs.isEmpty || !cs.all isDigit || (cs.head? = some '0' && cs.length ≠ 1) then none
  else some (digitsValue cs)

def plain? : List Char → Option Int
  | '-' :: cs => (natural? cs).map fun n => -(n : Int)
  | cs => (natural? cs).map fun n => (n : Int)

def longest : Nat := 4300

/-- Whether the numeral at the front of a text is too long; its minus counts. -/
def isTooLong (cs : List Char) : Bool :=
  match cs with
  | '-' :: digits => digits.head? ≠ some '0' && longest < (spanDigits digits).1.length + 1
  | digits => digits.head? ≠ some '0' && longest < (spanDigits digits).1.length

/-- The part before a point that noughts follow, or all of a text without one. -/
def withoutFraction? (cs : List Char) : Option (List Char) :=
  match cs.span (· ≠ '.') with
  | (whole, []) => some whole
  | (whole, _ :: fraction) =>
      if !fraction.isEmpty && fraction.all (· = '0') then some whole else none

/-- The text after a plus, which no minus may follow. -/
def withoutPlus? : List Char → Option (List Char)
  | '+' :: '-' :: _ => none
  | '+' :: cs => some cs
  | cs => some cs

/-- The text after noughts and underscores, of which the last stays where nothing follows. -/
def afterNoughts? (last : Char) : List Char → Option (List Char)
  | [] => some [last]
  | c :: cs =>
      if c = '0' ∨ c = '_' then afterNoughts? c cs
      else if c = '-' ∨ isDigit c then some (c :: cs)
      else none

def withoutNoughts? : List Char → Option (List Char)
  | [] => none
  | c :: cs =>
      if c = '0' then afterNoughts? c cs
      else if c = '-' ∨ isDigit c then some (c :: cs)
      else none

def made? (cs : List Char) : Option (List Char) := do
  let whole ← withoutFraction? (Text.trim Text.isSpace cs)
  let unsigned ← withoutPlus? whole
  let short ← withoutNoughts? unsigned
  withoutUnderscores? short

def integer (text : String) : Checked Int :=
  let cs := text.toList
  match plain? cs, made? cs with
  | some n, _ => if isTooLong cs then .fault .integerSize else .valid n
  | none, some plain =>
      if isTooLong cs || isTooLong plain then .fault .integerSize
      else
        match plain? plain with
        | some n => .valid n
        | none => .fault .integerText
  | none, none => if isTooLong cs then .fault .integerSize else .fault .integerText

/-! ## Doubles -/

def exponent? : List Char → Option Int
  | [] => some 0
  | mark :: rest =>
      if mark = 'e' ∨ mark = 'E' then
        let (negative, digits) :=
          match rest with
          | '-' :: rest => (true, rest)
          | '+' :: rest => (false, rest)
          | rest => (false, rest)
        match spanDigits digits with
        | ([], _) => none
        | (digits, []) =>
            let size : Int := digitsValue digits
            some (if negative then -size else size)
        | (_, _ :: _) => none
      else
        none

/-- Decimal digits times a power of ten.  Powers that no finite number reaches are cut. -/
def ofDecimal (negative : Bool) (digits : List Char) (power : Int) : Double :=
  let bound : Int := 400 + digits.length
  let power := max (-bound) (min power 400)
  .nearest negative (digitsValue digits * Nat.pow 10 power.toNat * Double.one)
    (Nat.pow 10 (-power).toNat)

/-- A number without its sign: digits with at most one point, and an exponent. -/
def magnitude? (negative : Bool) (cs : List Char) : Option Double :=
  let lower := String.ofList (cs.map Char.toLower)
  if lower = "inf" ∨ lower = "infinity" then some (.infinity negative)
  else if lower = "nan" then some (.nan negative)
  else
    let (before, rest) := spanDigits cs
    let (after, rest) :=
      match rest with
      | '.' :: rest => spanDigits rest
      | rest => ([], rest)
    if before.isEmpty && after.isEmpty then none
    else (exponent? rest).map fun power =>
      ofDecimal negative (before ++ after) (power - after.length)

def signed? : List Char → Option Double
  | '-' :: cs => magnitude? true cs
  | '+' :: cs => magnitude? false cs
  | cs => magnitude? false cs

/-- Reads a double, with white space around it or else with underscores in it. -/
def double? (text : String) : Option Double :=
  let cs := text.toList
  (signed? (Text.trim Text.isSpace cs)).or ((withoutUnderscores? cs).bind signed?)

end Rendezvous.Number
