import Rendezvous.Form.Number
import Rendezvous.Form.Payload
import Rendezvous.Instant

/-!
# Moments

Forms take dates and instants as texts, or as the time that passed since 1970, in seconds
or, where there would be too many of them, in milliseconds.  The year nought is understood
but lies outside the calendar.
-/

namespace Rendezvous.Moment

/-- Seconds from the midnight that begins day one to the year 1970. -/
def epoch : Int := 62135596800

/-- A count above this is one of milliseconds. -/
def mostSeconds : Int := 20000000000

/-- The seconds between which a count is understood: the year nought and the years up to
9999. -/
def isUnderstood (seconds : Int) : Bool :=
  -62167219200 ≤ seconds && seconds ≤ 253402300799

def ofCount? (count micros : Int) : Option Instant :=
  let micros :=
    if count.natAbs ≤ mostSeconds then count * 1000000 + micros else count * 1000 + micros
  if isUnderstood (micros.fdiv 1000000) then some ⟨epoch * 1000000 + micros, some 0⟩ else none

def million : Double := .ofNat 1000000

/-- The instant of a count that is a double.  What follows the point is rounded to
microseconds, whatever its sign. -/
def ofDouble? (x : Double) : Option Instant :=
  if x.isFinite then ofCount? x.floor (x.fractional.mul million).round.natAbs else none

def ofPointed? (x : Double) : Option Instant :=
  let seconds :=
    if (x.magnitude : Int) ≤ mostSeconds * Double.one then x else x.div (.ofNat 1000)
  let rest := seconds.add (Double.ofUnits (-(seconds.floor * Double.one)) 1)
  ofCount? seconds.floor (rest.mul million).round

/-- Adds the digits after the point one by one; each has the next power of ten for a
divisor. -/
def addDigits (value divisor : Double) : List Char → Double
  | [] => value
  | c :: cs =>
      addDigits (value.add ((Double.ofNat ((Text.asciiDigit? c).getD 0)).div divisor))
        (divisor.mul (.ofNat 10)) cs

def largest : Nat := 9223372036854775807

/-- The instant of a text that is a count: digits after an optional sign, and perhaps a
point with or without further digits. -/
def ofNumeral? (cs : List Char) : Option Instant :=
  let (negative, digits) :=
    match cs with
    | '-' :: rest => (true, rest)
    | '+' :: rest => (false, rest)
    | rest => (false, rest)
  match Number.spanDigits digits with
  | ([], _) => none
  | (whole, []) =>
      let size := Number.digitsValue whole
      if size ≤ largest then ofCount? (if negative then -size else size) 0 else none
  | (whole, mark :: fraction) =>
      let size := Number.digitsValue whole
      if mark = '.' && fraction.all Number.isDigit && size ≤ largest then
        let x := addDigits (.ofNat size) (.ofNat 10) fraction
        ofPointed? (if negative then x.neg else x)
      else
        none

def ofText? (cs : List Char) : Option Instant :=
  (Instant.readClock? cs).or (ofNumeral? cs)

def ofInteger? (n : Int) : Option (Option Instant) :=
  (Double.ofInt? n).map fun _ => ofCount? n 0

def checked (moment : Instant) : Checked Instant :=
  if moment.isWithinCalendar then .valid moment else .fault .instantOutside

/-- Reads an instant.  A date alone is its midnight. -/
def instant : Payload → Checked Instant
  | .text value =>
      let cs := value.toList
      match ofText? cs, Instant.wholeDay? cs with
      | some moment, _ => checked moment
      | none, some day => checked ⟨(day - 1) * Instant.microsPerDay, none⟩
      | none, none => .fault .instantText
  | .integer value =>
      match ofInteger? value with
      | some (some moment) => checked moment
      | some none => .fault .instantOutside
      | none => .fault .instant
  | .real value =>
      match ofDouble? value with
      | some moment => checked moment
      | none => .fault .instantOutside
  | _ => .fault .instant

def checkedDay (number : Int) : Checked Date :=
  match Date.ofOrdinal? number.toNat with
  | some day => .valid day
  | none => .fault .dateOutside

/-- The day of a moment that is the midnight of its clock. -/
def midnight (moment : Instant) : Checked Date :=
  if moment.localMicros.fmod Instant.microsPerDay = 0 then
    checkedDay (moment.localMicros.fdiv Instant.microsPerDay + 1)
  else
    .fault .dateWithTime

def date : Payload → Checked Date
  | .text value =>
      let cs := value.toList
      match Instant.wholeDay? cs, ofText? cs with
      | some day, _ => checkedDay day
      | none, some moment => midnight moment
      | none, none => .fault .dateText
  | .integer value =>
      match ofInteger? value with
      | some (some moment) => midnight moment
      | some none => .fault .dateText
      | none => .fault .date
  | .real value =>
      match ofDouble? value with
      | some moment => midnight moment
      | none => .fault .dateText
  | _ => .fault .date

end Rendezvous.Moment
