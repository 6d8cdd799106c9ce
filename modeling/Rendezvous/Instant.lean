import Rendezvous.Date

/-!
# Instants

An instant is a reading of the clock together with the offset of that clock.  Instants
with an offset are points in time, and are compared as such, whatever their offsets are.
An instant without an offset is the reading of a clock that nobody named: two of them can
be compared, but not one of them with a point in time.
-/

namespace Rendezvous

/-- Microseconds since the midnight that begins day one, of universal time where the offset
of the local clock is known, in minutes, and else of the local clock. -/
structure Instant where
  micros : Int
  offset : Option Int
deriving DecidableEq

namespace Instant

def microsPerSecond : Int := 1000000

def microsPerMinute : Int := 60 * microsPerSecond

def microsPerHour : Int := 60 * microsPerMinute

def microsPerDay : Int := 24 * microsPerHour

def localMicros (instant : Instant) : Int :=
  instant.micros + instant.offset.getD 0 * microsPerMinute

/-- Whether the local reading lies within the years 1 to 9999. -/
def isWithinCalendar (instant : Instant) : Bool :=
  0 ≤ instant.localMicros && instant.localMicros < (lastOrdinal : Int) * microsPerDay

def isAnchored (instant : Instant) : Bool := instant.offset.isSome

/-- How two instants follow each other, if they can be compared. -/
def compare? (a b : Instant) : Option Ordering :=
  if a.isAnchored = b.isAnchored then some (compare a.micros b.micros) else none

theorem isSome_compare? {a b : Instant} :
    (a.compare? b).isSome ↔ a.isAnchored = b.isAnchored := by
  rw [compare?]
  split
  next same => simp [same]
  next other => simp [other]

/-- The instant some microseconds later, unless its local reading leaves the calendar. -/
def shift? (instant : Instant) (delta : Int) : Option Instant :=
  let moved := instant.localMicros + delta
  if 0 ≤ moved ∧ moved < (lastOrdinal : Int) * microsPerDay then
    some { instant with micros := instant.micros + delta }
  else
    none

@[simp]
theorem micros_of_shift? {instant later : Instant} {delta : Int}
    (found : instant.shift? delta = some later) : later.micros = instant.micros + delta := by
  simp only [shift?] at found
  split at found
  · cases found
    rfl
  · cases found

theorem isAnchored_of_shift? {instant later : Instant} {delta : Int}
    (found : instant.shift? delta = some later) : later.isAnchored = instant.isAnchored := by
  simp only [shift?] at found
  split at found
  · cases found
    rfl
  · cases found

/-- Microseconds of a number of units, unless that is a thousand million days or more. -/
def span? (count unit : Int) : Option Int :=
  let days := (count * unit).fdiv microsPerDay
  if -999999999 ≤ days ∧ days ≤ 999999999 then some (count * unit) else none

theorem eq_of_span? {count unit span : Int} (found : span? count unit = some span) :
    span = count * unit := by
  rw [span?] at found
  split at found
  · exact (Option.some.inj found).symm
  · cases found

/-- The day that begins a number of days after day one, held within the calendar. -/
def dayAt (days : Int) : Date :=
  ⟨max 1 (min lastOrdinal (days + 1).toNat), by omega, by simp only [lastOrdinal]; omega⟩

/-- The date of universal time. -/
def date (instant : Instant) : Date :=
  dayAt (instant.micros.fdiv microsPerDay)

/-! ## Text -/

/-- Local date and time; microseconds are written when there are any. -/
def localChars (instant : Instant) : List Char :=
  let moved := instant.localMicros
  let rest := (moved.fmod microsPerDay).toNat
  let seconds := rest / 1000000
  let fraction := rest % 1000000
  (dayAt (moved.fdiv microsPerDay)).isoChars ++ 'T' :: Text.padded 2 (seconds / 3600)
    ++ ':' :: Text.padded 2 (seconds / 60 % 60) ++ ':' :: Text.padded 2 (seconds % 60)
    ++ if fraction = 0 then [] else '.' :: Text.padded 6 fraction

def offsetChars (offset : Int) : List Char :=
  let size := offset.natAbs
  (if offset < 0 then '-' else '+') :: Text.padded 2 (size / 60)
    ++ ':' :: Text.padded 2 (size % 60)

def iso (instant : Instant) : String :=
  String.ofList (instant.localChars ++ (instant.offset.map offsetChars).getD [])

/-- Date, time and offset, where `Z` stands for an offset of nought. -/
def zulu (instant : Instant) : String :=
  if instant.offset = some 0 then String.ofList (instant.localChars ++ ['Z']) else instant.iso

def digits? : Nat → List Char → Option (Nat × List Char)
  | 0, cs => some (0, cs)
  | count + 1, c :: cs => do
      let digit ← Text.asciiDigit? c
      let (later, rest) ← digits? count cs
      pure (digit * Nat.pow 10 count + later, rest)
  | _ + 1, [] => none

def twoDigits? (limit : Nat) (cs : List Char) : Option (Nat × List Char) :=
  (digits? 2 cs).filter fun read => decide (read.1 < limit)

/-- The number of the day of a year, month and day of the month, which is not above nought
in the year nought.  The calendar comes round every 400 years. -/
def dayNumber (year month day : Nat) : Int :=
  (Date.daysBeforeYear (year + 400) + Date.daysBeforeMonth year month + day : Nat) - 146097

/-- The day `YYYY-MM-DD` at the front of a text by its number, the year nought included. -/
def readDay? (cs : List Char) : Option (Int × List Char) := do
  let (year, rest) ← digits? 4 cs
  match rest with
  | '-' :: rest =>
      let (month, rest) ← digits? 2 rest
      match rest with
      | '-' :: rest =>
          let (day, rest) ← digits? 2 rest
          if 1 ≤ month ∧ month ≤ 12 ∧ 1 ≤ day ∧ day ≤ Date.daysInMonth year month then
            pure (dayNumber year month day, rest)
          else
            none
      | _ => none
  | _ => none

def wholeDay? (cs : List Char) : Option Int :=
  match readDay? cs with
  | some (day, []) => some day
  | _ => none

/-- Reads `YYYY-MM-DD` and nothing else. -/
def isoDate? (text : String) : Option Date :=
  (wholeDay? text.toList).bind fun day => Date.ofOrdinal? day.toNat

/-- Digits after the point count microseconds; those beyond the sixth are dropped. -/
def readFraction (cs : List Char) : Nat × List Char :=
  let digits := cs.takeWhile fun c => (Text.asciiDigit? c).isSome
  let six := (digits ++ List.replicate 6 '0').take 6
  (((digits? 6 six).map (·.1)).getD 0, cs.drop digits.length)

/-- Seconds and microseconds, both of which may be left out. -/
def readSeconds? : List Char → Option (Nat × List Char)
  | ':' :: cs => do
      let (seconds, rest) ← twoDigits? 60 cs
      match rest with
      | mark :: later =>
          if mark = '.' ∨ mark = ',' then
            if (later.head?.bind Text.asciiDigit?).isSome then
              let (fraction, rest) := readFraction later
              pure (seconds * 1000000 + fraction, rest)
            else
              none
          else
            pure (seconds * 1000000, mark :: later)
      | [] => pure (seconds * 1000000, [])
  | cs => some (0, cs)

/-- The direction that the sign of an offset stands for; a minus may be U+2212. -/
def direction? (sign : Char) : Option Int :=
  if sign = '+' then some 1 else if sign = '-' ∨ sign = '\u2212' then some (-1) else none

/-- Nothing, `Z`, or a signed offset in hours and minutes, as minutes. -/
def readOffset? : List Char → Option (Option Int)
  | [] => some none
  | ['Z'] => some (some 0)
  | ['z'] => some (some 0)
  | sign :: cs => do
      let direction ← direction? sign
      let (hours, rest) ← twoDigits? 24 cs
      let rest := if rest.head? = some ':' then rest.drop 1 else rest
      let (minutes, rest) ← twoDigits? 60 rest
      if rest.isEmpty then pure (some (direction * ((hours * 60 + minutes : Nat) : Int)))
      else none

def ofLocal (micros : Int) (offset : Option Int) : Instant :=
  ⟨micros - offset.getD 0 * microsPerMinute, offset⟩

/-- Reads a date, a separator, a time and an offset that may be missing; the year nought is
read as well. -/
def readClock? (cs : List Char) : Option Instant := do
  let (day, rest) ← readDay? cs
  match rest with
  | separator :: rest =>
      if separator = 'T' ∨ separator = 't' ∨ separator = ' ' ∨ separator = '_' then
        let (hour, rest) ← twoDigits? 24 rest
        match rest with
        | ':' :: rest =>
            let (minute, rest) ← twoDigits? 60 rest
            let (micros, rest) ← readSeconds? rest
            let offset ← readOffset? rest
            pure (ofLocal ((day - 1) * microsPerDay + hour * microsPerHour
              + minute * microsPerMinute + micros) offset)
        | _ => none
      else
        none
  | [] => none

def parse? (text : String) : Option Instant :=
  (readClock? text.toList).filter isWithinCalendar

end Instant

end Rendezvous
