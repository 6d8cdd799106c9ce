import Rendezvous.Double
import Rendezvous.Text.Numeral

/-!
# Times of day

A time is kept as the text it was given in.  `parse?` accepts `H:MM` and `HH:MM` and
writes the hour with two digits; `minutes?` reads more freely, any two integers
around one colon, and counts minutes from midnight; `ofMinutes` writes a count back.
-/

namespace Rendezvous.TimeOfDay

def dayStart : String := "00:00"

def dayEnd : String := "23:59"

/-- The number of minutes before `dayEnd`. -/
def lastMinute : Int := 1439

/-- A clock reading: the hour, and the two characters of the minute. -/
structure Reading where
  hour : Nat
  tens : Char
  unit : Char

/-- Minutes run from 00 to 59; their second digit may be of any script. -/
def reading? (hour : Option Nat) (tens unit : Char) : Option Reading := do
  let hour ← hour
  let _ ← Text.digitBetween? 0 5 tens
  let _ ← Text.decimalDigit? unit
  pure ⟨hour, tens, unit⟩

def hour? (tens unit : Char) : Option Nat :=
  if tens = '0' then Text.decimalDigit? unit
  else if tens = '1' then (Text.decimalDigit? unit).map (10 + ·)
  else if tens = '2' then (Text.digitBetween? 0 3 unit).map (20 + ·)
  else none

/-- Text without the line feed that may end it. -/
def withoutLineFeed (cs : List Char) : List Char :=
  if cs.getLast? = some '\n' then cs.dropLast else cs

/-- The hour has one or two digits, the minute two. -/
def read? (text : String) : Option Reading :=
  match withoutLineFeed text.toList with
  | [unit, ':', m, n] => reading? (Text.decimalDigit? unit) m n
  | [tens, unit, ':', m, n] => reading? (hour? tens unit) m n
  | _ => none

def isValid (text : String) : Bool :=
  (read? text).isSome

/-- The reading as `HH:MM`; the minute keeps its characters. -/
def Reading.text (reading : Reading) : String :=
  String.ofList (Text.padded 2 reading.hour ++ [':', reading.tens, reading.unit])

def parse? (text : String) : Option String :=
  (read? text).map Reading.text

theorem isValid_iff_parse?_isSome (text : String) :
    isValid text = (parse? text).isSome := by
  simp [isValid, parse?]

/-- Minutes from midnight of two integers around a single colon. -/
def minutes? (text : String) : Option Int :=
  match text.toList.dropWhile (· ≠ ':') with
  | [] => none
  | _ :: late =>
      if ':' ∈ late then none
      else do
        let hours ← Text.integer? (text.toList.takeWhile (· ≠ ':'))
        let minutes ← Text.integer? late
        pure (60 * hours + minutes)

/-- A count of minutes as hours and minutes, rounded towards earlier hours. -/
def ofMinutes (minutes : Int) : String :=
  String.ofList (Text.paddedInt 2 (minutes.fdiv 60) ++ ':' :: Text.paddedInt 2 (minutes.fmod 60))

def hours? (minutes : Int) : Option Double :=
  (Double.ofInt? minutes).map fun count => count.div (.ofNat 60)

end Rendezvous.TimeOfDay
