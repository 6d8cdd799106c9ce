import Rendezvous.Text.Numeral

/-!
# Dates

A date is a day of the proleptic Gregorian calendar from 0001-01-01, which is day
one, to 9999-12-31.  Order and arithmetic are those of the day number; year, month
and day are a view of it.
-/

namespace Rendezvous

/-- The number of the last day, 9999-12-31. -/
def lastOrdinal : Nat := 3652059

/-- A day from 0001-01-01 to 9999-12-31. -/
structure Date where
  ordinal : Nat
  one_le : 1 ≤ ordinal
  le_last : ordinal ≤ lastOrdinal

/-- Days of the week, with Sunday as zero. -/
abbrev Weekday := Fin 7

namespace Date

theorem ext {a b : Date} (same : a.ordinal = b.ordinal) : a = b := by
  cases a
  cases b
  cases same
  rfl

instance : DecidableEq Date := fun a b =>
  if same : a.ordinal = b.ordinal then .isTrue (ext same)
  else .isFalse fun equal => same (congrArg ordinal equal)

instance : LE Date := ⟨fun a b => a.ordinal ≤ b.ordinal⟩
instance : LT Date := ⟨fun a b => a.ordinal < b.ordinal⟩
instance (a b : Date) : Decidable (a ≤ b) := inferInstanceAs (Decidable (a.ordinal ≤ b.ordinal))
instance (a b : Date) : Decidable (a < b) := inferInstanceAs (Decidable (a.ordinal < b.ordinal))
instance : Max Date := ⟨fun a b => if a ≤ b then b else a⟩
instance : Min Date := ⟨fun a b => if a ≤ b then a else b⟩

theorem le_def {a b : Date} : a ≤ b ↔ a.ordinal ≤ b.ordinal := Iff.rfl

theorem lt_def {a b : Date} : a < b ↔ a.ordinal < b.ordinal := Iff.rfl

def ofOrdinal? (n : Nat) : Option Date :=
  if within : 1 ≤ n ∧ n ≤ lastOrdinal then some ⟨n, within.1, within.2⟩ else none

theorem ofOrdinal?_eq_some_iff {n : Nat} {date : Date} :
    ofOrdinal? n = some date ↔ date.ordinal = n := by
  constructor
  · intro found
    simp only [ofOrdinal?] at found
    split at found
    · cases found
      rfl
    · cases found
  · intro same
    subst same
    simp [ofOrdinal?, date.one_le, date.le_last]

/-- The following day, which the last day does not have. -/
def next? (date : Date) : Option Date :=
  ofOrdinal? (date.ordinal + 1)

/-- Day one is a Monday. -/
def weekday (date : Date) : Weekday :=
  ⟨date.ordinal % 7, Nat.mod_lt _ (by decide)⟩

/-! ## Year, month and day -/

/-- Every fourth year is a leap year, except the centuries that four does not divide. -/
def isLeap (year : Nat) : Bool :=
  year % 4 == 0 && (year % 100 != 0 || year % 400 == 0)

def daysInMonth (year month : Nat) : Nat :=
  if month = 2 then if isLeap year then 29 else 28
  else if month = 4 ∨ month = 6 ∨ month = 9 ∨ month = 11 then 30
  else 31

def daysBeforeYear (year : Nat) : Nat :=
  365 * (year - 1) + (year - 1) / 4 - (year - 1) / 100 + (year - 1) / 400

def daysBeforeMonth (year month : Nat) : Nat :=
  let leap := if isLeap year then 1 else 0
  match month with
  | 0 | 1 => 0
  | 2 => 31
  | 3 => 59 + leap
  | 4 => 90 + leap
  | 5 => 120 + leap
  | 6 => 151 + leap
  | 7 => 181 + leap
  | 8 => 212 + leap
  | 9 => 243 + leap
  | 10 => 273 + leap
  | 11 => 304 + leap
  | _ => 334 + leap

def ofCivil? (year month day : Nat) : Option Date :=
  if 1 ≤ year ∧ year ≤ 9999 ∧ 1 ≤ month ∧ month ≤ 12 ∧ 1 ≤ day
      ∧ day ≤ daysInMonth year month then
    ofOrdinal? (daysBeforeYear year + daysBeforeMonth year month + day)
  else
    none

/-- The mean length of a year gives the year up to a neighbour. -/
def year (date : Date) : Nat :=
  let guess := (date.ordinal - 1) * 400 / 146097 + 1
  if daysBeforeYear (guess + 1) < date.ordinal then guess + 1
  else if date.ordinal ≤ daysBeforeYear guess then guess - 1
  else guess

def dayOfYear (date : Date) : Nat :=
  date.ordinal - daysBeforeYear date.year

/-- The month is the last one that begins before the day. -/
def month (date : Date) : Nat :=
  let leap := if isLeap date.year then 1 else 0
  let count := date.dayOfYear
  if count ≤ 31 then 1
  else if count ≤ 59 + leap then 2
  else if count ≤ 90 + leap then 3
  else if count ≤ 120 + leap then 4
  else if count ≤ 151 + leap then 5
  else if count ≤ 181 + leap then 6
  else if count ≤ 212 + leap then 7
  else if count ≤ 243 + leap then 8
  else if count ≤ 273 + leap then 9
  else if count ≤ 304 + leap then 10
  else if count ≤ 334 + leap then 11
  else 12

def day (date : Date) : Nat :=
  date.dayOfYear - daysBeforeMonth date.year date.month

/-! ## Text -/

def isoChars (date : Date) : List Char :=
  Text.padded 4 date.year ++ '-' :: Text.padded 2 date.month ++ '-' :: Text.padded 2 date.day

def iso (date : Date) : String :=
  String.ofList date.isoChars

/-- Four decimal digits of any script. -/
def readYear? : List Char → Option (Nat × List Char)
  | a :: b :: c :: d :: rest => do
      let a ← Text.decimalDigit? a
      let b ← Text.decimalDigit? b
      let c ← Text.decimalDigit? c
      let d ← Text.decimalDigit? d
      pure (1000 * a + 100 * b + 10 * c + d, rest)
  | _ => none

/-- One or two ASCII digits from 1 to 12, up to the hyphen that follows them. -/
def readMonth? : List Char → Option (Nat × List Char)
  | a :: '-' :: rest => (Text.digitBetween? 1 9 a).map fun month => (month, rest)
  | a :: b :: '-' :: rest =>
      if a = '1' then (Text.digitBetween? 0 2 b).map fun unit => (10 + unit, rest)
      else if a = '0' then (Text.digitBetween? 1 9 b).map fun month => (month, rest)
      else none
  | _ => none

/-- One or two digits from 1 to 31; a zero or a space may stand before a single digit,
and the second digit after 1 or 2 may be of any script. -/
def readDay? : List Char → Option Nat
  | [a] => Text.digitBetween? 1 9 a
  | [a, b] =>
      if a = '3' then (Text.digitBetween? 0 1 b).map fun unit => 30 + unit
      else if a = '1' then (Text.decimalDigit? b).map fun unit => 10 + unit
      else if a = '2' then (Text.decimalDigit? b).map fun unit => 20 + unit
      else if a = '0' ∨ a = ' ' then Text.digitBetween? 1 9 b
      else none
  | _ => none

def parse? (text : String) : Option Date := do
  let (year, rest) ← readYear? text.toList
  match rest with
  | '-' :: rest =>
      let (month, rest) ← readMonth? rest
      let day ← readDay? rest
      ofCivil? year month day
  | _ => none

end Date

end Rendezvous
