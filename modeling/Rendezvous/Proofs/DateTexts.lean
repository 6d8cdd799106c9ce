import Rendezvous.Proofs.Civil
import Rendezvous.Proofs.Numerals
import Rendezvous.Slot

/-!
# Texts of dates

A text is accepted as a date exactly if it writes its year, its month and its day.  A month may be
written without its nought, a day without it or with a blank in its place, and some of the digits
in any script; among the texts of ten ASCII characters without a blank only `YYYY-MM-DD` is left.
-/

namespace Rendezvous

namespace Date

/-! ## Dates as they are written -/

/-- How a day is written: below ten in an ASCII digit, with a nought, a blank or nothing before
it; below thirty in two, the first of them an ASCII digit and the second of any script; from
thirty on in two ASCII digits. -/
inductive WritesDay : Nat → List Char → Prop where
  | single {day : Nat} {mark : List Char} :
      1 ≤ day → day < 10 → mark = [] ∨ mark = ['0'] ∨ mark = [' '] →
      WritesDay day (mark ++ [Nat.digitChar day])
  | double {ten digit : Nat} {unit : Char} :
      1 ≤ ten → ten ≤ 2 → Text.decimalDigit? unit = some digit →
      WritesDay (10 * ten + digit) [Nat.digitChar ten, unit]
  | last {digit : Nat} :
      digit ≤ 1 → WritesDay (30 + digit) ['3', Nat.digitChar digit]

/-- How a month is written: with as many ASCII digits as it needs, or with two. -/
structure WritesMonth (month : Nat) (front : List Char) : Prop where
  least : 1 ≤ month
  most : month ≤ 12
  eq_padded : front = Text.padded 1 month ∨ front = Text.padded 2 month

/-- How a year is written: with its four digits, each of any script. -/
structure WritesYear (year : Nat) (front : List Char) : Prop where
  small : year < 10000
  digits : front.map Text.decimalDigit? = (Text.padded 4 year).map Text.decimalDigit?

/-- A text that writes the year, the month and the day of a date. -/
def Writes (text : String) (date : Date) : Prop :=
  ∃ year month day, WritesYear date.year year ∧ WritesMonth date.month month
    ∧ WritesDay date.day day ∧ text.toList = year ++ '-' :: month ++ '-' :: day

theorem map_decimalDigit?_padded_four {year : Nat} (small : year < 10000) :
    (Text.padded 4 year).map Text.decimalDigit?
      = [some (year / 10 / 10 / 10), some (year / 10 / 10 % 10), some (year / 10 % 10),
        some (year % 10)] := by
  have read {digit : Nat} (few : digit < 10) :
      Text.decimalDigit? (Nat.digitChar digit) = some digit := (Text.digits_digitChar few).2
  rw [Text.padded_four small]
  simp only [List.map_cons, List.map_nil]
  rw [read (by omega), read (by omega), read (by omega), read (by omega)]

theorem WritesYear.length_eq {year : Nat} {front : List Char} (written : WritesYear year front) :
    front.length = 4 := by
  have lengths := congrArg List.length written.digits
  rwa [map_decimalDigit?_padded_four written.small, List.length_map] at lengths

theorem WritesYear.eq_padded {year : Nat} {front : List Char} (written : WritesYear year front)
    (ascii : Text.HasAsciiDigits front) : front = Text.padded 4 year :=
  ascii.eq_of_map Text.isDigit_of_mem_padded written.digits

theorem WritesMonth.length_le {month : Nat} {front : List Char}
    (written : WritesMonth month front) : front.length ≤ 2 := by
  obtain ⟨least, most, rfl | rfl⟩ := written
  all_goals interval_cases month <;> decide

/-- A month in two digits has its nought. -/
theorem WritesMonth.eq_of_length {month : Nat} {front : List Char}
    (written : WritesMonth month front) (full : front.length = 2) :
    front = Text.padded 2 month := by
  obtain ⟨least, most, rfl | rfl⟩ := written
  · by_cases short : month < 10
    · rw [Text.padded_one short] at full
      cases full
    · exact Text.padded_one_of_le (by omega)
  · rfl

theorem WritesDay.length_le {day : Nat} {front : List Char} (written : WritesDay day front) :
    front.length ≤ 2 := by
  cases written with
  | single least few marked => rcases marked with rfl | rfl | rfl <;> simp
  | double least few found => exact Nat.le_refl 2
  | last few => exact Nat.le_refl 2

/-- A day in two ASCII digits, with no blank in the place of the first, has its nought. -/
theorem WritesDay.eq_of_length {day : Nat} {front : List Char} (written : WritesDay day front)
    (full : front.length = 2) (filled : ' ' ∉ front) (ascii : Text.HasAsciiDigits front) :
    front = Text.padded 2 day := by
  cases written with
  | single least few marked =>
    rcases marked with rfl | rfl | rfl
    · cases full
    · exact (Text.padded_two_of_lt few).symm
    · simp at filled
  | double least few found =>
    rw [ascii.eq_digitChar (by simp) found]
    exact (Text.padded_two_add (by omega) (Text.decimalDigit?_lt found)).symm
  | last few => exact (Text.padded_two_add (by decide : 3 < 10) (by omega)).symm

theorem writesDay_padded {day : Nat} (least : 1 ≤ day) (most : day ≤ 31) :
    WritesDay day (Text.padded 2 day) := by
  by_cases short : day < 10
  · rw [Text.padded_two_of_lt short]
    exact @WritesDay.single _ ['0'] least short (.inr (.inl rfl))
  · obtain ⟨ten, digit, few, rfl⟩ : ∃ ten digit, digit < 10 ∧ day = 10 * ten + digit :=
      ⟨day / 10, day % 10, by omega, by omega⟩
    rw [Text.padded_two_add (by omega) few]
    by_cases early : ten < 3
    · exact .double (by omega) (by omega) (Text.digits_digitChar few).2
    · obtain rfl : ten = 3 := by omega
      exact .last (by omega)

/-! ## Reading -/

theorem readYear?_eq_some_iff {cs rest : List Char} {year : Nat} :
    readYear? cs = some (year, rest) ↔ ∃ front, WritesYear year front ∧ cs = front ++ rest := by
  constructor
  · intro found
    unfold readYear? at found
    split at found
    next a b c d later =>
      simp only [Option.bind_eq_bind, Option.bind_eq_some_iff, Option.pure_def, Option.some.injEq,
        Prod.mk.injEq] at found
      obtain ⟨first, a', second, b', third, c', fourth, d', rfl, rfl⟩ := found
      have := Text.decimalDigit?_lt a'
      have := Text.decimalDigit?_lt b'
      have := Text.decimalDigit?_lt c'
      have := Text.decimalDigit?_lt d'
      refine ⟨[a, b, c, d], ⟨by omega, ?_⟩, rfl⟩
      rw [map_decimalDigit?_padded_four (by omega)]
      simp only [List.map_cons, List.map_nil, a', b', c', d', List.cons.injEq, Option.some.injEq,
        and_true]
      omega
    next => cases found
  · rintro ⟨front, ⟨small, digits⟩, rfl⟩
    rw [map_decimalDigit?_padded_four small] at digits
    simp only [List.map_eq_cons_iff, List.map_eq_nil_iff] at digits
    obtain ⟨a, _, rfl, a', b, _, rfl, b', c, _, rfl, c', d, _, rfl, d', rfl⟩ := digits
    simp only [List.cons_append, List.nil_append, readYear?, a', b', c', d',
      Option.bind_eq_bind, Option.bind_some, Option.pure_def, Option.some.injEq, Prod.mk.injEq,
      and_true]
    omega

theorem readMonth?_eq_some_iff {cs rest : List Char} {month : Nat} :
    readMonth? cs = some (month, rest)
      ↔ ∃ front, WritesMonth month front ∧ cs = front ++ '-' :: rest := by
  constructor
  · intro found
    unfold readMonth? at found
    split at found
    next a later =>
      simp only [Option.map_eq_some_iff, Text.digitBetween?_eq_some_iff, Prod.mk.injEq] at found
      obtain ⟨_, ⟨least, -, few, rfl⟩, rfl, rfl⟩ := found
      exact ⟨_, ⟨least, by omega, .inl rfl⟩, by rw [Text.padded_one few]; rfl⟩
    next ten b later _ =>
      split at found
      next one =>
        simp only [Option.map_eq_some_iff, Text.digitBetween?_eq_some_iff, Prod.mk.injEq] at found
        obtain ⟨digit, ⟨-, most, few, rfl⟩, rfl, rfl⟩ := found
        refine ⟨_, ⟨by omega, by omega, .inr rfl⟩, ?_⟩
        rw [one, Text.padded_two_add (by decide : 1 < 10) few]
        rfl
      next =>
        split at found
        next zero =>
          simp only [Option.map_eq_some_iff, Text.digitBetween?_eq_some_iff, Prod.mk.injEq] at found
          obtain ⟨digit, ⟨least, -, few, rfl⟩, rfl, rfl⟩ := found
          refine ⟨_, ⟨least, by omega, .inr rfl⟩, ?_⟩
          rw [zero, Text.padded_two_of_lt few]
          rfl
        next => cases found
    next => cases found
  · rintro ⟨front, ⟨least, most, rfl | rfl⟩, rfl⟩
    all_goals interval_cases month <;> rfl

theorem readDay?_eq_some_iff {cs : List Char} {day : Nat} :
    readDay? cs = some day ↔ WritesDay day cs := by
  constructor
  · intro found
    unfold readDay? at found
    split at found
    next a =>
      obtain ⟨least, -, few, rfl⟩ := Text.digitBetween?_eq_some_iff.mp found
      exact @WritesDay.single _ [] least few (.inl rfl)
    next a b =>
      split at found
      next three =>
        simp only [Option.map_eq_some_iff, Text.digitBetween?_eq_some_iff] at found
        obtain ⟨digit, ⟨-, most, -, rfl⟩, rfl⟩ := found
        rw [three]
        exact .last most
      next =>
        split at found
        next one =>
          obtain ⟨digit, b', rfl⟩ := Option.map_eq_some_iff.mp found
          rw [one]
          exact .double (by decide : 1 ≤ 1) (by decide) b'
        next =>
          split at found
          next two =>
            obtain ⟨digit, b', rfl⟩ := Option.map_eq_some_iff.mp found
            rw [two]
            exact .double (by decide : 1 ≤ 2) (by decide) b'
          next =>
            split at found
            next mark =>
              obtain ⟨least, -, few, rfl⟩ := Text.digitBetween?_eq_some_iff.mp found
              exact @WritesDay.single _ [a] least few (.inr (by simpa using mark))
            next => cases found
    next => cases found
  · intro written
    cases written with
    | @single _ mark least few marked =>
      have digit := Text.digitBetween?_eq_some_iff.mpr
        ⟨least, Nat.le_of_lt_succ few, few, rfl⟩
      rcases marked with rfl | rfl | rfl <;> simpa [readDay?] using digit
    | @double ten digit unit least few found =>
      interval_cases ten <;> simp [readDay?, found]
    | @last digit few =>
      interval_cases digit <;> rfl

/-- A text is read as a date exactly if it writes the date. -/
theorem parse?_eq_some_iff {text : String} {date : Date} :
    parse? text = some date ↔ Writes text date := by
  unfold parse?
  simp only [Option.bind_eq_bind, Option.bind_eq_some_iff, Prod.exists, readYear?_eq_some_iff]
  constructor
  · rintro ⟨year, rest, ⟨front, written, chars⟩, found⟩
    split at found
    next later =>
      simp only [Option.bind_eq_some_iff, Prod.exists, readMonth?_eq_some_iff,
        readDay?_eq_some_iff, ofCivil?_eq_some_iff] at found
      obtain ⟨month, last, ⟨middle, written', rfl⟩, day, written'', rfl, rfl, rfl⟩ := found
      exact ⟨front, middle, last, written, written', written'', by simpa using chars⟩
    next => cases found
  · rintro ⟨front, middle, last, year, month, day, chars⟩
    refine ⟨date.year, '-' :: (middle ++ '-' :: last), ⟨front, year, by simpa using chars⟩, ?_⟩
    simp only [Option.bind_eq_some_iff, Prod.exists]
    exact ⟨date.month, last, readMonth?_eq_some_iff.mpr ⟨middle, month, rfl⟩, date.day,
      readDay?_eq_some_iff.mpr day, ofCivil?_eq_some_iff.mpr ⟨rfl, rfl, rfl⟩⟩

/-! ## Dates as they are exchanged -/

theorem writes_iso (date : Date) : Writes date.iso date := by
  obtain ⟨least, most, -, -⟩ := inMonth_month date
  obtain ⟨one, -, -⟩ := day_spec date
  have few := date.year_le
  refine ⟨_, _, _, ⟨by omega, rfl⟩, ⟨least, most, .inr rfl⟩,
    writesDay_padded one date.day_le, ?_⟩
  rw [iso, isoChars, String.toList_ofList]

/-- A date reads back from its text. -/
theorem parse?_iso (date : Date) : parse? date.iso = some date :=
  parse?_eq_some_iff.mpr date.writes_iso

@[simp] theorem request_iso (date : Date) : request date.iso = .ok date := by
  rw [request, parse?_iso]

theorem length_toList_iso (date : Date) : date.iso.toList.length = 10 := by
  obtain ⟨-, most, -, -⟩ := inMonth_month date
  have few := date.year_le
  have last := date.day_le
  rw [iso, isoChars, String.toList_ofList, Text.padded_four (by omega), Text.padded_two (by omega),
    Text.padded_two (by omega)]
  rfl

/-- A date is written in digits and hyphens. -/
theorem not_mem_iso (date : Date) {c : Char} (other : c ≠ '-') (noDigit : ¬ c.isDigit) :
    c ∉ date.iso.toList := by
  have outside (width n : Nat) : c ∉ Text.padded width n := by
    intro inside
    exact noDigit (Text.isDigit_of_mem_padded c inside)
  rw [iso, isoChars, String.toList_ofList]
  simp [outside, other]

theorem hasAsciiDigits_iso (date : Date) : Text.HasAsciiDigits date.iso.toList := by
  have hyphen : Text.decimalDigit? '-' = Text.asciiDigit? '-' := by decide
  simp [iso, isoChars, Text.hasAsciiDigits_append, Text.hasAsciiDigits_cons,
    Text.hasAsciiDigits_padded, hyphen]

/-- Ten ASCII characters without a blank write a date in one way only. -/
theorem Writes.eq_iso {text : String} {date : Date} (written : Writes text date)
    (ascii : Text.HasAsciiDigits text.toList) (ten : text.toList.length = 10)
    (filled : ' ' ∉ text.toList) : text = date.iso := by
  obtain ⟨front, middle, last, year, month, day, chars⟩ := written
  have years := year.length_eq
  have months := month.length_le
  have days := day.length_le
  rw [chars] at ascii ten filled
  simp only [List.append_assoc, List.cons_append, Text.hasAsciiDigits_append,
    Text.hasAsciiDigits_cons] at ascii
  simp only [List.length_append, List.length_cons] at ten
  simp only [List.mem_append, List.mem_cons, not_or] at filled
  apply String.toList_injective
  rw [chars, iso, isoChars, String.toList_ofList, year.eq_padded ascii.1,
    month.eq_of_length (by omega), day.eq_of_length (by omega) filled.2.2 ascii.2.2.2.2]

theorem request_eq_ok_iff {text : String} {date : Date} :
    request text = .ok date ↔ parse? text = some date := by
  unfold request
  cases parse? text with
  | none => simp
  | some other => simp

theorem request_eq_error_iff {text : String} :
    request text = .error (.refused .malformedDate) ↔ parse? text = none := by
  unfold request
  cases parse? text with
  | none => simp
  | some other => simp

/-- A text is accepted as a date exactly if it writes the date, and is refused if it writes none.
Its `YYYY-MM-DD` writes a date, and is the only text of it that has ten characters, no digits but
ASCII digits and no blank. -/
theorem accepted_dates (text : String) :
    (∀ date, request text = .ok date ↔ Writes text date)
      ∧ (request text = .error (.refused .malformedDate) ↔ ¬ ∃ date, Writes text date)
      ∧ ∀ date : Date, text = date.iso ↔ request text = .ok date
          ∧ Text.HasAsciiDigits text.toList ∧ text.toList.length = 10 ∧ ' ' ∉ text.toList := by
  refine ⟨fun _ => request_eq_ok_iff.trans parse?_eq_some_iff, ?_, ?_⟩
  · simp only [request_eq_error_iff, Option.eq_none_iff_forall_ne_some, ne_eq,
      parse?_eq_some_iff, not_exists]
  · intro date
    rw [request_eq_ok_iff, parse?_eq_some_iff]
    constructor
    · rintro rfl
      exact ⟨date.writes_iso, date.hasAsciiDigits_iso, date.length_toList_iso,
        date.not_mem_iso (by decide) (by decide)⟩
    · rintro ⟨written, ascii, ten, filled⟩
      exact written.eq_iso ascii ten filled

/-- A date is accepted without its noughts too. -/
theorem request_of_short_text :
    ∃ date, request "2025-6-5" = .ok date ∧ date.iso = "2025-06-05"
      ∧ "2025-06-05" ≠ "2025-6-5" :=
  ⟨⟨739407, by decide, by decide⟩, by decide +kernel, by decide +kernel, by decide⟩

end Date

end Rendezvous
