import Mathlib.Tactic.IntervalCases
import Rendezvous.Proofs.Doubles
import Rendezvous.Proofs.Numerals
import Rendezvous.Slot

/-!
# Times that can be read

A text is accepted as a time of day exactly if it writes an hour and a minute.  It counts their
minutes from midnight, fewer than a day has, and so does the text that it is stored as.  Minutes
are written so that they can be read.
-/

namespace Rendezvous

namespace TimeOfDay

/-! ## Hours and minutes as they are written -/

/-- How an hour is written: in one digit of any script; before twenty in two, the first of them an
ASCII digit and the second of any script; from twenty on in two ASCII digits. -/
inductive WritesHour : Nat → List Char → Prop where
  | single {hour : Nat} {unit : Char} :
      Text.decimalDigit? unit = some hour → WritesHour hour [unit]
  | early {ten digit : Nat} {unit : Char} :
      ten < 2 → Text.decimalDigit? unit = some digit →
      WritesHour (10 * ten + digit) [Nat.digitChar ten, unit]
  | late {digit : Nat} :
      digit < 4 → WritesHour (20 + digit) ['2', Nat.digitChar digit]

/-- A text that writes an hour and a minute: the minute in two digits, the first of them an ASCII
digit, and a line feed at the end or none.  The reading keeps the digits of the minute. -/
structure Writes (text : String) (reading : Reading) (minute : Nat) : Prop where
  minute_lt : minute < 60
  tens_eq : reading.tens = Nat.digitChar (minute / 10)
  unit_eq : Text.decimalDigit? reading.unit = some (minute % 10)
  chars : ∃ front ending, WritesHour reading.hour front ∧ (ending = [] ∨ ending = ['\n'])
    ∧ text.toList = front ++ ':' :: reading.tens :: reading.unit :: ending

theorem WritesHour.lt {hour : Nat} {front : List Char} (written : WritesHour hour front) :
    hour < 24 := by
  cases written with
  | single unit => exact Nat.lt_trans (Text.decimalDigit?_lt unit) (by decide)
  | early few unit =>
    have small := Text.decimalDigit?_lt unit
    omega
  | late few => omega

theorem writesHour_padded {hour : Nat} (small : hour < 24) :
    WritesHour hour (Text.padded 2 hour) := by
  obtain ⟨ten, digit, few, rfl⟩ : ∃ ten digit, digit < 10 ∧ hour = 10 * ten + digit :=
    ⟨hour / 10, hour % 10, by omega, by omega⟩
  rw [Text.padded_two_add (by omega) few]
  by_cases early : ten < 2
  · exact .early early (Text.digits_digitChar few).2
  · obtain rfl : ten = 2 := by omega
    exact .late (by omega)

theorem WritesHour.colon_not_mem {hour : Nat} {front : List Char}
    (written : WritesHour hour front) : ':' ∉ front := by
  have colon : Text.decimalDigit? ':' = none := by decide
  cases written with
  | single unit => simpa using (Text.ne_of_decimalDigit? unit colon).symm
  | early few unit =>
    have first := (Text.digits_digitChar (Nat.lt_trans few (by decide))).2
    simp [(Text.ne_of_decimalDigit? first colon).symm, (Text.ne_of_decimalDigit? unit colon).symm]
  | late few =>
    have last := (Text.digits_digitChar (Nat.lt_trans few (by decide))).2
    simp [(Text.ne_of_decimalDigit? last colon).symm]

/-- Two digits denote ten times the first and the second, whatever white space follows. -/
theorem integer?_pair {tens unit : Char} {first second : Nat} {white : List Char}
    (digit : Text.decimalDigit? tens = some first) (digit' : Text.decimalDigit? unit = some second)
    (blank : white = [] ∨ white = ['\n']) :
    Text.integer? (tens :: unit :: white) = some ((10 * first + second : Nat) : Int) := by
  have few : 3 ≤ Text.mostDigits := by decide
  apply @Text.integer?_append tens [unit] white first _ digit
  · simp [Text.digitsFrom?, digit']
  · simpa using Text.isSpace_of_decimalDigit? digit'
  · rcases blank with rfl | rfl
    · simp
    · simp [Text.isSpace]
  · rcases blank with rfl | rfl
    · exact Nat.le_of_succ_le few
    · exact few

theorem WritesHour.integer? {hour : Nat} {front : List Char} (written : WritesHour hour front) :
    Text.integer? front = some (hour : Int) := by
  cases written with
  | single unit => exact Text.integer?_of_digits unit rfl (by simp) (by simp [Text.mostDigits])
  | early few unit =>
    exact integer?_pair (Text.digits_digitChar (Nat.lt_trans few (by decide))).2 unit (.inl rfl)
  | late few =>
    have two : Text.decimalDigit? '2' = some 2 := by decide
    exact integer?_pair two (Text.digits_digitChar (Nat.lt_trans few (by decide))).2 (.inl rfl)

/-! ## Reading -/

/-- The two sides of the only colon are read on their own. -/
theorem minutes?_of_toList {text : String} {front late : List Char}
    (chars : text.toList = front ++ ':' :: late) (before : ':' ∉ front) (after : ':' ∉ late) :
    minutes? text = (Text.integer? front).bind fun hours =>
      (Text.integer? late).map (60 * hours + ·) := by
  have outside : ∀ c ∈ front, (c ≠ ':' : Bool) = true := by
    intro c inside
    simpa using fun same : c = ':' => before (same ▸ inside)
  have rest : text.toList.dropWhile (· ≠ ':') = ':' :: late := by
    rw [chars, List.dropWhile_append_of_pos outside, List.dropWhile_cons, if_neg (by simp)]
  have first : text.toList.takeWhile (· ≠ ':') = front := by
    rw [chars, List.takeWhile_append_of_pos outside, List.takeWhile_cons, if_neg (by simp),
      List.append_nil]
  rw [minutes?, rest]
  simp only [after, if_false, first, Option.bind_eq_bind, Option.pure_def, Option.map_eq_bind]
  rfl

theorem hour?_eq_some_iff {tens unit : Char} {hour : Nat} :
    hour? tens unit = some hour ↔ WritesHour hour [tens, unit] := by
  constructor
  · intro found
    rw [hour?] at found
    split at found
    next zero =>
      rw [zero, ← Nat.zero_add hour]
      exact .early (by decide : 0 < 2) found
    next =>
      split at found
      next one =>
        obtain ⟨digit, unit, rfl⟩ := Option.map_eq_some_iff.mp found
        rw [one]
        exact .early (by decide : 1 < 2) unit
      next =>
        split at found
        next two =>
          obtain ⟨digit, between, rfl⟩ := Option.map_eq_some_iff.mp found
          obtain ⟨-, most, -, same⟩ := Text.digitBetween?_eq_some_iff.mp between
          rw [two, same]
          exact .late (by omega)
        next => cases found
  · intro written
    cases written with
    | @early ten digit unit few found =>
      interval_cases ten <;> simp [hour?, found]
    | late few =>
      have between := Text.digitBetween?_eq_some_iff.mpr
        ⟨Nat.zero_le _, Nat.le_of_lt_succ few, Nat.lt_trans few (by decide), rfl⟩
      simp [hour?, between]

theorem reading?_eq_some_iff {hour : Option Nat} {tens unit : Char} {reading : Reading} :
    reading? hour tens unit = some reading ↔ hour = some reading.hour ∧ reading.tens = tens
      ∧ reading.unit = unit ∧ ∃ minute < 60, tens = Nat.digitChar (minute / 10)
        ∧ Text.decimalDigit? unit = some (minute % 10) := by
  simp only [reading?, Option.bind_eq_bind, Option.bind_eq_some_iff, Option.pure_def,
    Option.some.injEq, Text.digitBetween?_eq_some_iff]
  constructor
  · rintro ⟨_, rfl, first, ⟨-, most, -, same⟩, second, digit, rfl⟩
    have small := Text.decimalDigit?_lt digit
    refine ⟨rfl, rfl, rfl, 10 * first + second, by omega, ?_, ?_⟩
    · rw [same]
      congr 1
      omega
    · rw [digit]
      congr 1
      omega
  · rintro ⟨rfl, rfl, rfl, minute, small, same, digit⟩
    exact ⟨_, rfl, minute / 10, ⟨by omega, by omega, by omega, same⟩, _, digit, rfl⟩

theorem withoutLineFeed_append {cs ending : List Char} (kept : cs.getLast? ≠ some '\n')
    (blank : ending = [] ∨ ending = ['\n']) : withoutLineFeed (cs ++ ending) = cs := by
  rcases blank with rfl | rfl
  · rw [List.append_nil, withoutLineFeed, if_neg kept]
  · simp [withoutLineFeed]

/-- A line feed at the end is the only text that is left out. -/
theorem eq_append_of_withoutLineFeed {cs kept : List Char} (same : withoutLineFeed cs = kept) :
    ∃ ending, (ending = [] ∨ ending = ['\n']) ∧ cs = kept ++ ending := by
  rw [withoutLineFeed] at same
  split at same
  next ends =>
    refine ⟨['\n'], .inr rfl, ?_⟩
    rw [← same, List.dropLast_append_getLast? _ ends]
  next =>
    exact ⟨[], .inl rfl, by rw [same, List.append_nil]⟩

/-- A text is read exactly if it writes what is read from it. -/
theorem read?_eq_some_iff {text : String} {reading : Reading} :
    read? text = some reading ↔ ∃ minute, Writes text reading minute := by
  constructor
  · intro found
    rw [read?] at found
    split at found
    next unit m n shape =>
      obtain ⟨ending, blank, chars⟩ := eq_append_of_withoutLineFeed shape
      obtain ⟨hour, rfl, rfl, minute, small, tens, digit⟩ := reading?_eq_some_iff.mp found
      exact ⟨minute, small, tens, digit, _, ending, .single hour, blank, chars⟩
    next ten unit m n shape =>
      obtain ⟨ending, blank, chars⟩ := eq_append_of_withoutLineFeed shape
      obtain ⟨hour, rfl, rfl, minute, small, tens, digit⟩ := reading?_eq_some_iff.mp found
      exact ⟨minute, small, tens, digit, _, ending, hour?_eq_some_iff.mp hour, blank, chars⟩
    next => cases found
  · obtain ⟨hour, tens, unit⟩ := reading
    rintro ⟨minute, small, same, digit, front, ending, written, blank, chars⟩
    have kept : unit ≠ '\n' := Text.ne_of_decimalDigit? digit (by decide)
    have shape : withoutLineFeed text.toList = front ++ [':', tens, unit] := by
      have parts : text.toList = (front ++ [':', tens, unit]) ++ ending := by simp [chars]
      rw [parts, withoutLineFeed_append _ blank]
      simpa using kept
    have read (hour' : Option Nat) (known : hour' = some hour) :
        reading? hour' tens unit = some ⟨hour, tens, unit⟩ :=
      reading?_eq_some_iff.mpr ⟨known, rfl, rfl, minute, small, same, digit⟩
    rw [read?, shape]
    cases written with
    | single found => exact read _ found
    | early few found => simpa using read _ (hour?_eq_some_iff.mpr (.early few found))
    | late few => simpa using read _ (hour?_eq_some_iff.mpr (.late few))

theorem Writes.minutes? {text : String} {reading : Reading} {minute : Nat}
    (written : Writes text reading minute) :
    minutes? text = some ((60 * reading.hour + minute : Nat) : Int) := by
  obtain ⟨small, tens, digit, front, ending, hour, blank, chars⟩ := written
  have colon : Text.decimalDigit? ':' = none := by decide
  have first : Text.decimalDigit? reading.tens = some (minute / 10) := by
    rw [tens]
    exact (Text.digits_digitChar (by omega)).2
  have after : ':' ∉ reading.tens :: reading.unit :: ending := by
    rcases blank with rfl | rfl <;> simp [(Text.ne_of_decimalDigit? first colon).symm,
      (Text.ne_of_decimalDigit? digit colon).symm]
  rw [minutes?_of_toList chars hour.colon_not_mem after, hour.integer?,
    integer?_pair first digit blank, Nat.div_add_mod]
  rfl

/-- What is stored for a text writes what the text does. -/
theorem Writes.text {text : String} {reading : Reading} {minute : Nat}
    (written : Writes text reading minute) : Writes reading.text reading minute := by
  obtain ⟨small, tens, digit, front, ending, hour, -, -⟩ := written
  refine ⟨small, tens, digit, _, [], writesHour_padded hour.lt, .inl rfl, ?_⟩
  rw [Reading.text, String.toList_ofList]

theorem parse?_eq_some_iff {text time : String} :
    parse? text = some time ↔ ∃ reading minute, Writes text reading minute ∧ reading.text = time := by
  simp only [parse?, Option.map_eq_some_iff, read?_eq_some_iff]
  constructor
  · rintro ⟨reading, ⟨minute, written⟩, same⟩
    exact ⟨reading, minute, written, same⟩
  · rintro ⟨reading, minute, written, same⟩
    exact ⟨reading, ⟨minute, written⟩, same⟩

/-! ## Minutes -/

theorem colon_not_mem_paddedInt (width : Nat) (n : Int) : ':' ∉ Text.paddedInt width n := by
  intro inside
  rcases Text.eq_or_isDigit_of_mem_paddedInt inside with sign | digit
  · cases sign
  · cases digit

/-- Minutes are written so that they can be read, as long as their hours are no longer than a
numeral may be. -/
theorem minutes?_ofMinutes_eq (minutes : Int) :
    minutes? (ofMinutes minutes)
      = if (Nat.toDigits 10 (minutes.fdiv 60).natAbs).length ≤ Text.mostDigits then some minutes
        else none := by
  have least := Int.fmod_nonneg_of_pos minutes (by decide : (0 : Int) < 60)
  have most := Int.fmod_lt_of_pos minutes (by decide : (0 : Int) < 60)
  have narrow : 2 ≤ Text.mostDigits := by decide
  have late : Text.integer? (Text.paddedInt 2 (minutes.fmod 60)) = some (minutes.fmod 60) := by
    rw [Text.integer?_paddedInt narrow, if_pos]
    exact Text.length_toDigits_le (by omega)
  rw [ofMinutes, minutes?_of_toList String.toList_ofList (colon_not_mem_paddedInt _ _)
    (colon_not_mem_paddedInt _ _), Text.integer?_paddedInt narrow, late]
  split
  · exact congrArg some (Int.mul_fdiv_add_fmod minutes 60)
  · rfl

theorem toList_ofMinutes (minute : Nat) :
    (ofMinutes minute).toList
      = Text.padded 2 (minute / 60) ++ ':' :: Text.padded 2 (minute % 60) := by
  have quotient : (minute : Int).fdiv 60 = (minute / 60 : Nat) :=
    Int.fdiv_eq_ediv_of_nonneg _ (by decide)
  have rest : (minute : Int).fmod 60 = (minute % 60 : Nat) :=
    Int.fmod_eq_emod_of_nonneg _ (by decide)
  rw [ofMinutes, quotient, rest, String.toList_ofList]
  rfl

/-- The minutes of a day are written so that they can be read. -/
theorem minutes?_ofMinutes {minute : Nat} (small : minute < 1440) :
    minutes? (ofMinutes minute) = some (minute : Int) := by
  rw [minutes?_ofMinutes_eq, if_pos]
  apply Text.length_toDigits_le
  rw [Int.fdiv_eq_ediv_of_nonneg _ (by decide)]
  omega

/-- The hour and the minute of a minute of the day. -/
def Reading.ofMinute (minute : Nat) : Reading where
  hour := minute / 60
  tens := Nat.digitChar (minute % 60 / 10)
  unit := Nat.digitChar (minute % 60 % 10)

theorem Reading.text_ofMinute (minute : Nat) : (Reading.ofMinute minute).text = ofMinutes minute := by
  have late : minute % 60 < 100 := by omega
  apply String.toList_injective
  rw [Reading.text, String.toList_ofList, toList_ofMinutes, Text.padded_two late]
  rfl

theorem writes_ofMinutes {minute : Nat} (small : minute < 1440) :
    Writes (ofMinutes minute) (.ofMinute minute) (minute % 60) := by
  have hour : minute / 60 < 24 := by omega
  have last : minute % 60 % 10 < 10 := by omega
  refine ⟨Nat.mod_lt _ (by decide), rfl, (Text.digits_digitChar last).2, _, [],
    writesHour_padded hour, .inl rfl, ?_⟩
  rw [← Reading.text_ofMinute, Reading.text, String.toList_ofList]

/-- They are written as they are stored. -/
theorem parse?_ofMinutes {minute : Nat} (small : minute < 1440) :
    parse? (ofMinutes minute) = some (ofMinutes minute) :=
  parse?_eq_some_iff.mpr ⟨_, _, writes_ofMinutes small, Reading.text_ofMinute minute⟩

/-! ## Times within a day -/

/-- A text that counts the minutes of some time of day. -/
def Legible (text : String) : Prop :=
  ∃ minute : Nat, minute ≤ 1439 ∧ minutes? text = some (minute : Int)

theorem Writes.legible {text : String} {reading : Reading} {minute : Nat}
    (written : Writes text reading minute) : Legible text := by
  obtain ⟨_, _, hour, _⟩ := written.chars
  have few := written.minute_lt
  have early := hour.lt
  exact ⟨60 * reading.hour + minute, by omega, written.minutes?⟩

theorem legible_of_isValid {text : String} (valid : isValid text) : Legible text := by
  obtain ⟨reading, found⟩ := Option.isSome_iff_exists.mp valid
  obtain ⟨minute, written⟩ := read?_eq_some_iff.mp found
  exact written.legible

/-- What is stored for a time that is accepted. -/
theorem legible_of_parse? {text time : String} (found : parse? text = some time) :
    Legible time := by
  obtain ⟨reading, minute, written, rfl⟩ := parse?_eq_some_iff.mp found
  exact written.text.legible

theorem legible_dayStart : Legible dayStart := ⟨0, by decide, by decide⟩

theorem legible_dayEnd : Legible dayEnd := ⟨1439, by decide, by decide⟩

/-- Hours are reckoned with for every number of minutes up to a day. -/
theorem isSome_hours? {minutes : Int} (least : 0 ≤ minutes) (most : minutes ≤ 1440) :
    (hours? minutes).isSome := by
  have few : minutes.natAbs < Double.twoTo 11 := by
    have bound : Double.twoTo 11 = 2048 := by decide
    omega
  have small : minutes.natAbs < Double.twoTo 1023 :=
    Nat.lt_of_lt_of_le few (Double.twoTo_le (by decide))
  rw [hours?, Option.isSome_map]
  exact Double.isSome_ofInt? small

end TimeOfDay

end Rendezvous
