import Rendezvous.Proofs.Times

/-!
# Texts of times

Which texts are accepted as times of day, and what they are stored as; how minutes are written,
whole hours of them and more, before midnight too.
-/

namespace Rendezvous

namespace TimeOfDay

/-! ## Times of day -/

/-- A minute of the day as `H:MM`, where the hour has no more digits than it needs, and as
`HH:MM`. -/
def spellings (minute : Nat) : List String :=
  [1, 2].map fun width =>
    String.ofList (Text.padded width (minute / 60) ++ ':' :: Text.padded 2 (minute % 60))

theorem mem_spellings_iff {text : String} {minute : Nat} :
    text ∈ spellings minute ↔ ∃ front,
      (front = Text.padded 1 (minute / 60) ∨ front = Text.padded 2 (minute / 60))
        ∧ text.toList = front ++ ':' :: Text.padded 2 (minute % 60) := by
  simp only [spellings, List.map_cons, List.map_nil, List.mem_cons, List.not_mem_nil, or_false,
    String.ext_iff, String.toList_ofList, or_and_right, exists_or, exists_eq_left]

/-- An hour in ASCII digits has as many of them as it needs, or two. -/
theorem WritesHour.eq_padded {hour : Nat} {front : List Char} (written : WritesHour hour front)
    (ascii : Text.HasAsciiDigits front) :
    front = Text.padded 1 hour ∨ front = Text.padded 2 hour := by
  cases written with
  | single found =>
    rw [ascii.eq_digitChar (by simp) found, Text.padded_one (Text.decimalDigit?_lt found)]
    exact .inl rfl
  | early few found =>
    rw [ascii.eq_digitChar (by simp) found,
      Text.padded_two_add (by omega) (Text.decimalDigit?_lt found)]
    exact .inr rfl
  | late few => exact .inr (Text.padded_two_add (by decide : 2 < 10) (by omega)).symm

theorem writesHour_of_padded {hour : Nat} {front : List Char} (small : hour < 24)
    (same : front = Text.padded 1 hour ∨ front = Text.padded 2 hour) : WritesHour hour front := by
  rcases same with rfl | rfl
  · by_cases short : hour < 10
    · rw [Text.padded_one short]
      exact .single (Text.digits_digitChar short).2
    · rw [Text.padded_one_of_le (by omega)]
      exact writesHour_padded small
  · exact writesHour_padded small

/-- A reading whose last digit is an ASCII digit is that of its minute of the day. -/
theorem Writes.eq_ofMinute {text : String} {reading : Reading} {minute : Nat}
    (written : Writes text reading minute) (plain : reading.unit = Nat.digitChar (minute % 10)) :
    reading = .ofMinute (60 * reading.hour + minute) := by
  obtain ⟨hour, tens, unit⟩ := reading
  have small := written.minute_lt
  have same := written.tens_eq
  have quotient : (60 * hour + minute) / 60 = hour := by omega
  have rest : (60 * hour + minute) % 60 = minute := by omega
  dsimp only at same plain
  rw [Reading.ofMinute, quotient, rest, same, plain]

/-- What is stored is written in the digits that minutes are written in, or keeps one of another
script. -/
theorem Writes.text_eq_iff {text : String} {reading : Reading} {minute : Nat}
    (written : Writes text reading minute) :
    ofMinutes (60 * reading.hour + minute : Nat) = reading.text
      ↔ Text.HasAsciiDigits reading.text.toList := by
  constructor
  · intro same
    rw [← same, toList_ofMinutes, Text.hasAsciiDigits_append, Text.hasAsciiDigits_cons]
    exact ⟨Text.hasAsciiDigits_padded _ _, by decide, Text.hasAsciiDigits_padded _ _⟩
  · intro ascii
    have last : reading.unit ∈ reading.text.toList := by simp [Reading.text]
    have reads := written.eq_ofMinute (ascii.eq_digitChar last written.unit_eq)
    exact (Reading.text_ofMinute _).symm.trans (congrArg Reading.text reads.symm)

theorem ofText_eq_ok_iff {text time : String} :
    ofText text = .ok time ↔ parse? text = some time := by
  unfold ofText
  cases parse? text with
  | none => simp
  | some other => simp

theorem ofText_eq_error_iff {text : String} :
    ofText text = .error (.refused .malformedTime) ↔ parse? text = none := by
  unfold ofText
  cases parse? text with
  | none => simp
  | some other => simp

theorem writes_of_mem_spellings {text : String} {minute : Nat} (small : minute ≤ 1439)
    (spelled : text ∈ spellings minute) : Writes text (.ofMinute minute) (minute % 60) := by
  obtain ⟨front, padded, chars⟩ := mem_spellings_iff.mp spelled
  have hour : minute / 60 < 24 := by omega
  have last : minute % 60 % 10 < 10 := by omega
  refine ⟨Nat.mod_lt _ (by decide), rfl, (Text.digits_digitChar last).2, front, [],
    writesHour_of_padded hour padded, .inl rfl, ?_⟩
  rw [chars, Text.padded_two (by omega)]
  rfl

/-- A text in ASCII digits, with nothing after them, is accepted exactly if it spells a minute of
the day, and is stored as that minute is written. -/
theorem parse?_eq_some_iff_of_ascii {text time : String} (ascii : Text.HasAsciiDigits text.toList)
    (unbroken : text.toList.getLast? ≠ some '\n') :
    parse? text = some time
      ↔ ∃ minute : Nat, minute ≤ 1439 ∧ text ∈ spellings minute ∧ ofMinutes minute = time := by
  rw [parse?_eq_some_iff]
  constructor
  · rintro ⟨reading, minute, written, rfl⟩
    obtain ⟨front, ending, hour, blank, chars⟩ := written.chars
    have small := written.minute_lt
    have early := hour.lt
    obtain rfl : ending = [] := by
      apply blank.resolve_right
      rintro rfl
      simp [chars] at unbroken
    have last : reading.unit ∈ text.toList := by simp [chars]
    have inside : front ⊆ text.toList := by simp [chars]
    have reads := written.eq_ofMinute (ascii.eq_digitChar last written.unit_eq)
    refine ⟨60 * reading.hour + minute, by omega, mem_spellings_iff.mpr ⟨front, ?_, ?_⟩, ?_⟩
    · rw [show (60 * reading.hour + minute) / 60 = reading.hour by omega]
      exact hour.eq_padded (ascii.mono inside)
    · rw [chars, show (60 * reading.hour + minute) % 60 = minute by omega,
        Text.padded_two (by omega), written.tens_eq, ascii.eq_digitChar last written.unit_eq]
    · exact (Reading.text_ofMinute _).symm.trans (congrArg Reading.text reads.symm)
  · rintro ⟨minute, small, spelled, rfl⟩
    exact ⟨_, _, writes_of_mem_spellings small spelled, Reading.text_ofMinute minute⟩

/-- A text is accepted as a time of day exactly if it writes an hour and a minute, and is refused
otherwise.  It counts their minutes from midnight, fewer than a day has.  What is stored counts
the same, and is the text that they are written as unless it keeps a last digit of another
script.  So in ASCII digits, and without a line feed at the end, the times of day are accepted as
`H:MM` and as `HH:MM` and stored as `HH:MM`, and no other text is accepted. -/
theorem accepted_times (text : String) :
    (isValid text ↔ ∃ time, ofText text = .ok time)
      ∧ (∀ time, ofText text = .ok time
          ↔ ∃ reading minute, Writes text reading minute ∧ reading.text = time)
      ∧ (ofText text = .error (.refused .malformedTime)
          ↔ ¬ ∃ reading minute, Writes text reading minute)
      ∧ (∀ time, ofText text = .ok time →
          ∃ minute : Nat, minute ≤ 1439 ∧ minutes? text = some (minute : Int)
            ∧ minutes? time = some (minute : Int)
            ∧ (ofMinutes minute = time ↔ Text.HasAsciiDigits time.toList))
      ∧ (Text.HasAsciiDigits text.toList → text.toList.getLast? ≠ some '\n' →
          ∀ time, ofText text = .ok time
            ↔ ∃ minute : Nat, minute ≤ 1439 ∧ text ∈ spellings minute
              ∧ ofMinutes minute = time) := by
  simp only [ofText_eq_error_iff, ofText_eq_ok_iff]
  refine ⟨?_, fun _ => parse?_eq_some_iff, ?_, ?_, ?_⟩
  · rw [isValid_iff_parse?_isSome, Option.isSome_iff_exists]
  · rw [Option.eq_none_iff_forall_ne_some]
    constructor
    · rintro refused ⟨reading, minute, written⟩
      exact refused reading.text (parse?_eq_some_iff.mpr ⟨reading, minute, written, rfl⟩)
    · intro unwritten time accepted
      obtain ⟨reading, minute, written, -⟩ := parse?_eq_some_iff.mp accepted
      exact unwritten ⟨reading, minute, written⟩
  · intro time accepted
    obtain ⟨reading, minute, written, rfl⟩ := parse?_eq_some_iff.mp accepted
    obtain ⟨_, _, hour, _⟩ := written.chars
    have small := written.minute_lt
    have early := hour.lt
    exact ⟨60 * reading.hour + minute, by omega, written.minutes?, written.text.minutes?,
      written.text_eq_iff⟩
  · intro ascii unbroken time
    exact parse?_eq_some_iff_of_ascii ascii unbroken

theorem accepted_times_sample :
    Text.HasAsciiDigits "9:05".toList ∧ "9:05".toList.getLast? ≠ some '\n'
      ∧ ofText "9:05" = .ok "09:05"
      ∧ ∃ minute : Nat, minutes? "9:05" = some (minute : Int) ∧ ofMinutes minute = "09:05" := by
  obtain ⟨-, -, -, counted, spelled⟩ := accepted_times "9:05"
  have ascii : Text.HasAsciiDigits "9:05".toList := by decide
  have unbroken : "9:05".toList.getLast? ≠ some '\n' := by decide
  have accepted : ofText "9:05" = .ok "09:05" :=
    (spelled ascii unbroken "09:05").mpr ⟨545, by decide, by decide, by decide⟩
  obtain ⟨minute, -, minutes, -, same⟩ := counted "09:05" accepted
  exact ⟨ascii, unbroken, accepted, minute, minutes, same.mpr (by decide)⟩

/-- The last digit of a minute is accepted in any script and is kept, so that what is stored is
not what the minute is written as. -/
theorem ofText_of_foreign_digit :
    ofText "12:3٣" = .ok "12:3٣" ∧ minutes? "12:3٣" = some 753 ∧ ofMinutes 753 = "12:33"
      ∧ ¬ Text.HasAsciiDigits "12:3٣".toList := by
  decide +kernel

/-! ## Minutes before and after the day -/

/-- No two counts of minutes are written alike. -/
theorem ofMinutes_injective : Function.Injective ofMinutes := by
  intro a b same
  have chars := congrArg String.toList same
  rw [ofMinutes, ofMinutes, String.toList_ofList, String.toList_ofList,
    List.append_cons_inj_of_notMem (colon_not_mem_paddedInt _ _) (colon_not_mem_paddedInt _ _)]
    at chars
  obtain ⟨hours, -, minutes⟩ := chars
  calc
    a = 60 * a.fdiv 60 + a.fmod 60 := (Int.mul_fdiv_add_fmod a 60).symm
    _ = 60 * b.fdiv 60 + b.fmod 60 := by
      rw [Text.paddedInt_injective 2 hours, Text.paddedInt_injective 2 minutes]
    _ = b := Int.mul_fdiv_add_fmod b 60

/-- Minutes are written without loss, whether they lie in the day, before or after it: they read
back as themselves exactly if a numeral may have as many digits as their hours have, and however
many these are no two are written alike.  The minutes of a day are written as they are stored. -/
theorem ofMinutes_lossless :
    (∀ minutes : Int, minutes? (ofMinutes minutes) = some minutes
        ↔ (Nat.toDigits 10 (minutes.fdiv 60).natAbs).length ≤ Text.mostDigits)
      ∧ Function.Injective ofMinutes
      ∧ ∀ minutes : Int, 0 ≤ minutes → minutes ≤ lastMinute →
          ofText (ofMinutes minutes) = .ok (ofMinutes minutes) := by
  refine ⟨?_, ofMinutes_injective, ?_⟩
  · intro minutes
    rw [minutes?_ofMinutes_eq]
    split
    next few => simp [few]
    next many => simp [many]
  · intro minutes least most
    obtain ⟨minute, rfl⟩ := Int.eq_ofNat_of_zero_le least
    rw [ofText_eq_ok_iff]
    apply parse?_ofMinutes
    rw [lastMinute] at most
    omega

theorem ofMinutes_lossless_samples :
    (Nat.toDigits 10 (Int.fdiv (-61) 60).natAbs).length ≤ Text.mostDigits
      ∧ minutes? (ofMinutes (-61)) = some (-61) ∧ (0 : Int) ≤ 545 ∧ 545 ≤ lastMinute
      ∧ ofText (ofMinutes 545) = .ok (ofMinutes 545) := by
  obtain ⟨reads, -, stored⟩ := ofMinutes_lossless
  have few : (Nat.toDigits 10 (Int.fdiv (-61) 60).natAbs).length ≤ Text.mostDigits := by decide
  have most : 545 ≤ lastMinute := by decide
  exact ⟨few, (reads (-61)).mpr few, by decide, most, stored 545 (by decide) most⟩

example : ofMinutes (-1) = "-1:59" := by decide

end TimeOfDay

end Rendezvous
