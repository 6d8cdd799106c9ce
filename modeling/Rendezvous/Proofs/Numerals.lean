import Mathlib.Data.List.Basic
import Mathlib.Data.Nat.Digits.Defs
import Mathlib.Tactic.Tauto
import Rendezvous.Text.Numeral

/-!
# Numerals read back

A digit of any script is told by its value, an ASCII digit is the one digit of its value.  A
number that is written in decimal, with noughts and a sign in front, reads back as itself, as
long as its digits are no more than a numeral may have.
-/

namespace Rendezvous.Text

/-! ## Digits -/

theorem asciiDigit?_eq_some_iff {c : Char} {value : Nat} :
    asciiDigit? c = some value ↔ value < 10 ∧ c = Nat.digitChar value := by
  constructor
  · intro found
    have small := asciiDigit?_lt found
    refine ⟨small, Char.toNat_inj.mp ?_⟩
    rw [Nat.toNat_digitChar_of_lt_ten small]
    simp only [asciiDigit?] at found
    split at found
    next within =>
      cases found
      omega
    next => cases found
  · rintro ⟨small, rfl⟩
    have table : ∀ value < 10, asciiDigit? (Nat.digitChar value) = some value := by decide
    exact table value small

theorem digits_digitChar {digit : Nat} (small : digit < 10) :
    asciiDigit? (Nat.digitChar digit) = some digit
      ∧ decimalDigit? (Nat.digitChar digit) = some digit := by
  have ascii := asciiDigit?_eq_some_iff.mpr ⟨small, rfl⟩
  exact ⟨ascii, decimalDigit?_of_asciiDigit? ascii⟩

theorem digitBetween?_eq_some_iff {low high value : Nat} {c : Char} :
    digitBetween? low high c = some value
      ↔ low ≤ value ∧ value ≤ high ∧ value < 10 ∧ c = Nat.digitChar value := by
  rw [digitBetween?, Option.filter_eq_some_iff, asciiDigit?_eq_some_iff]
  simp only [Bool.and_eq_true, decide_eq_true_eq]
  tauto

theorem asciiDigit?_of_isDigit {c : Char} (digit : c.isDigit) :
    asciiDigit? c = some (c.toNat - '0'.toNat) := by
  rw [Char.isDigit_iff_toNat] at digit
  rw [asciiDigit?, if_pos]
  · rfl
  · simp at digit
    omega

theorem exists_of_decimalDigit? {c : Char} {value : Nat} (found : decimalDigit? c = some value) :
    ∃ start ∈ decimalZeros, value < 10 ∧ c.toNat = start + value := by
  obtain ⟨start, inside, hit⟩ := List.exists_of_findSome?_eq_some found
  split at hit
  next within =>
    cases hit
    exact ⟨start, inside, by omega, by omega⟩
  next => cases hit

/-- No script has a white digit. -/
theorem isSpace_of_decimalDigit? {c : Char} {value : Nat}
    (found : decimalDigit? c = some value) : isSpace c = false := by
  have apart : ∀ start ∈ decimalZeros, ∀ value < 10,
      isSpace (Char.ofNat (start + value)) = false := by decide +kernel
  obtain ⟨start, inside, small, same⟩ := exists_of_decimalDigit? found
  rw [← Char.ofNat_toNat c, same]
  exact apart start inside value small

theorem ne_of_decimalDigit? {c mark : Char} {value : Nat}
    (found : decimalDigit? c = some value) (noDigit : decimalDigit? mark = none) : c ≠ mark := by
  rintro rfl
  rw [found] at noDigit
  cases noDigit

/-! ## Writing -/

theorem padded_one {n : Nat} (small : n < 10) : padded 1 n = [Nat.digitChar n] := by
  rw [padded, Nat.toDigits_of_lt_base small]
  rfl

/-- A numeral with room for one more digit ends in its last one. -/
theorem padded_succ (width n : Nat) :
    padded (width + 2) n = padded (width + 1) (n / 10) ++ [Nat.digitChar (n % 10)] := by
  unfold padded List.leftpad
  by_cases small : n < 10
  · have none : n / 10 = 0 := Nat.div_eq_of_lt small
    rw [none, Nat.mod_eq_of_lt small, Nat.toDigits_of_lt_base small, Nat.toDigits_zero]
    simp [List.replicate_succ']
  · rw [Nat.toDigits_of_base_le (by decide) (Nat.not_lt.mp small)]
    simp

theorem padded_two {n : Nat} (small : n < 100) :
    padded 2 n = [Nat.digitChar (n / 10), Nat.digitChar (n % 10)] := by
  rw [padded_succ, padded_one (by omega)]
  rfl

theorem padded_two_of_lt {n : Nat} (small : n < 10) : padded 2 n = ['0', Nat.digitChar n] := by
  rw [padded_two (by omega), Nat.div_eq_of_lt small, Nat.mod_eq_of_lt small]
  rfl

theorem padded_two_add {ten digit : Nat} (few : ten < 10) (small : digit < 10) :
    padded 2 (10 * ten + digit) = [Nat.digitChar ten, Nat.digitChar digit] := by
  rw [padded_two (by omega), show (10 * ten + digit) / 10 = ten by omega,
    show (10 * ten + digit) % 10 = digit by omega]

theorem padded_four {n : Nat} (small : n < 10000) :
    padded 4 n = [Nat.digitChar (n / 10 / 10 / 10), Nat.digitChar (n / 10 / 10 % 10),
      Nat.digitChar (n / 10 % 10), Nat.digitChar (n % 10)] := by
  rw [padded_succ, padded_succ, padded_succ, padded_one (by omega)]
  rfl

/-- A number with two digits needs no nought. -/
theorem padded_one_of_le {n : Nat} (long : 10 ≤ n) : padded 1 n = padded 2 n := by
  have digits := Nat.length_toDigits_pos (b := 10) (n := n / 10)
  have length : 2 ≤ (Nat.toDigits 10 n).length := by
    rw [Nat.toDigits_of_base_le (by decide) long, List.length_append, List.length_singleton]
    omega
  simp only [padded, List.leftpad, Nat.sub_eq_zero_of_le length,
    Nat.sub_eq_zero_of_le (Nat.le_of_succ_le length)]

theorem padded_ne_nil (width n : Nat) : padded width n ≠ [] := by
  simp [padded, List.leftpad]

theorem length_padded (width n : Nat) :
    (padded width n).length = max width (Nat.toDigits 10 n).length := by
  simp only [padded, List.leftpad, List.length_append, List.length_replicate]
  omega

theorem isDigit_of_mem_padded {width number : Nat} :
    ∀ c ∈ padded width number, c.isDigit := by
  intro c inside
  rw [padded, List.leftpad, List.mem_append] at inside
  rcases inside with filled | digit
  · rw [(List.mem_replicate.mp filled).2]
    rfl
  · exact Nat.isDigit_of_mem_toDigits (by decide) (by decide) digit

/-- Noughts in front add nothing to a number. -/
theorem ofDigitChars_padded (width n : Nat) : Nat.ofDigitChars 10 (padded width n) 0 = n := by
  have noughts (count : Nat) : Nat.ofDigitChars 10 (List.replicate count '0') 0 = 0 := by
    induction count with
    | zero => rfl
    | succ count ih => simpa [List.replicate_succ, Nat.ofDigitChars] using ih
  rw [padded, List.leftpad, Nat.ofDigitChars_append, noughts, Nat.ofDigitChars_ten_toDigits]

theorem eq_or_isDigit_of_mem_paddedInt {width : Nat} {n : Int} {c : Char}
    (inside : c ∈ paddedInt width n) : c = '-' ∨ c.isDigit := by
  rw [paddedInt] at inside
  split at inside
  · apply (List.mem_cons.mp inside).imp_right
    exact isDigit_of_mem_padded c
  · exact .inr (isDigit_of_mem_padded c inside)

/-! ## ASCII digits -/

/-- The digits of a text are ASCII digits. -/
def HasAsciiDigits (cs : List Char) : Prop :=
  ∀ c ∈ cs, decimalDigit? c = asciiDigit? c

instance (cs : List Char) : Decidable (HasAsciiDigits cs) :=
  List.decidableBAll (fun c => decimalDigit? c = asciiDigit? c) cs

theorem hasAsciiDigits_cons {c : Char} {cs : List Char} :
    HasAsciiDigits (c :: cs) ↔ decimalDigit? c = asciiDigit? c ∧ HasAsciiDigits cs :=
  List.forall_mem_cons

theorem hasAsciiDigits_append {front back : List Char} :
    HasAsciiDigits (front ++ back) ↔ HasAsciiDigits front ∧ HasAsciiDigits back :=
  List.forall_mem_append

theorem HasAsciiDigits.mono {front cs : List Char} (ascii : HasAsciiDigits cs)
    (inside : front ⊆ cs) : HasAsciiDigits front :=
  fun c among => ascii c (inside among)

theorem HasAsciiDigits.eq_digitChar {cs : List Char} (ascii : HasAsciiDigits cs) {c : Char}
    (inside : c ∈ cs) {value : Nat} (found : decimalDigit? c = some value) :
    c = Nat.digitChar value := by
  rw [ascii c inside] at found
  exact (asciiDigit?_eq_some_iff.mp found).2

/-- Digits for digits, a text in ASCII digits is the one that has these digits. -/
theorem HasAsciiDigits.eq_of_map {cs digits : List Char} (ascii : HasAsciiDigits cs)
    (plain : ∀ c ∈ digits, c.isDigit) (same : cs.map decimalDigit? = digits.map decimalDigit?) :
    cs = digits := by
  induction cs generalizing digits with
  | nil => exact (List.map_eq_nil_iff.mp same.symm).symm
  | cons c rest ih =>
    obtain ⟨d, later, rfl, first, others⟩ := List.map_eq_cons_iff.mp same.symm
    rw [List.forall_mem_cons] at plain
    have value := asciiDigit?_of_isDigit plain.1
    rw [decimalDigit?_of_asciiDigit? value] at first
    rw [ascii.eq_digitChar List.mem_cons_self first.symm, ← (asciiDigit?_eq_some_iff.mp value).2,
      ih (ascii.mono (List.subset_cons_self c rest)) plain.2 others.symm]

theorem hasAsciiDigits_padded (width n : Nat) : HasAsciiDigits (padded width n) := by
  intro c inside
  have ascii := asciiDigit?_of_isDigit (isDigit_of_mem_padded c inside)
  rw [ascii, decimalDigit?_of_asciiDigit? ascii]

/-! ## Trimming -/

theorem dropWhile_eq_self {drop : Char → Bool} {cs : List Char}
    (kept : ∀ c ∈ cs, drop c = false) : cs.dropWhile drop = cs := by
  cases cs with
  | nil => rfl
  | cons c rest => rw [List.dropWhile_cons, if_neg (by simp [kept c List.mem_cons_self])]

theorem trim_append {drop : Char → Bool} {cs white : List Char} (filled : cs ≠ [])
    (kept : ∀ c ∈ cs, drop c = false) (dropped : ∀ c ∈ white, drop c) :
    trim drop (cs ++ white) = cs := by
  obtain ⟨c, rest, rfl⟩ := List.exists_cons_of_ne_nil filled
  have front : (c :: rest ++ white).dropWhile drop = c :: rest ++ white := by
    rw [List.cons_append, List.dropWhile_cons, if_neg (by simp [kept c List.mem_cons_self])]
  rw [trim, front, trimEnd, List.reverse_append, List.dropWhile_append_of_pos,
    dropWhile_eq_self, List.reverse_reverse]
  · intro d inside
    exact kept d (List.mem_reverse.mp inside)
  · intro d inside
    exact dropped d (List.mem_reverse.mp inside)

/-! ## Reading -/

theorem digitsFrom?_cons {value digit : Nat} {c : Char} {rest : List Char}
    (found : decimalDigit? c = some digit) :
    digitsFrom? value (c :: rest) = digitsFrom? (10 * value + digit) rest := by
  cases rest <;> simp [digitsFrom?, found]

theorem digitsFrom?_of_isDigit {digits : List Char} (plain : ∀ c ∈ digits, c.isDigit)
    (value : Nat) : digitsFrom? value digits = some (Nat.ofDigitChars 10 digits value) := by
  induction digits generalizing value with
  | nil => rfl
  | cons c rest ih =>
    rw [List.forall_mem_cons] at plain
    rw [digitsFrom?_cons (decimalDigit?_of_asciiDigit? (asciiDigit?_of_isDigit plain.1))]
    exact ih plain.2 _

theorem natural?_padded (width n : Nat) : natural? (padded width n) = some n := by
  have plain : ∀ c ∈ padded width n, c.isDigit := isDigit_of_mem_padded
  have value := ofDigitChars_padded width n
  cases digits : padded width n with
  | nil => exact absurd digits (padded_ne_nil width n)
  | cons c rest =>
    rw [digits] at value
    rw [digits, List.forall_mem_cons] at plain
    rw [natural?, decimalDigit?_of_asciiDigit? (asciiDigit?_of_isDigit plain.1), Option.bind_some,
      digitsFrom?_of_isDigit plain.2, ← value]
    simp [Nat.ofDigitChars]

/-- Only the count of its digits can keep a number from being read back. -/
theorem signed?_paddedInt (width : Nat) (n : Int) : signed? (paddedInt width n) = some n := by
  rw [paddedInt]
  split
  next negative =>
    rw [signed?, if_pos rfl, natural?_padded]
    change some (-(n.natAbs : Int)) = some n
    rw [Int.ofNat_natAbs_of_nonpos (by omega), Int.neg_neg]
  next positive =>
    obtain ⟨c, rest, same⟩ := List.exists_cons_of_ne_nil (padded_ne_nil width n.natAbs)
    have digit : c.isDigit := isDigit_of_mem_padded c (same ▸ List.mem_cons_self)
    have read := natural?_padded width n.natAbs
    have unmarked : c ≠ '-' ∧ c ≠ '+' := by
      constructor <;> rintro rfl <;> cases digit
    rw [same] at read ⊢
    rw [signed?, if_neg unmarked.1, if_neg unmarked.2, read]
    change some (n.natAbs : Int) = some n
    rw [Int.natAbs_of_nonneg (by omega)]

theorem trim_paddedInt (width : Nat) (n : Int) :
    trim isSpace (paddedInt width n) = paddedInt width n := by
  have filled : paddedInt width n ≠ [] := by
    rw [paddedInt]
    split
    · exact List.cons_ne_nil _ _
    · exact padded_ne_nil width n.natAbs
  have kept : ∀ c ∈ paddedInt width n, isSpace c = false := by
    intro c inside
    rcases eq_or_isDigit_of_mem_paddedInt inside with rfl | digit
    · rfl
    · exact isSpace_of_decimalDigit? (decimalDigit?_of_asciiDigit? (asciiDigit?_of_isDigit digit))
  have bare : ∀ c ∈ ([] : List Char), isSpace c := by simp
  simpa using trim_append filled kept bare

theorem countP_paddedInt (width : Nat) (n : Int) :
    (paddedInt width n).countP (fun c => (decimalDigit? c).isSome)
      = max (if n < 0 then width - 1 else width) (Nat.toDigits 10 n.natAbs).length := by
  have all (width number : Nat) : (padded width number).countP (fun c => (decimalDigit? c).isSome)
      = max width (Nat.toDigits 10 number).length := by
    rw [← length_padded, List.countP_eq_length]
    intro c inside
    rw [decimalDigit?_of_asciiDigit? (asciiDigit?_of_isDigit (isDigit_of_mem_padded c inside))]
    rfl
  rw [paddedInt]
  split
  · rw [List.countP_cons_of_neg (by decide), all]
  · rw [all]

/-- A number that is written in a field of no great width reads back unless it has too many
digits. -/
theorem integer?_paddedInt {width : Nat} (narrow : width ≤ mostDigits) (n : Int) :
    integer? (paddedInt width n)
      = if (Nat.toDigits 10 n.natAbs).length ≤ mostDigits then some n else none := by
  have count := countP_paddedInt width n
  rw [integer?, trim_paddedInt, signed?_paddedInt]
  by_cases few : (Nat.toDigits 10 n.natAbs).length ≤ mostDigits
  · rw [if_neg, if_pos few]
    rw [count]
    split <;> omega
  · rw [if_pos, if_neg few]
    rw [count]
    split <;> omega

theorem length_toDigits_le {n : Nat} (small : n < 100) :
    (Nat.toDigits 10 n).length ≤ mostDigits := by
  have length := length_padded 2 n
  have most : 2 ≤ mostDigits := by decide
  rw [padded_two small, List.length_cons, List.length_singleton] at length
  omega

theorem paddedInt_injective (width : Nat) : Function.Injective (paddedInt width) := by
  intro a b same
  have read := signed?_paddedInt width a
  rw [same, signed?_paddedInt] at read
  exact (Option.some.inj read).symm

/-- A numeral of a few digits reads as their value, whatever white space follows. -/
theorem integer?_append {c : Char} {rest white : List Char} {value result : Nat}
    (first : decimalDigit? c = some value) (later : digitsFrom? value rest = some result)
    (plain : ∀ d ∈ rest, isSpace d = false) (blank : ∀ d ∈ white, isSpace d)
    (few : (c :: rest ++ white).length ≤ mostDigits) :
    integer? (c :: rest ++ white) = some result := by
  have short : ¬ mostDigits < (c :: rest ++ white).countP fun d => (decimalDigit? d).isSome :=
    Nat.not_lt.mpr (Nat.le_trans List.countP_le_length few)
  have kept : ∀ d ∈ c :: rest, isSpace d = false := by
    intro d inside
    rcases List.mem_cons.mp inside with rfl | inside
    · exact isSpace_of_decimalDigit? first
    · exact plain d inside
  have positive : c ≠ '-' := ne_of_decimalDigit? first (by decide)
  have unsigned : c ≠ '+' := ne_of_decimalDigit? first (by decide)
  rw [integer?, if_neg short, trim_append (List.cons_ne_nil _ _) kept blank, signed?,
    if_neg positive, if_neg unsigned, natural?, first, Option.bind_some, later]
  rfl

theorem integer?_of_digits {c : Char} {rest : List Char} {value result : Nat}
    (first : decimalDigit? c = some value) (later : digitsFrom? value rest = some result)
    (plain : ∀ d ∈ rest, isSpace d = false) (few : (c :: rest).length ≤ mostDigits) :
    integer? (c :: rest) = some result := by
  have bare : ∀ d ∈ ([] : List Char), isSpace d := by simp
  simpa using integer?_append first later plain bare (by simpa using few)

end Rendezvous.Text
