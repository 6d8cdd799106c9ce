import Rendezvous.Proofs.Times

/-!
# Doubles of rounded quotients

The bits of a double spell out its units again, where the units are a multiple of what doubles
of their size are apart.  A rounded quotient is such a multiple.  Whole numbers that are not too
large are doubles themselves, so a quotient of small numbers is rounded to no other side of one:
hours compare with whole hours as their minutes do.
-/

namespace Rendezvous

namespace Double

/-! ## Bits -/

theorem twoTo_pos (power : Nat) : 0 < twoTo power := Nat.two_pow_pos power

theorem one_pos : 0 < one := twoTo_pos unitPower

theorem twoTo_lt {a b : Nat} (lt : a < b) : twoTo a < twoTo b :=
  Nat.pow_lt_pow_right (by decide) lt

theorem twoTo_add (a b : Nat) : twoTo (a + b) = twoTo a * twoTo b := Nat.pow_add 2 a b

theorem twoTo_dvd {a b : Nat} (le : a ≤ b) : twoTo a ∣ twoTo b := Nat.pow_dvd_pow 2 le

/-- The fields of a finite double are those of its size. -/
theorem fields_ofParts (negative : Bool) {size : Nat} (small : size < maxExponent * twoTo 52) :
    (ofParts negative size).isNegative = negative
      ∧ (ofParts negative size).exponent = size / twoTo 52
      ∧ (ofParts negative size).fraction = size % twoTo 52 := by
  have bound : maxExponent * twoTo 52 = 9218868437227405312 := by decide
  have sign : twoTo 63 = 9223372036854775808 := by decide
  have step : twoTo 52 = 4503599627370496 := by decide
  rw [bound] at small
  unfold isNegative exponent fraction ofParts
  rw [UInt64.toNat_ofNat', sign, step]
  cases negative <;> simp <;> omega

/-- Units are read back from their bits, where doubles of their size are not too far apart. -/
theorem magnitude_ofParts (negative : Bool) {units : Nat}
    (small : units < twoTo (unitPower + 1024)) (exact : twoTo (spacing units) ∣ units) :
    (ofParts negative (bitsOfUnits units)).magnitude = units := by
  obtain ⟨-, exponent, fraction⟩ := fields_ofParts negative (bitsOfUnits_lt small)
  have step : twoTo 52 = 4503599627370496 := by decide
  unfold magnitude
  rw [exponent, fraction]
  unfold bitsOfUnits
  by_cases tiny : units < twoTo 52
  · rw [if_pos tiny, Nat.div_eq_of_lt tiny, if_pos rfl, Nat.mod_eq_of_lt tiny]
  · rw [if_neg tiny]
    have filled : units ≠ 0 := by
      rintro rfl
      exact tiny (twoTo_pos 52)
    have above : 52 ≤ Nat.log2 units := (Nat.le_log2 filled).mpr (Nat.le_of_not_lt tiny)
    -- the leading digit stands at the place of two to the power of 52
    have most : units / twoTo (spacing units) < twoTo (52 + 1) := div_twoTo_lt above
    have least : twoTo 52 ≤ units / twoTo (spacing units) := by
      rw [Nat.le_div_iff_mul_le (twoTo_pos _), ← twoTo_add, spacing,
        Nat.add_sub_cancel' above]
      exact Nat.log2_self_le filled
    have whole := Nat.div_mul_cancel exact
    generalize units / twoTo (spacing units) = quotient at most least whole ⊢
    have place : (spacing units + 1) * twoTo 52 + (quotient - twoTo 52)
        = twoTo 52 * (spacing units + 1) + (quotient - twoTo 52) := by rw [Nat.mul_comm]
    have rest : quotient - twoTo 52 < twoTo 52 := by
      rw [twoTo_add, show twoTo 1 = 2 from rfl] at most
      omega
    rw [place, Nat.mul_add_div (twoTo_pos 52), Nat.div_eq_of_lt rest, Nat.add_zero,
      if_neg (Nat.succ_ne_zero _), Nat.mul_add_mod, Nat.mod_eq_of_lt rest, Nat.add_sub_cancel,
      Nat.add_sub_cancel' least, whole]

/-! ## Rounding -/

/-- A multiple of a power of two with few digits is a multiple of what doubles of its size are
apart. -/
theorem twoTo_spacing_dvd {number : Nat} (few : number ≤ twoTo 53) (power : Nat) :
    twoTo (spacing (number * twoTo power)) ∣ number * twoTo power := by
  rcases Nat.lt_or_eq_of_le few with less | rfl
  · by_cases filled : number * twoTo power = 0
    · rw [filled]
      exact Nat.dvd_zero _
    · have digits : Nat.log2 (number * twoTo power) < 53 + power := by
        rw [Nat.log2_lt filled, ← twoTo_eq, twoTo_add]
        exact Nat.mul_lt_mul_of_pos_right less (twoTo_pos power)
      have close : spacing (number * twoTo power) ≤ power := by
        unfold spacing
        omega
      exact Nat.dvd_trans (twoTo_dvd close) (Nat.dvd_mul_left _ _)
  · rw [← twoTo_add]
    apply twoTo_dvd
    unfold spacing
    rw [twoTo_eq, Nat.log2_two_pow]
    omega

theorem nearestEven_of_dvd {a d : Nat} (divides : d ∣ a) (positive : 0 < d) :
    nearestEven a d = a / d := by
  unfold nearestEven
  rw [Nat.mod_eq_zero_of_dvd divides]
  simp [positive]

theorem div_le_nearestEven (a d : Nat) : a / d ≤ nearestEven a d := by
  unfold nearestEven
  split
  · exact Nat.le_refl _
  · split <;> omega

/-- A quotient is rounded alike in smaller units. -/
theorem nearestEven_mul_right (a d : Nat) {unit : Nat} (positive : 0 < unit) :
    nearestEven (a * unit) (d * unit) = nearestEven a d := by
  have rest : 2 * (a * unit % (d * unit)) = 2 * (a % d) * unit := by
    rw [Nat.mul_mod_mul_right, Nat.mul_assoc]
  unfold nearestEven
  simp only [rest, Nat.mul_div_mul_right _ _ positive, Nat.mul_lt_mul_right positive]

theorem nearest_mul_right (negative : Bool) (a d : Nat) {unit : Nat} (positive : 0 < unit) :
    nearest negative (a * unit) (d * unit) = nearest negative a d := by
  unfold nearest
  simp only [Nat.mul_div_mul_right _ _ positive, Nat.mul_right_comm d unit,
    nearestEven_mul_right _ _ positive]

/-- A rounded quotient has 53 digits before what it is a multiple of. -/
theorem nearestEven_spacing_le (a d : Nat) :
    nearestEven a (d * twoTo (spacing (a / d))) ≤ twoTo 53 := by
  refine Nat.le_trans (nearestEven_le _ _) ?_
  rw [← Nat.div_div_eq_div_mul]
  generalize a / d = quotient
  by_cases large : 52 ≤ Nat.log2 quotient
  · exact div_twoTo_lt large
  · have apart : spacing quotient = 0 := by
      unfold spacing
      omega
    have small : quotient < twoTo 52 := by
      by_cases filled : quotient = 0
      · rw [filled]
        exact twoTo_pos 52
      · exact (Nat.log2_lt filled).mp (Nat.lt_of_not_le large)
    have more : twoTo 52 < twoTo 53 := by decide
    rw [apart, show twoTo 0 = 1 from rfl, Nat.div_one]
    omega

/-- A quotient that is not too large is rounded to a multiple of what doubles of its size are
apart. -/
theorem units_nearest {a d : Nat}
    (small : nearestEven a (d * twoTo (spacing (a / d))) * twoTo (spacing (a / d))
      < twoTo (unitPower + 1024)) :
    (nearest false a d).units
      = (nearestEven a (d * twoTo (spacing (a / d))) * twoTo (spacing (a / d)) : Nat) := by
  have exact := twoTo_spacing_dvd (nearestEven_spacing_le a d) (spacing (a / d))
  obtain ⟨positive, -⟩ := fields_ofParts false (bitsOfUnits_lt small)
  unfold nearest
  simp only [if_pos small]
  unfold units
  rw [positive, magnitude_ofParts false small exact]
  simp

/-! ## Whole numbers and their quotients -/

theorem ofUnits_natCast (a d : Nat) : ofUnits (a : Int) d = nearest false a d := by
  unfold ofUnits
  rw [Int.natAbs_natCast, decide_eq_false (Int.not_lt.mpr (Int.natCast_nonneg a))]

theorem ofNat_eq (n : Nat) : ofNat n = nearest false (n * one) 1 := by
  rw [ofNat, ← Int.natCast_mul, ofUnits_natCast]

theorem eq_nearest_of_ofInt? {n : Nat} {x : Double} (found : ofInt? n = some x) :
    x = nearest false (n * one) 1 := by
  rw [ofInt?, ← Int.natCast_mul, ofUnits_natCast] at found
  split at found
  · exact (Option.some.inj found).symm
  · cases found

/-- Whatever has few digits before one is not too large. -/
theorem mul_lt_of_le {number gap : Nat} (few : number ≤ twoTo 53) (least : gap ≤ one) :
    number * gap < twoTo (unitPower + 1024) := by
  have room : 53 + unitPower < unitPower + 1024 := by decide
  calc number * gap ≤ twoTo 53 * twoTo unitPower := Nat.mul_le_mul few least
    _ = twoTo (53 + unitPower) := (twoTo_add _ _).symm
    _ < twoTo (unitPower + 1024) := twoTo_lt room

/-- A whole number of few digits is a double. -/
theorem nearest_whole {number : Nat} (few : number ≤ twoTo 53) :
    (nearest false (number * one) 1).isNegative = false
      ∧ (nearest false (number * one) 1).units = (number * one : Nat) := by
  have exact : twoTo (spacing (number * one)) ∣ number * one := twoTo_spacing_dvd few unitPower
  have same : nearestEven (number * one) (1 * twoTo (spacing (number * one / 1)))
      * twoTo (spacing (number * one / 1)) = number * one := by
    rw [Nat.div_one, Nat.one_mul, nearestEven_of_dvd exact (twoTo_pos _),
      Nat.div_mul_cancel exact]
  have small := mul_lt_of_le few (Nat.le_refl one)
  constructor
  · unfold nearest
    simp only [same, if_pos small]
    exact (fields_ofParts false (bitsOfUnits_lt small)).1
  · rw [← same] at small
    rw [units_nearest small, same]

theorem magnitude_of_not_isNegative {x : Double} (positive : x.isNegative = false) :
    (x.magnitude : Int) = x.units := by
  unfold units
  simp [positive]

/-- A quotient of small numbers leaves many times the gap between doubles of its size to one. -/
theorem exists_one_eq {m d power : Nat} (small : m < twoTo power) (within : power ≤ 53) :
    ∃ rest, one = twoTo (spacing (m * one * one / (d * one))) * rest
      ∧ twoTo (53 - power) ≤ rest := by
  have shrunk : m * one * one / (d * one) ≤ m * one := by
    rw [Nat.mul_div_mul_right _ _ one_pos]
    exact Nat.div_le_self _ _
  have digits : Nat.log2 (m * one * one / (d * one)) < power + unitPower := by
    by_cases nothing : m * one * one / (d * one) = 0
    · rw [nothing]
      exact Nat.lt_of_lt_of_le (by decide) (Nat.le_add_left unitPower power)
    · rw [Nat.log2_lt nothing, ← twoTo_eq, twoTo_add]
      exact Nat.lt_of_le_of_lt shrunk (Nat.mul_lt_mul_of_pos_right small one_pos)
  generalize m * one * one / (d * one) = quotient at digits
  have close : spacing quotient + (53 - power) ≤ unitPower := by
    unfold spacing
    unfold unitPower at *
    omega
  refine ⟨twoTo (unitPower - spacing quotient), ?_, twoTo_le (by omega)⟩
  rw [← twoTo_add, Nat.add_sub_cancel' (by omega), one]

/-- Rounding a quotient leaves it on its side of a whole number, where the numbers around are
much further apart than the quotient is divided. -/
theorem nearestEven_lt_iff {a b m d n rest : Nat} (quotient : a / b = m * rest / d)
    (positive : 0 < d) (fine : d < rest) : nearestEven a b < n * rest ↔ m < d * n := by
  have low := div_le_nearestEven a b
  have high := nearestEven_le a b
  rw [quotient] at low high
  constructor
  · intro below
    by_contra reached
    have least : n * rest ≤ m * rest / d := by
      rw [Nat.le_div_iff_mul_le positive, Nat.mul_right_comm, Nat.mul_comm n]
      exact Nat.mul_le_mul_right rest (Nat.not_lt.mp reached)
    omega
  · intro below
    have room : (m * rest / d + 1) * d < n * rest * d := by
      calc (m * rest / d + 1) * d ≤ m * rest + d := by
            rw [Nat.add_mul, Nat.one_mul]
            exact Nat.add_le_add_right (Nat.div_mul_le_self _ _) d
        _ < m * rest + rest := Nat.add_lt_add_left fine _
        _ = (m + 1) * rest := by rw [Nat.add_mul, Nat.one_mul]
        _ ≤ d * n * rest := Nat.mul_le_mul_right rest below
        _ = n * rest * d := by rw [Nat.mul_comm d, Nat.mul_right_comm]
    exact Nat.lt_of_le_of_lt high (Nat.lt_of_mul_lt_mul_right room)

/-- A rounded quotient of small numbers is less than a whole number where the quotient is. -/
theorem isBelow_nearest {m d power : Nat} (small : m < twoTo power) (within : power ≤ 53)
    (positive : 0 < d) (coarse : d < twoTo (53 - power)) (n : Nat) :
    (nearest false (m * one * one) (d * one)).isBelow n ↔ m < d * n := by
  obtain ⟨rest, parts, fine⟩ := exists_one_eq (d := d) small within
  have digits := nearestEven_spacing_le (m * one * one) (d * one)
  have least : twoTo (spacing (m * one * one / (d * one))) ≤ one :=
    Nat.le_of_dvd one_pos ⟨rest, parts⟩
  rw [isBelow, units_nearest (mul_lt_of_le digits least), decide_eq_true_eq, ← Int.natCast_mul,
    Int.ofNat_lt]
  have some := twoTo_pos (spacing (m * one * one / (d * one)))
  generalize twoTo (spacing (m * one * one / (d * one))) = gap at *
  have quotient : m * one * one / (d * one * gap) = m * rest / d := by
    rw [Nat.mul_right_comm d, Nat.mul_div_mul_right _ _ one_pos]
    calc m * one / (d * gap) = m * rest * gap / (d * gap) := by
          rw [parts, Nat.mul_comm gap, Nat.mul_assoc]
      _ = m * rest / d := Nat.mul_div_mul_right _ _ some
  have whole : n * one = n * rest * gap := by
    rw [Nat.mul_assoc, Nat.mul_comm rest, ← parts]
  rw [whole, Nat.mul_lt_mul_right some]
  exact nearestEven_lt_iff quotient positive (Nat.lt_of_lt_of_le coarse fine)

end Double

namespace TimeOfDay

variable {minutes : Nat} {hours : Double}

/-- Hours of a few minutes are their sixtieth part, rounded once. -/
theorem eq_nearest_of_hours? (few : minutes < Double.twoTo 11)
    (found : hours? minutes = some hours) :
    hours = .nearest false (minutes * Double.one * Double.one) (60 * Double.one) := by
  have most : (60 : Nat) ≤ Double.twoTo 53 := by decide
  have small : minutes ≤ Double.twoTo 53 :=
    Nat.le_of_lt (Nat.lt_of_lt_of_le few (Double.twoTo_le (by decide)))
  obtain ⟨count, counted, rfl⟩ := Option.map_eq_some_iff.mp found
  obtain ⟨-, dividend⟩ := Double.nearest_whole small
  obtain ⟨positive, divisor⟩ := Double.nearest_whole most
  have size := Double.magnitude_of_not_isNegative positive
  rw [divisor, Int.ofNat_inj] at size
  rw [Double.div, Double.ofNat_eq, Double.eq_nearest_of_ofInt? counted, positive, dividend, size,
    if_neg Bool.false_ne_true, ← Int.natCast_mul, Double.ofUnits_natCast]

/-- Hours of a few minutes are below a whole number of hours where the minutes are. -/
theorem isBelow_of_hours? (few : minutes < Double.twoTo 11)
    (found : hours? minutes = some hours) (n : Nat) : hours.isBelow n ↔ minutes < 60 * n := by
  rw [eq_nearest_of_hours? few found]
  exact Double.isBelow_nearest few (by decide) (by decide) (by decide) n

/-- The minutes of a day are reckoned as hours: as the nearest double to their sixtieth part, which
is below a whole number of hours where the minutes are. -/
theorem exists_hours (within : minutes ≤ 1440) :
    ∃ hours, TimeOfDay.hours minutes = .ok hours
      ∧ hours = .nearest false (minutes * Double.one) 60
      ∧ ∀ n : Nat, hours.isBelow n ↔ minutes < 60 * n := by
  have few : minutes < Double.twoTo 11 := Nat.lt_of_le_of_lt within (by decide)
  have known : (hours? minutes).isSome := isSome_hours? (Int.natCast_nonneg _) (by omega)
  obtain ⟨hours, found⟩ := Option.isSome_iff_exists.mp known
  refine ⟨hours, ?_, ?_, isBelow_of_hours? few found⟩
  · rw [TimeOfDay.hours, found]
  · rw [eq_nearest_of_hours? few found, Double.nearest_mul_right _ _ _ Double.one_pos]

end TimeOfDay

end Rendezvous
