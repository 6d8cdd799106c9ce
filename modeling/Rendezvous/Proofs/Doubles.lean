import Mathlib.Algebra.Group.Nat.Defs
import Mathlib.Data.Nat.Log
import Rendezvous.Double

/-!
# Doubles that are finite

A double has room for everything below two to the power of 1024 units of one.  A whole number
that is less than half of that is rounded to a finite double.
-/

namespace Rendezvous.Double

theorem twoTo_eq (power : Nat) : twoTo power = 2 ^ power := rfl

theorem twoTo_le {a b : Nat} (le : a ≤ b) : twoTo a ≤ twoTo b :=
  Nat.pow_le_pow_right (by decide) le

/-- The bits of a size below that of infinity have a finite exponent. -/
theorem isFinite_ofParts (negative : Bool) {size : Nat} (small : size < maxExponent * twoTo 52) :
    (ofParts negative size).isFinite := by
  have bound : maxExponent * twoTo 52 = 9218868437227405312 := by decide
  have sign : twoTo 63 = 9223372036854775808 := by decide
  have step : twoTo 52 = 4503599627370496 := by decide
  rw [bound] at small
  rw [isFinite, exponent, ofParts, UInt64.toNat_ofNat', sign, step, decide_eq_true_eq, maxExponent]
  cases negative <;> simp <;> omega

/-- Two to the power of `low` fits between a number and the powers of two around it. -/
theorem div_twoTo_lt {units low : Nat} (high : low ≤ Nat.log2 units) :
    units / twoTo (Nat.log2 units - low) < twoTo (low + 1) := by
  rw [twoTo_eq, twoTo_eq, Nat.div_lt_iff_lt_mul (Nat.two_pow_pos _), ← Nat.pow_add]
  have reach : low + 1 + (Nat.log2 units - low) = Nat.log2 units + 1 := by omega
  rw [reach]
  exact Nat.lt_log2_self

/-- Whatever has few enough units has the bits of a finite double. -/
theorem bitsOfUnits_lt {units : Nat} (small : units < twoTo (unitPower + 1024)) :
    bitsOfUnits units < maxExponent * twoTo 52 := by
  rw [bitsOfUnits]
  split
  next tiny =>
    have most : twoTo 52 < maxExponent * twoTo 52 := by decide
    exact Nat.lt_trans tiny most
  next large =>
    have filled : units ≠ 0 := by
      rintro rfl
      exact large (by decide)
    have above : 52 ≤ Nat.log2 units :=
      (Nat.le_log2 filled).mpr (Nat.le_of_not_lt large)
    rw [twoTo_eq] at small
    have below : Nat.log2 units < unitPower + 1024 := (Nat.log2_lt filled).mpr small
    have rest := div_twoTo_lt above
    rw [spacing, maxExponent]
    rw [unitPower] at below
    generalize units / twoTo (Nat.log2 units - 52) = quotient at rest ⊢
    have bound : twoTo 52 = 4503599627370496 := by decide
    have bound' : twoTo (52 + 1) = 9007199254740992 := by decide
    rw [bound'] at rest
    rw [bound]
    generalize Nat.log2 units = power at above below ⊢
    omega

theorem nearestEven_le (a d : Nat) : nearestEven a d ≤ a / d + 1 := by
  rw [nearestEven]
  split
  · omega
  · split
    · exact Nat.le_refl _
    · have parity : a / d % 2 < 2 := Nat.mod_lt _ (by decide)
      omega

/-- Rounding to a multiple of the gap at most doubles a number. -/
theorem nearestEven_mul_le {a : Nat} (filled : a ≠ 0) :
    nearestEven a (twoTo (spacing a)) * twoTo (spacing a) ≤ 2 * a := by
  have gap : twoTo (spacing a) ≤ a := by
    rw [twoTo_eq, spacing]
    exact Nat.le_trans (Nat.pow_le_pow_right (by decide) (Nat.sub_le _ _)) (Nat.log2_self_le filled)
  calc nearestEven a (twoTo (spacing a)) * twoTo (spacing a)
      ≤ (a / twoTo (spacing a) + 1) * twoTo (spacing a) :=
        Nat.mul_le_mul_right _ (nearestEven_le _ _)
    _ = a / twoTo (spacing a) * twoTo (spacing a) + twoTo (spacing a) := by
        rw [Nat.add_mul, Nat.one_mul]
    _ ≤ a + a := Nat.add_le_add (Nat.div_mul_le_self _ _) gap
    _ = 2 * a := by omega

theorem isFinite_nearest (negative : Bool) {a : Nat} (small : 2 * a < twoTo (unitPower + 1024)) :
    (nearest negative a 1).isFinite := by
  have rounded : nearestEven a (1 * twoTo (spacing a)) * twoTo (spacing a)
      < twoTo (unitPower + 1024) := by
    rw [Nat.one_mul]
    by_cases filled : a = 0
    · have nothing : nearestEven 0 (twoTo (spacing 0)) * twoTo (spacing 0) = 0 := by decide
      rw [filled, nothing, twoTo_eq]
      exact Nat.two_pow_pos _
    · exact Nat.lt_of_le_of_lt (nearestEven_mul_le filled) small
  rw [nearest, Nat.div_one]
  simp only [if_pos rounded]
  exact isFinite_ofParts negative (bitsOfUnits_lt rounded)

theorem natAbs_mul_one_lt {n : Int} {power : Nat} (small : n.natAbs < twoTo power) :
    2 * (n * one).natAbs < twoTo (unitPower + (power + 1)) := by
  rw [twoTo_eq] at small ⊢
  rw [Int.natAbs_mul, Int.natAbs_natCast, one, twoTo_eq]
  calc 2 * (n.natAbs * 2 ^ unitPower) < 2 * (2 ^ power * 2 ^ unitPower) :=
        Nat.mul_lt_mul_of_pos_left
          (Nat.mul_lt_mul_of_pos_right small (Nat.two_pow_pos unitPower)) (by decide)
    _ = 2 ^ (unitPower + (power + 1)) := by
        rw [← Nat.pow_add, ← Nat.pow_succ']
        congr 1
        omega

/-- A whole number that is not too large is reckoned with as a finite double. -/
theorem isSome_ofInt? {n : Int} (small : n.natAbs < twoTo 1023) : (ofInt? n).isSome := by
  have finite := isFinite_nearest (n * one < 0) (natAbs_mul_one_lt small)
  rw [ofInt?, ofUnits]
  simp only [finite, if_true, Option.isSome_some]

end Rendezvous.Double
