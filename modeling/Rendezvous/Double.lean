/-!
# Doubles

A double is a number of binary floating point in 64 bits: a sign, an exponent of eleven
bits and a fraction of 52.  A finite double is a whole number of units, where a unit is
the smallest double above nought.  An operation on finite doubles is exact on units; its
result is rounded to the nearest double, and to the even one of two that are as near.
-/

namespace Rendezvous

structure Double where
  bits : UInt64
deriving DecidableEq, Inhabited

namespace Double

def twoTo (power : Nat) : Nat := Nat.pow 2 power

/-- A double with a sign, whose other bits are given as a number. -/
def ofParts (negative : Bool) (size : Nat) : Double :=
  ⟨UInt64.ofNat (if negative then twoTo 63 + size else size)⟩

/-- The exponent field of what is not finite. -/
def maxExponent : Nat := 2047

/-- How many units make one, as a power of two. -/
def unitPower : Nat := 1074

def one : Nat := twoTo unitPower

def infinity (negative : Bool) : Double := ofParts negative (maxExponent * twoTo 52)

def nan (negative : Bool) : Double := ofParts negative (maxExponent * twoTo 52 + twoTo 51)

def isNegative (x : Double) : Bool := twoTo 63 ≤ x.bits.toNat

def exponent (x : Double) : Nat := x.bits.toNat / twoTo 52 % 2048

def fraction (x : Double) : Nat := x.bits.toNat % twoTo 52

def isFinite (x : Double) : Bool := x.exponent ≠ maxExponent

def isZero (x : Double) : Bool := x.exponent = 0 && x.fraction = 0

def magnitude (x : Double) : Nat :=
  if x.exponent = 0 then x.fraction else (twoTo 52 + x.fraction) * twoTo (x.exponent - 1)

/-- The units of a finite double. -/
def units (x : Double) : Int :=
  if x.isNegative then -(x.magnitude : Int) else x.magnitude

/-- The integer nearest to a quotient, the even one of two that are as near. -/
def nearestEven (a d : Nat) : Nat :=
  if 2 * (a % d) < d then a / d
  else if d < 2 * (a % d) then a / d + 1
  else a / d + a / d % 2

/-- How far the units of a double are apart, as a power of two, where it has about this
many. -/
def spacing (units : Nat) : Nat := Nat.log2 units - 52

/-- The bits of a double with this many units, its sign aside, where a double has them. -/
def bitsOfUnits (units : Nat) : Nat :=
  if units < twoTo 52 then units
  else (spacing units + 1) * twoTo 52 + (units / twoTo (spacing units) - twoTo 52)

/-- The double nearest to a quotient of units. -/
def nearest (negative : Bool) (a d : Nat) : Double :=
  let gap := twoTo (spacing (a / d))
  let units := nearestEven a (d * gap) * gap
  if units < twoTo (unitPower + 1024) then ofParts negative (bitsOfUnits units)
  else infinity negative

def ofUnits (a : Int) (d : Nat) : Double := nearest (a < 0) a.natAbs d

def ofInt? (n : Int) : Option Double :=
  let x := ofUnits (n * one) 1
  if x.isFinite then some x else none

def ofNat (n : Nat) : Double := ofUnits (n * one) 1

/-! ## Arithmetic of finite doubles -/

def add (x y : Double) : Double := ofUnits (x.units + y.units) 1

def mul (x y : Double) : Double := ofUnits (x.units * y.units) one

def div (x y : Double) : Double :=
  ofUnits (if y.isNegative then -(x.units * one) else x.units * one) y.magnitude

def neg (x : Double) : Double := ofParts (!x.isNegative) (x.bits.toNat % twoTo 63)

def floor (x : Double) : Int := x.units.fdiv one

/-- The integer that is nearest to a finite double, the larger in size of two that are as
near. -/
def round (x : Double) : Int :=
  let size : Int := ((2 * x.magnitude + one) / (2 * one) : Nat)
  if x.isNegative then -size else size

/-- What a finite double has after the point, with the sign of the double. -/
def fractional (x : Double) : Double := ofUnits (x.units.tmod one) 1

def whole? (x : Double) : Option Int :=
  if x.isFinite && x.units.fmod one = 0 then some x.floor else none

def isBelow (x : Double) (n : Int) : Bool := x.units < n * one

end Double

end Rendezvous
