/-!
# Decimal digits

A decimal digit is any character of general category `Nd`.  Those characters come
in runs of ten that ascend from a zero, so the zeros alone describe them.
-/

namespace Rendezvous.Text

/-- Code points of the characters that stand for zero. -/
def decimalZeros : List Nat :=
  [0x30, 0x660, 0x6f0, 0x7c0, 0x966, 0x9e6, 0xa66, 0xae6, 0xb66, 0xbe6, 0xc66, 0xce6,
    0xd66, 0xde6, 0xe50, 0xed0, 0xf20, 0x1040, 0x1090, 0x17e0, 0x1810, 0x1946, 0x19d0,
    0x1a80, 0x1a90, 0x1b50, 0x1bb0, 0x1c40, 0x1c50, 0xa620, 0xa8d0, 0xa900, 0xa9d0,
    0xa9f0, 0xaa50, 0xabf0, 0xff10, 0x104a0, 0x10d30, 0x11066, 0x110f0, 0x11136,
    0x111d0, 0x112f0, 0x11450, 0x114d0, 0x11650, 0x116c0, 0x11730, 0x118e0, 0x11950,
    0x11c50, 0x11d50, 0x11da0, 0x16a60, 0x16ac0, 0x16b50, 0x1d7ce, 0x1d7d8, 0x1d7e2,
    0x1d7ec, 0x1d7f6, 0x1e140, 0x1e2f0, 0x1e950, 0x1fbf0]

/-- The value of a decimal digit of any script. -/
def decimalDigit? (c : Char) : Option Nat :=
  decimalZeros.findSome? fun start =>
    if start ≤ c.toNat ∧ c.toNat < start + 10 then some (c.toNat - start) else none

def asciiDigit? (c : Char) : Option Nat :=
  if 48 ≤ c.toNat ∧ c.toNat < 58 then some (c.toNat - 48) else none

def digitBetween? (low high : Nat) (c : Char) : Option Nat :=
  (asciiDigit? c).filter fun value => low ≤ value && value ≤ high

theorem asciiDigit?_lt {c : Char} {value : Nat} (found : asciiDigit? c = some value) :
    value < 10 := by
  simp only [asciiDigit?] at found
  split at found
  · cases found
    omega
  · cases found

theorem decimalDigit?_lt {c : Char} {value : Nat} (found : decimalDigit? c = some value) :
    value < 10 := by
  obtain ⟨_, _, hit⟩ := List.exists_of_findSome?_eq_some found
  split at hit
  · cases hit
    omega
  · cases hit

theorem decimalDigit?_of_asciiDigit? {c : Char} {value : Nat}
    (found : asciiDigit? c = some value) : decimalDigit? c = some value := by
  simp only [asciiDigit?] at found
  split at found
  next within =>
    cases found
    simp [decimalDigit?, decimalZeros, within]
  next => cases found

end Rendezvous.Text
