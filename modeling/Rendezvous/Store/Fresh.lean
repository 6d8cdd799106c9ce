/-!
# Generated names

Records and tokens get generated names, which are numbers in hexadecimal with a fixed width.
A record's number is larger than all that were generated before, and its name is not taken:
no record in its table has it, and no exclusion is from a recurrence of that name.
-/

namespace Rendezvous.Fresh

/-- A number in hexadecimal with a fixed width. -/
def numeral (width number : Nat) : String :=
  String.ofList ((Nat.toDigits 16 number).leftpad width '0')

def nameWidth : Nat := 32

def name (number : Nat) : String := numeral nameWidth number

/-- The first number from `number` on whose name is not taken, looking `fuel` further at
most. -/
def search (taken : List String) : Nat → Nat → Nat
  | 0, number => number
  | fuel + 1, number =>
      if taken.contains (name number) then search taken fuel (number + 1) else number

/-- The next number after `issued` whose name is not taken.  There are no more names to
pass over than are taken. -/
def next (taken : List String) (issued : Nat) : Nat :=
  search taken taken.length (issued + 1)

def tokenWidth : Nat := 64

def token (number : Nat) : String := numeral tokenWidth number

end Rendezvous.Fresh
