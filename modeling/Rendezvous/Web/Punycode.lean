/-!
# Punycode

Characters beyond ASCII are written as the steps of a walk: through the characters in the
order of their codes, and for each through the places where it may be inserted.  A step is
a number to a mixed base, whose digits depend on the sizes of the steps before.
-/

namespace Rendezvous.Punycode

/-- A digit below 36: letters first, then the decimal digits. -/
def digitChar (digit : Nat) : Char :=
  if digit < 26 then Char.ofNat (97 + digit) else Char.ofNat (22 + digit)

/-- The last digits of a step are below a threshold between 1 and 26. -/
def threshold (bias position : Nat) : Nat := max 1 (min 26 (position - bias))

/-- The digits of a step, the lowest first. -/
def digits (bias position step : Nat) : List Char :=
  let low := threshold bias position
  if step < low then [digitChar step]
  else
    digitChar (low + (step - low) % (36 - low))
      :: digits bias (position + 36) ((step - low) / (36 - low))
termination_by step
decreasing_by
  have positive : 1 ≤ threshold bias position := Nat.le_max_left _ _
  have : (step - threshold bias position) / (36 - threshold bias position)
      ≤ step - threshold bias position := Nat.div_le_self _ _
  omega

def biasFrom (position size : Nat) : Nat :=
  if size ≤ 455 then position + 36 * size / (size + 38)
  else biasFrom (position + 36) (size / 35)
termination_by size
decreasing_by omega

/-- The bias after a step to the place of the `count`-th character. -/
def bias (step count : Nat) (isFirst : Bool) : Nat :=
  let size := if isFirst then step / 700 else step / 2
  biasFrom 0 (size + size / count)

/-- Where the walk stands: what is written, the step so far, the bias, and the number of
characters that are in place. -/
structure Walk where
  written : List Char
  step : Nat
  bias : Nat
  placed : Nat

/-- Passes by a character on the way to those of one code. -/
def Walk.pass (basic code : Nat) (walk : Walk) (c : Char) : Walk :=
  if c.toNat < code then { walk with step := walk.step + 1 }
  else if c.toNat = code then
    { written := walk.written ++ digits walk.bias 36 walk.step
      step := 0
      bias := Punycode.bias walk.step (walk.placed + 1) (walk.placed = basic)
      placed := walk.placed + 1 }
  else walk

/-- Walks through a text once for each of some codes, of which the least possible is
`lowest`. -/
def Walk.through (text : List Char) (basic : Nat) : Nat → List Nat → Walk → Walk
  | _, [], walk => walk
  | lowest, code :: codes, walk =>
      let walk := { walk with step := walk.step + (code - lowest) * (walk.placed + 1) }
      let walk := text.foldl (Walk.pass basic code) walk
      Walk.through text basic (code + 1) codes { walk with step := walk.step + 1 }

/-- A text in ASCII characters: those of its own, a hyphen, and the walk. -/
def encode (text : List Char) : List Char :=
  let basic := text.filter fun c => c.toNat < 128
  let codes := (((text.map Char.toNat).filter (128 ≤ ·)).mergeSort (· ≤ ·)).eraseDups
  basic ++ (if basic.isEmpty then [] else ['-'])
    ++ (Walk.through text basic.length 128 codes ⟨[], 0, 72, basic.length⟩).written

end Rendezvous.Punycode
