/-!
# Base64

Four characters of six bits each stand for three bytes.  Reading passes over characters
that stand for nothing, and ends where a group of four is filled up with equals signs.
-/

namespace Rendezvous.Text.Base64

def sextet? (c : Char) : Option Nat :=
  let n := c.toNat
  if 65 ≤ n ∧ n ≤ 90 then some (n - 65)
  else if 97 ≤ n ∧ n ≤ 122 then some (n - 71)
  else if 48 ≤ n ∧ n ≤ 57 then some (n + 4)
  else if c = '+' then some 62
  else if c = '/' then some 63
  else none

/-- A group of four characters of which some are read: how many, the bits that have made no
byte yet, and the equals signs since the last of them. -/
structure Group where
  place : Nat
  bits : Nat
  signs : Nat

/-- The byte that six more bits complete, if they complete one, and the group after them. -/
def Group.next (group : Group) (sextet : Nat) : List UInt8 × Group :=
  match group.place with
  | 0 => ([], ⟨1, sextet, 0⟩)
  | 1 => ([(group.bits * 4 + sextet / 16).toUInt8], ⟨2, sextet % 16, 0⟩)
  | 2 => ([(group.bits * 16 + sextet / 4).toUInt8], ⟨3, sextet % 4, 0⟩)
  | _ => ([(group.bits * 64 + sextet).toUInt8], ⟨0, 0, 0⟩)

/-- The bytes of a text after a group that is begun; none if the last group is not whole. -/
def bytesFrom? (group : Group) : List Char → Option (List UInt8)
  | [] => if group.place = 0 then some [] else none
  | c :: cs =>
      if c = '=' then
        if group.place < 2 then bytesFrom? group cs
        else if 4 ≤ group.place + group.signs + 1 then some []
        else bytesFrom? { group with signs := group.signs + 1 } cs
      else
        match sextet? c with
        | none => bytesFrom? group cs
        | some sextet =>
            let (read, group) := group.next sextet
            (bytesFrom? group cs).map (read ++ ·)

def bytes? (cs : List Char) : Option (List UInt8) :=
  bytesFrom? ⟨0, 0, 0⟩ (cs ++ List.replicate ((4 - cs.length % 4) % 4) '=')

end Rendezvous.Text.Base64
