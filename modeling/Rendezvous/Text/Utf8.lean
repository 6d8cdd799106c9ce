/-!
# UTF-8

A character is one to four bytes.  Reading never fails: bytes that begin no character, and
those that begin one which does not go on, become the replacement character, one for each
such beginning.
-/

namespace Rendezvous.Text

def utf8 (c : Char) : List UInt8 := c.toString.toUTF8.toList

/-- What stands for bytes that are no character. -/
def replacement : Char := '\ufffd'

/-- A character of which some bytes are read: their value, how many are still to come, and
the bounds of the next one. -/
structure Partial where
  value : Nat
  missing : Nat
  low : Nat
  high : Nat

def Partial.ofLead? (byte : Nat) : Option Partial :=
  if 0xc2 ≤ byte ∧ byte ≤ 0xdf then some ⟨byte - 0xc0, 1, 0x80, 0xbf⟩
  else if byte = 0xe0 then some ⟨0, 2, 0xa0, 0xbf⟩
  else if byte = 0xed then some ⟨13, 2, 0x80, 0x9f⟩
  else if 0xe1 ≤ byte ∧ byte ≤ 0xef then some ⟨byte - 0xe0, 2, 0x80, 0xbf⟩
  else if byte = 0xf0 then some ⟨0, 3, 0x90, 0xbf⟩
  else if 0xf1 ≤ byte ∧ byte ≤ 0xf3 then some ⟨byte - 0xf0, 3, 0x80, 0xbf⟩
  else if byte = 0xf4 then some ⟨4, 3, 0x80, 0x8f⟩
  else none

/-- A byte where a character may begin: what is read, and what is begun. -/
def beginChar (byte : Nat) : List Char × Option Partial :=
  if byte < 0x80 then ([Char.ofNat byte], none)
  else
    match Partial.ofLead? byte with
    | some begun => ([], some begun)
    | none => ([replacement], none)

def nextChar (begun : Option Partial) (byte : Nat) : List Char × Option Partial :=
  match begun with
  | none => beginChar byte
  | some begun =>
      if begun.low ≤ byte ∧ byte ≤ begun.high then
        let value := begun.value * 64 + (byte - 0x80)
        if begun.missing = 1 then ([Char.ofNat value], none)
        else ([], some ⟨value, begun.missing - 1, 0x80, 0xbf⟩)
      else
        let (read, begun) := beginChar byte
        (replacement :: read, begun)

def ofUtf8From (begun : Option Partial) : List UInt8 → List Char
  | [] => if begun.isSome then [replacement] else []
  | byte :: bytes =>
      let (read, begun) := nextChar begun byte.toNat
      read ++ ofUtf8From begun bytes

def ofUtf8 (bytes : List UInt8) : List Char := ofUtf8From none bytes

end Rendezvous.Text
