import Rendezvous.Text.Utf8

/-!
# Charsets

A charset says which characters some bytes are.  It goes by several names, in which small
and capital letters are the same and runs of other marks than full stops are one.
-/

namespace Rendezvous.Text

inductive Charset where
  | ascii
  /-- The first 256 characters, one for each byte. -/
  | latin
  /-- The western charset that has the euro sign. -/
  | western
  /-- The western charset of desktop systems. -/
  | desktop
  | utf8
deriving DecidableEq

namespace Charset

/-- A name in small letters, with one underscore for every run of marks. -/
def plainName (name : List Char) : List Char :=
  let runs := (name.map Char.toLower).splitBy fun a b => isPart a = isPart b
  ['_'].intercalate (runs.filter (·.all isPart))
where
  isPart (c : Char) : Bool := c.isAlphanum || c = '.'

def names : List (Charset × List String) :=
  [(.ascii, ["ascii", "us_ascii", "646", "ansi_x3.4_1968", "ansi_x3_4_1968",
      "ansi_x3.4_1986", "cp367", "csascii", "ibm367", "iso646_us", "iso_646.irv_1991",
      "iso_ir_6", "us"]),
    (.latin, ["latin_1", "latin1", "latin", "l1", "8859", "cp819", "csisolatin1", "ibm819",
      "iso8859", "iso8859_1", "iso_8859_1", "iso_8859_1_1987", "iso_ir_100"]),
    (.western, ["iso8859_15", "iso_8859_15", "latin9", "l9"]),
    (.desktop, ["cp1252", "1252", "windows_1252"]),
    (.utf8, ["utf_8", "utf8", "u8", "utf", "utf8_ucs2", "utf8_ucs4", "cp65001"])]

def ofName? (name : List Char) : Option Charset :=
  (names.find? fun entry => entry.2.contains (String.ofList (plainName name))).map (·.1)

/-- The characters that the western charset has in place of others. -/
def westernMarks : List (Nat × Nat) :=
  [(0xa4, 0x20ac), (0xa6, 0x160), (0xa8, 0x161), (0xb4, 0x17d), (0xb8, 0x17e),
    (0xbc, 0x152), (0xbd, 0x153), (0xbe, 0x178)]

/-- The characters that the desktop charset has for the bytes from 0x80 to 0x9f. -/
def desktopMarks : List (Nat × Nat) :=
  [(0x80, 0x20ac), (0x82, 0x201a), (0x83, 0x192), (0x84, 0x201e), (0x85, 0x2026),
    (0x86, 0x2020), (0x87, 0x2021), (0x88, 0x2c6), (0x89, 0x2030), (0x8a, 0x160),
    (0x8b, 0x2039), (0x8c, 0x152), (0x8e, 0x17d), (0x91, 0x2018), (0x92, 0x2019),
    (0x93, 0x201c), (0x94, 0x201d), (0x95, 0x2022), (0x96, 0x2013), (0x97, 0x2014),
    (0x98, 0x2dc), (0x99, 0x2122), (0x9a, 0x161), (0x9b, 0x203a), (0x9c, 0x153),
    (0x9e, 0x17e), (0x9f, 0x178)]

def single? (charset : Charset) (byte : UInt8) : Option Char :=
  let n := byte.toNat
  match charset with
  | .ascii | .utf8 => if n < 0x80 then some (Char.ofNat n) else none
  | .latin => some (Char.ofNat n)
  | .western => some (Char.ofNat ((westernMarks.lookup n).getD n))
  | .desktop =>
      if n < 0x80 ∨ 0xa0 ≤ n then some (Char.ofNat n)
      else (desktopMarks.lookup n).map Char.ofNat

/-- The characters of some bytes, if they are bytes of this charset.  In UTF-8 they are
those that are written as these bytes again. -/
def read? (charset : Charset) (bytes : List UInt8) : Option (List Char) :=
  match charset with
  | .utf8 =>
      let read := ofUtf8 bytes
      if read.flatMap Text.utf8 = bytes then some read else none
  | charset => bytes.mapM charset.single?

end Charset

end Rendezvous.Text
