import Rendezvous.Text.Case
import Rendezvous.Text.Digit
import Rendezvous.Text.Percent
import Rendezvous.Web.Punycode

/-!
# Hosts

A host is an address of four decimal numbers, an address of hexadecimal numbers in
brackets, or a name.  The labels of a name that have characters beyond ASCII are written
in Punycode.
-/

namespace Rendezvous.Host

def isDigit (c : Char) : Bool := (Text.asciiDigit? c).isSome

/-! ## Addresses in numbers -/

/-- One character further in four numbers with anything between them: even states expect a
number, odd ones are in one. -/
def shapeStep (states : List Nat) (c : Char) : List Nat :=
  (states.flatMap fun state =>
    if state % 2 = 0 then if isDigit c then [state + 1] else []
    else (if isDigit c then [state] else []) ++ if state < 7 then [state + 1] else []).eraseDups

/-- Whether a host is four numbers with single characters between them. -/
def isFourNumbers (cs : List Char) : Bool := (cs.foldl shapeStep [0]).contains 7

/-- A number from 0 to 255 that no nought begins, but for nought itself. -/
def isOctet (cs : List Char) : Bool :=
  !cs.isEmpty && cs.length ≤ 3 && cs.all isDigit && (cs = ['0'] || cs.head? ≠ some '0')
    && cs.foldl (fun value c => 10 * value + (Text.asciiDigit? c).getD 0) 0 ≤ 255

def isShortAddress (cs : List Char) : Bool :=
  let parts := cs.splitOn '.'
  parts.length = 4 && parts.all isOctet

def isHextet (cs : List Char) : Bool :=
  !cs.isEmpty && cs.length ≤ 4 && cs.all fun c => (Text.hexDigit? c).isSome

/-- The groups of an address, where four octets at the end are two groups. -/
def groups? (cs : List Char) : Option (List (List Char)) :=
  let parts := cs.splitOn ':'
  match parts.getLast? with
  | some last =>
      if last.contains '.' then
        if isShortAddress last then some (parts.dropLast ++ [['0'], ['0']]) else none
      else
        some parts
  | none => none

/-- The groups on one side of the gap, which may touch the end of the address. -/
def besideGap? (groups : List (List Char)) (atEnd : Option (List Char)) :
    Option (List (List Char)) :=
  if atEnd = some [] then if groups.length = 1 then some [] else none else some groups

/-- Eight groups, or fewer with one gap among them. -/
def areGroups (groups : List (List Char)) : Bool :=
  let inner := (groups.drop 1).dropLast
  let gap := inner.findIdx List.isEmpty + 1
  if inner.all fun group => !group.isEmpty then groups.length = 8 && groups.all isHextet
  else
    let before := groups.take gap
    let after := groups.drop (gap + 1)
    match besideGap? before before.head?, besideGap? after after.getLast? with
    | some before, some after => before.length + after.length < 8 && (before ++ after).all isHextet
    | _, _ => false

/-- An address in hexadecimal groups, and perhaps a zone after a percent sign. -/
def isLongAddress (cs : List Char) : Bool :=
  let zone := cs.dropWhile (· ≠ '%')
  (zone = [] || (zone.length ≠ 1 && !(zone.drop 1).contains '%'))
    && match groups? (cs.takeWhile (· ≠ '%')) with
      | some groups => 3 ≤ groups.length && groups.length ≤ 9 && areGroups groups
      | none => false

/-! ## Names -/

/-- Runs of the characters beyond ASCII that names may have. -/
def nameRuns : List (Nat × Nat) :=
  [(0xdf, 0xf6), (0xf8, 0x12f), (0x131, 0x131), (0x135, 0x13e), (0x142, 0x148),
    (0x14b, 0x17e), (0x180, 0x1c3),
    (0x1ce, 0x1f0), (0x1f5, 0x2af), (0x2b9, 0x2c1), (0x2c6, 0x2d1), (0x2ec, 0x2ec),
    (0x2ee, 0x2ee), (0x300, 0x342), (0x346, 0x34e), (0x350, 0x373), (0x377, 0x377),
    (0x37b, 0x37d), (0x390, 0x3ce), (0x3d7, 0x3ef), (0x3f3, 0x3f3), (0x3f8, 0x481),
    (0x483, 0x487), (0x48b, 0x559), (0x560, 0x586), (0x588, 0x588), (0x591, 0x5bd),
    (0x5bf, 0x5bf), (0x5c1, 0x5c2), (0x5c4, 0x5c5), (0x5c7, 0x5f2), (0x610, 0x61a),
    (0x620, 0x63f), (0x641, 0x65f), (0x66e, 0x674), (0x679, 0x6d3), (0x6d5, 0x6dc),
    (0x6df, 0x6e8), (0x6ea, 0x6ef), (0x6fa, 0x6ff), (0x710, 0x7f5), (0x7fd, 0x7fd),
    (0x800, 0x82d), (0x840, 0x85b), (0x860, 0x887), (0x889, 0x88f), (0x897, 0x8e1),
    (0x8e3, 0x963), (0x966, 0x96f), (0x971, 0x9f1), (0x9fc, 0x9fc), (0x9fe, 0xa75),
    (0xa81, 0xaef), (0xaf9, 0xb6f), (0xb71, 0xb71), (0xb82, 0xbef), (0xc00, 0xc6f),
    (0xc80, 0xc83), (0xc85, 0xd4e), (0xd54, 0xd57), (0xd5f, 0xd6f), (0xd7a, 0xdf3),
    (0xe01, 0xe32), (0xe34, 0xe3a), (0xe40, 0xe4e), (0xe50, 0xe59), (0xe81, 0xeb2),
    (0xeb4, 0xed9), (0xede, 0xf00), (0xf0b, 0xf0b), (0xf18, 0xf19), (0xf20, 0xf29),
    (0xf35, 0xf35), (0xf37, 0xf37), (0xf39, 0xf39), (0xf3e, 0xf74), (0xf7a, 0xf84),
    (0xf86, 0xfbc), (0xfc6, 0xfc6), (0x1000, 0x1049), (0x1050, 0x109d), (0x10d0, 0x10fa),
    (0x10fd, 0x10ff), (0x1200, 0x135f), (0x1380, 0x138f), (0x1401, 0x166c), (0x166f, 0x167f),
    (0x1681, 0x169a), (0x16a0, 0x16ea), (0x16f1, 0x1734), (0x1740, 0x17b3), (0x17b6, 0x17d3),
    (0x17d7, 0x17d7), (0x17dc, 0x17e9), (0x1810, 0x193b), (0x1946, 0x19d9), (0x1a00, 0x1a1b),
    (0x1a20, 0x1a99), (0x1aa7, 0x1aa7), (0x1ab0, 0x1abd), (0x1abf, 0x1b59), (0x1b6b, 0x1b73),
    (0x1b80, 0x1bf3), (0x1c00, 0x1c37), (0x1c40, 0x1c7d), (0x1c8a, 0x1c8a), (0x1cd0, 0x1cd2),
    (0x1cd4, 0x1d2b), (0x1d2f, 0x1d2f), (0x1d3b, 0x1d3b), (0x1d4e, 0x1d4e), (0x1d6b, 0x1d77),
    (0x1d79, 0x1d9a), (0x1dc0, 0x1e99), (0x1e9c, 0x1f7c), (0x1fb0, 0x1fb1), (0x1fb6, 0x1fb6),
    (0x1fc6, 0x1fc6), (0x1fd0, 0x1fd7), (0x1fe0, 0x1fe7), (0x1ff6, 0x1ff6), (0x214e, 0x214e),
    (0x2184, 0x2184), (0x2c30, 0x2c7b), (0x2c81, 0x2ce4), (0x2cec, 0x2cf3), (0x2d00, 0x2d67),
    (0x2d7f, 0x2dff), (0x2e2f, 0x2e2f), (0x3005, 0x3007), (0x302a, 0x302d), (0x303c, 0x303c),
    (0x3041, 0x309a), (0x309d, 0x309e), (0x30a1, 0x30fa), (0x30fc, 0x30fe), (0x3105, 0x312f),
    (0x31a0, 0x31bf), (0x31f0, 0x31ff), (0x3400, 0x4dbf), (0x4e00, 0xa48c), (0xa4d0, 0xa4fd),
    (0xa500, 0xa60c), (0xa610, 0xa66f), (0xa674, 0xa67d), (0xa67f, 0xa69b), (0xa69e, 0xa6e5),
    (0xa6f0, 0xa6f1), (0xa717, 0xa71f), (0xa723, 0xa76f), (0xa771, 0xa788), (0xa78c, 0xa7db),
    (0xa7f6, 0xa7f7), (0xa7fa, 0xa827), (0xa82c, 0xa82c), (0xa840, 0xa873), (0xa880, 0xa8c5),
    (0xa8d0, 0xa8f7), (0xa8fb, 0xa8fb), (0xa8fd, 0xa92d), (0xa930, 0xa953), (0xa980, 0xa9c0),
    (0xa9cf, 0xa9d9), (0xa9e0, 0xaa59), (0xaa60, 0xaa76), (0xaa7a, 0xaadd), (0xaae0, 0xaaef),
    (0xaaf2, 0xab5a), (0xab60, 0xab68), (0xabc0, 0xabea), (0xabec, 0xd7a3), (0xfa0e, 0xfa29),
    (0xfb1e, 0xfb1e), (0xfe20, 0xfe2f), (0xfe73, 0xfe73), (0x10000, 0x100fa), (0x101fd, 0x102e0),
    (0x10300, 0x1031f), (0x1032d, 0x10340), (0x10342, 0x10349), (0x10350, 0x1039d),
    (0x103a0, 0x103cf), (0x10428, 0x10563), (0x10597, 0x10780), (0x10800, 0x10855),
    (0x10860, 0x10876), (0x10880, 0x1089e), (0x108e0, 0x108f5), (0x10900, 0x10915),
    (0x10920, 0x10939), (0x10940, 0x109b7), (0x109be, 0x109bf), (0x10a00, 0x10a3f),
    (0x10a60, 0x10a7c), (0x10a80, 0x10a9c), (0x10ac0, 0x10ac7), (0x10ac9, 0x10ae6),
    (0x10b00, 0x10b35), (0x10b40, 0x10b55), (0x10b60, 0x10b72), (0x10b80, 0x10b91),
    (0x10c00, 0x10cf2), (0x10d00, 0x10d85), (0x10e80, 0x10eac), (0x10eb0, 0x10f1c),
    (0x10f27, 0x10f50), (0x10f70, 0x10f85), (0x10fb0, 0x10fc4), (0x10fe0, 0x11046),
    (0x11066, 0x110ba), (0x110c2, 0x110c2), (0x110d0, 0x1113f), (0x11144, 0x11173),
    (0x11176, 0x111c4), (0x111c9, 0x111cc), (0x111ce, 0x111da), (0x111dc, 0x111dc),
    (0x11200, 0x11237), (0x1123e, 0x112a8), (0x112b0, 0x1144a), (0x11450, 0x11459),
    (0x1145e, 0x114c5), (0x114c7, 0x115c0), (0x115d8, 0x11640), (0x11644, 0x11659),
    (0x11680, 0x116b8), (0x116c0, 0x11739), (0x11740, 0x1183a), (0x118c0, 0x118e9),
    (0x118ff, 0x11943), (0x11950, 0x119e1), (0x119e3, 0x11a3e), (0x11a47, 0x11a99),
    (0x11a9d, 0x11a9d), (0x11ab0, 0x11c40), (0x11c50, 0x11c59), (0x11c72, 0x11ef6),
    (0x11f00, 0x11fb0), (0x12000, 0x12399), (0x12480, 0x12ff0), (0x13000, 0x1342f),
    (0x13440, 0x16a69), (0x16a70, 0x16af4), (0x16b00, 0x16b36), (0x16b40, 0x16b43),
    (0x16b50, 0x16b59), (0x16b63, 0x16e7f), (0x16ebb, 0x16fe1), (0x16fe3, 0x1bc99),
    (0x1bc9d, 0x1bc9e), (0x1cf00, 0x1cf46), (0x1da00, 0x1da36), (0x1da3b, 0x1da6c),
    (0x1da75, 0x1da75), (0x1da84, 0x1da84), (0x1da9b, 0x1e14e), (0x1e290, 0x1e2f9),
    (0x1e4d0, 0x1e8c4), (0x1e8d0, 0x1e959), (0x20000, 0x33479)]

/-- Marks that are written over the letter before them. -/
def isMark (c : Char) : Bool := 0x300 ≤ c.toNat && c.toNat ≤ 0x36f

def isLeftward (c : Char) : Bool :=
  (0x591 ≤ c.toNat && c.toNat ≤ 0x8ff) || (0x10800 ≤ c.toNat && c.toNat < 0x11000)

def isNameChar (c : Char) : Bool :=
  if Text.isAscii c then c.isLower || c.isDigit || c = '-'
  else !isMark c && nameRuns.any fun run => run.1 ≤ c.toNat && c.toNat ≤ run.2

/-- Hyphens neither begin nor end a label, nor are the third and the fourth of it. -/
def hasGoodHyphens (cs : List Char) : Bool :=
  cs.head? ≠ some '-' && cs.getLast? ≠ some '-' && (cs.drop 2).take 2 ≠ ['-', '-']

/-- A label with letters from right to left begins with one, and has none that are written
the other way. -/
def hasOneDirection (cs : List Char) : Bool :=
  !cs.any isLeftward
    || ((cs.head?.map isLeftward).getD false
      && cs.all fun c => isLeftward c || isDigit c || c = '-')

def mark : List Char := ['x', 'n', '-', '-']

def label? (cs : List Char) : Option (List Char) :=
  let written := if cs.all Text.isAscii then cs else mark ++ Punycode.encode cs
  let isGood :=
    if mark.isPrefixOf cs then cs.all isNameChar && cs.getLast? ≠ some '-'
    else cs.all isNameChar && hasGoodHyphens cs && hasOneDirection cs
  if !cs.isEmpty && isGood && written.length ≤ 63 then some written else none

def isStop (c : Char) : Bool := c = '.' || c = '\u3002' || c = '\uff0e' || c = '\uff61'

def name? (cs : List Char) : Option (List Char) :=
  let labels := (cs.map fun c => if isStop c then '.' else c).splitOn '.'
  let rooted := labels.getLast? = some []
  let written := ((if rooted then labels.dropLast else labels).mapM label?).map fun labels =>
    ['.'].intercalate (if rooted then labels ++ [[]] else labels)
  written.filter fun written => written.length ≤ if rooted then 254 else 253

def isNameSafe (c : Char) : Bool :=
  Text.isUnreserved c || "!$&'()*+,;=\"`\x7b\x7d%|\\".toList.contains c

/-- A host as it is kept, brackets aside, if it is one. -/
def normal? (cs : List Char) : Option (List Char) :=
  if cs.isEmpty then some []
  else if isFourNumbers cs then if isShortAddress cs then some cs else none
  else if cs.head? = some '[' && 2 ≤ cs.length && cs.getLast? = some ']' then
    let address := (cs.drop 1).dropLast
    if isLongAddress address then some address else none
  else if cs.all Text.isAscii then
    some (Text.percentEscape isNameSafe (cs.map Char.toLower))
  else
    name? (cs.map Text.small)

end Rendezvous.Host
