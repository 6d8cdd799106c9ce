/-!
# Blank characters

`isSpace` is the White_Space property.  `isBlank` adds the four information
separators U+001C to U+001F, which e-mail addresses are trimmed of as well.  `trim` and
`trimEnd` take characters off the ends of a text.
-/

namespace Rendezvous.Text

/-- Characters with the White_Space property. -/
def isSpace (c : Char) : Bool :=
  let n := c.toNat
  (9 ≤ n && n ≤ 13) || n == 0x20 || n == 0x85 || n == 0xa0 || n == 0x1680
    || (0x2000 ≤ n && n ≤ 0x200a) || n == 0x2028 || n == 0x2029 || n == 0x202f
    || n == 0x205f || n == 0x3000

/-- White space or an information separator. -/
def isBlank (c : Char) : Bool :=
  isSpace c || (0x1c ≤ c.toNat && c.toNat ≤ 0x1f)

/-- The characters left when those that satisfy `drop` are taken off the end. -/
def trimEnd (drop : Char → Bool) (cs : List Char) : List Char :=
  (cs.reverse.dropWhile drop).reverse

def trim (drop : Char → Bool) (cs : List Char) : List Char :=
  trimEnd drop (cs.dropWhile drop)

def withoutSlashes (text : String) : String :=
  String.ofList (trimEnd (· = '/') text.toList)

end Rendezvous.Text
