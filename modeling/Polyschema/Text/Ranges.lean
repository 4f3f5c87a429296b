/-
Polyschema.Text.Ranges — classes of characters given by a table of
closed ranges of code points.

* `inRanges` — membership in such a table.
* `isSpace`, `isBlank` — white space, and what trimming takes off.
* `digitValue?` — the decimal digits of every script.
-/

namespace Polyschema.Text

/-- Whether a code point lies in one of the closed ranges of a table. -/
def inRanges (table : List (Nat × Nat)) (code : Nat) : Bool :=
  table.any fun range => range.1 ≤ code && code ≤ range.2

/-! ## White space -/

/-- The white space of the Unicode standard. -/
def spaceRanges : List (Nat × Nat) := [
  (0x9, 0xd), (0x20, 0x20), (0x85, 0x85), (0xa0, 0xa0),
  (0x1680, 0x1680), (0x2000, 0x200a), (0x2028, 0x2029),
  (0x202f, 0x202f), (0x205f, 0x205f), (0x3000, 0x3000)]

/-- White space of the Unicode standard, as it may stand around a
number. -/
def isSpace (c : Char) : Bool := inRanges spaceRanges c.toNat

/-- White space in any script, and the four information separators of
ASCII. -/
def isBlank (c : Char) : Bool :=
  isSpace c || (0x1c ≤ c.toNat && c.toNat ≤ 0x1f)

/-- The characters of a text without those of a class at either end. -/
def trimChars (outer : Char → Bool) (cs : List Char) : List Char :=
  ((cs.dropWhile outer).reverse.dropWhile outer).reverse

/-- The text without the blanks at either end. -/
def trim (s : String) : String :=
  String.ofList (trimChars isBlank s.toList)

/-! ## Decimal digits -/

/-- The zeros of the scripts other than ASCII that have decimal digits;
the other nine digits of a script follow its zero. -/
def zeroDigits : List Nat := [
  0x660, 0x6f0, 0x7c0, 0x966, 0x9e6, 0xa66, 0xae6, 0xb66,
  0xbe6, 0xc66, 0xce6, 0xd66, 0xde6, 0xe50, 0xed0, 0xf20,
  0x1040, 0x1090, 0x17e0, 0x1810, 0x1946, 0x19d0, 0x1a80, 0x1a90,
  0x1b50, 0x1bb0, 0x1c40, 0x1c50, 0xa620, 0xa8d0, 0xa900, 0xa9d0,
  0xa9f0, 0xaa50, 0xabf0, 0xff10, 0x104a0, 0x10d30, 0x11066, 0x110f0,
  0x11136, 0x111d0, 0x112f0, 0x11450, 0x114d0, 0x11650, 0x116c0, 0x11730,
  0x118e0, 0x11950, 0x11c50, 0x11d50, 0x11da0, 0x16a60, 0x16ac0, 0x16b50,
  0x1d7ce, 0x1d7d8, 0x1d7e2, 0x1d7ec, 0x1d7f6, 0x1e140, 0x1e2f0, 0x1e950,
  0x1fbf0]

def digitValue? (c : Char) : Option Nat :=
  let code := c.toNat
  if code < 0x80 then
    if c.isDigit then some (code - 0x30) else none
  else
    (zeroDigits.find? fun first => first ≤ code && code ≤ first + 9).map
      (code - ·)

end Polyschema.Text
