/-
Polyschema.Number.Read — numbers read from text.

* `readHex?` — a whole number to base sixteen: a sign, then digits of any
  script, single underscores between them, blanks around and an optional
  mark `0x`.
* `readDecimal?` — a decimal, infinity or a value that is no number;
  underscores count nowhere.
* `readBinary64?` — a binary number, underscores between digits only.
-/
import Polyschema.Text.Ranges
import Polyschema.Number.Decimal

namespace Polyschema.Number

open Polyschema.Text

/-! ## Digits -/

/-- A digit of any script as the ASCII digit; other characters stay. -/
def plainDigit (c : Char) : Char :=
  match digitValue? c with
  | some value => Char.ofNat (0x30 + value)
  | none => c

/-- The value of a digit to base sixteen. -/
def hexValue? (c : Char) : Option Nat :=
  if c.isDigit then some (c.toNat - 0x30)
  else if 'a' ≤ c ∧ c ≤ 'f' then some (c.toNat - 0x57)
  else if 'A' ≤ c ∧ c ≤ 'F' then some (c.toNat - 0x37)
  else none

/-- The number that ASCII digits write. -/
def digitsValue (digits : List Char) : Nat :=
  digits.foldl (fun n c => 10 * n + (c.toNat - 0x30)) 0

/-- Splits off a leading sign; `true` is a minus. -/
def takeSign : List Char → Bool × List Char
  | '-' :: rest => (true, rest)
  | '+' :: rest => (false, rest)
  | cs => (false, cs)

/-- Digits to a base, a single underscore allowed before each but the
first. `value` is what was read so far. -/
def moreDigits (base : Nat) (digit : Char → Option Nat) (value : Nat) :
    List Char → Option Nat
  | [] => some value
  | '_' :: c :: rest => do moreDigits base digit (base * value + (← digit c)) rest
  | c :: rest => do moreDigits base digit (base * value + (← digit c)) rest

def wholeDigits (base : Nat) (digit : Char → Option Nat) :
    List Char → Option Nat
  | [] => none
  | c :: rest => do moreDigits base digit (← digit c) rest

/-! ## Whole numbers -/

/-- The digits after the mark of base sixteen, if the mark stands
there; one underscore may follow it. -/
def dropHexMark : List Char → List Char
  | '0' :: 'x' :: '_' :: rest => rest
  | '0' :: 'X' :: '_' :: rest => rest
  | '0' :: 'x' :: rest => rest
  | '0' :: 'X' :: rest => rest
  | cs => cs

/-- A whole number written to base sixteen. -/
def readHex? (s : List Char) : Option Int := do
  let (negative, digits) := takeSign ((trimChars isSpace s).map plainDigit)
  let value ← wholeDigits 16 hexValue? (dropHexMark digits)
  pure (if negative then -Int.ofNat value else Int.ofNat value)

/-! ## Decimals -/

/-- The exponent part of a number in ASCII digits. -/
def readExponent : List Char → Option Int
  | [] => some 0
  | mark :: rest =>
    let (negative, digits) := takeSign rest
    if (mark = 'e' ∨ mark = 'E') ∧ !digits.isEmpty ∧ digits.all Char.isDigit then
      let value := Int.ofNat (digitsValue digits)
      some (if negative then -value else value)
    else none

/-- An unsigned number in ASCII digits as a coefficient and a power of
ten: digits before or after a point, or both, and an exponent. -/
def readScientific (cs : List Char) : Option (Nat × Int) :=
  let whole := cs.takeWhile Char.isDigit
  let (part, tail) := match cs.dropWhile Char.isDigit with
    | '.' :: rest => (rest.takeWhile Char.isDigit, rest.dropWhile Char.isDigit)
    | rest => ([], rest)
  if whole.isEmpty && part.isEmpty then none
  else do
    let exponent ← readExponent tail
    pure (digitsValue (whole ++ part), exponent - part.length)

/-- Whether the letters of a word are these, in any casing. -/
def spells (cs : List Char) (word : String) : Bool :=
  cs.map Char.toLower == word.toList

/-- The payload of a value that is no number, after the given opening
word. -/
def readPayload (cs : List Char) (word : String) : Option Nat :=
  let rest := cs.drop word.length
  if spells (cs.take word.length) word && rest.all Char.isDigit then
    some (digitsValue rest)
  else none

/-- The greatest exponent that the first digit of a decimal may have. -/
def greatestExponent : Int := 999999999999999999

def leastExponent : Int := -1999999999999999997

def boundedDecimal (negative : Bool) (coefficient : Nat) (exponent : Int) :
    Option Decimal :=
  if exponent + digitCount coefficient - 1 ≤ greatestExponent ∧
      leastExponent ≤ exponent then
    some (.finite negative coefficient exponent)
  else none

/-- A decimal written as text. Blanks around it and underscores anywhere
do not count. -/
def readDecimal? (s : String) : Option Decimal :=
  let cs := ((trimChars isBlank s.toList).filter (· != '_')).map plainDigit
  let (negative, body) := takeSign cs
  if spells body "inf" || spells body "infinity" then
    some (.infinite negative)
  else match readPayload body "nan" with
    | some payload => some (.nan false negative payload)
    | none => match readPayload body "snan" with
      | some payload => some (.nan true negative payload)
      | none => do
        let (coefficient, exponent) ← readScientific body
        boundedDecimal negative coefficient exponent

/-! ## Binary numbers -/

/-- The text without its underscores, if each stands between two
digits. -/
def dropUnderscores (afterDigit : Bool) : List Char → Option (List Char)
  | [] => some []
  | '_' :: rest =>
    if afterDigit && rest.head?.any Char.isDigit then dropUnderscores false rest
    else none
  | c :: rest => do pure (c :: (← dropUnderscores c.isDigit rest))

/-- A binary number written as text. -/
def readBinary64? (s : String) : Option Binary64 := do
  let cs ← dropUnderscores false ((trimChars isSpace s.toList).map plainDigit)
  let (negative, body) := takeSign cs
  if spells body "inf" || spells body "infinity" then
    pure (.infinite negative)
  else if spells body "nan" then pure .nan
  else
    let (coefficient, exponent) ← readScientific body
    pure (.ofDecimal negative coefficient exponent)

end Polyschema.Number
