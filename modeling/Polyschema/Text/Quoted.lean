/-
Polyschema.Text.Quoted — strings written as literals.

* `sqlString` — SQL: a quote inside is doubled.
* `scriptString` — TypeScript: backslash, quote and line feed are
  escaped.
* `jsonString` — JSON in ASCII.
* `shownString` — the form in which messages show a text.
-/
import Polyschema.Text.Printable

namespace Polyschema.Text

def quote : Char := Char.ofNat 0x27

def doubleQuote : Char := Char.ofNat 0x22

def backslash : Char := Char.ofNat 0x5c

/-! ## SQL -/

/-- The body of an SQL literal: a quote is written twice. -/
def sqlBody (cs : List Char) : List Char :=
  cs.flatMap fun c => if c = quote then [quote, quote] else [c]

def sqlString (s : String) : String :=
  String.ofList (quote :: (sqlBody s.toList ++ [quote]))

/-! ## TypeScript -/

/-- One character inside a single-quoted script literal. -/
def scriptEscape (c : Char) : List Char :=
  if c = backslash then [backslash, backslash]
  else if c = quote then [backslash, quote]
  else if c = '\n' then [backslash, 'n']
  else [c]

/-- A text as a single-quoted script literal. -/
def scriptString (s : String) : String :=
  String.ofList (quote :: (s.toList.flatMap scriptEscape ++ [quote]))

/-! ## JSON -/

/-- The last `width` hexadecimal digits of a number, in small letters. -/
def hexDigits (number : Nat) : Nat → List Char
  | 0 => []
  | width + 1 =>
    hexDigits (number / 16) width ++ [Nat.digitChar (number % 16)]

def unitEscape (unit : Nat) : List Char :=
  backslash :: 'u' :: hexDigits unit 4

/-- One character inside a JSON string in ASCII. -/
def jsonEscape (c : Char) : List Char :=
  let code := c.toNat
  if c = doubleQuote then [backslash, doubleQuote]
  else if c = backslash then [backslash, backslash]
  else if code = 0x08 then [backslash, 'b']
  else if code = 0x0c then [backslash, 'f']
  else if c = '\n' then [backslash, 'n']
  else if c = '\r' then [backslash, 'r']
  else if c = '\t' then [backslash, 't']
  else if 0x20 ≤ code ∧ code < 0x7f then [c]
  else if code < 0x10000 then unitEscape code
  else
    unitEscape (0xd800 + (code - 0x10000) / 0x400) ++
      unitEscape (0xdc00 + (code - 0x10000) % 0x400)

def jsonString (s : String) : String :=
  String.ofList
    (doubleQuote :: (s.toList.flatMap jsonEscape ++ [doubleQuote]))

/-! ## Shown in messages -/

/-- The mark around a shown text: single quotes, or double quotes when
only single ones stand inside. -/
def shownMark (cs : List Char) : Char :=
  if cs.contains quote && !cs.contains doubleQuote then doubleQuote else quote

/-- One character of a shown text between the given marks. -/
def shownEscape (mark c : Char) : List Char :=
  let code := c.toNat
  if c = mark ∨ c = backslash then [backslash, c]
  else if c = '\n' then [backslash, 'n']
  else if c = '\r' then [backslash, 'r']
  else if c = '\t' then [backslash, 't']
  else if isPrintable c then [c]
  else if code < 0x100 then backslash :: 'x' :: hexDigits code 2
  else if code < 0x10000 then backslash :: 'u' :: hexDigits code 4
  else backslash :: 'U' :: hexDigits code 8

/-- A text as messages show it, quoted, with what cannot be seen
escaped. -/
def shownString (s : String) : String :=
  let mark := shownMark s.toList
  String.ofList (mark :: (s.toList.flatMap (shownEscape mark) ++ [mark]))

end Polyschema.Text
