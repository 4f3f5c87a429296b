/-
Polyschema.Value.JsonReader — values read from JSON text.

The grammar is that of JSON with `NaN`, `Infinity` and `-Infinity` as
further numbers. A number is whole unless it has a point or an exponent.
Of members with one name the last counts, at the place of the first.

* `Value.ofJson?` — the value that a whole text writes.
-/
import Polyschema.Entries
import Polyschema.Number.Read
import Polyschema.Value.Basic

namespace Polyschema

open Polyschema.Number

namespace JsonReader

/-- The blanks that JSON allows between tokens. -/
def isGap (c : Char) : Bool := c == ' ' || c == '\t' || c == '\n' || c == '\r'

def skip (cs : List Char) : List Char := cs.dropWhile isGap

/-- The rest after a word, if the characters begin with it. -/
def afterWord (word : String) (cs : List Char) : Option (List Char) :=
  if word.toList.isPrefixOf cs then some (cs.drop word.length) else none

/-! ## Strings -/

/-- The UTF-16 unit of four hexadecimal digits. -/
def unit? : List Char → Option (Nat × List Char)
  | a :: b :: c :: d :: rest => do
    let a ← hexValue? a
    let b ← hexValue? b
    let c ← hexValue? c
    let d ← hexValue? d
    pure (((a * 16 + b) * 16 + c) * 16 + d, rest)
  | _ => none

/-- The second half of a surrogate pair, if it follows. -/
def lowHalf? : List Char → Option (Nat × List Char)
  | '\\' :: 'u' :: rest =>
    match unit? rest with
    | some (low, rest) =>
      if 0xdc00 ≤ low ∧ low ≤ 0xdfff then some (low, rest) else none
    | none => none
  | _ => none

/-- The character of a unit, completed by a second half where the unit
is a first one. A half alone is replaced. -/
def unitChar (unit : Nat) (rest : List Char) : Char × List Char :=
  if 0xd800 ≤ unit ∧ unit ≤ 0xdbff then
    match lowHalf? rest with
    | some (low, rest) =>
      (Char.ofNat (0x10000 + (unit - 0xd800) * 0x400 + (low - 0xdc00)), rest)
    | none => (Char.ofNat 0xfffd, rest)
  else if 0xdc00 ≤ unit ∧ unit ≤ 0xdfff then (Char.ofNat 0xfffd, rest)
  else (Char.ofNat unit, rest)

/-- The character that an escape stands for, after its backslash. -/
def escaped? : List Char → Option (Char × List Char)
  | '"' :: rest => some ('"', rest)
  | '\\' :: rest => some ('\\', rest)
  | '/' :: rest => some ('/', rest)
  | 'b' :: rest => some (Char.ofNat 0x08, rest)
  | 'f' :: rest => some (Char.ofNat 0x0c, rest)
  | 'n' :: rest => some ('\n', rest)
  | 'r' :: rest => some ('\r', rest)
  | 't' :: rest => some ('\t', rest)
  | 'u' :: rest => (unit? rest).map fun (unit, rest) => unitChar unit rest
  | _ => none

/-- The rest of a string after its opening quote; `read` holds what was
read, last first. The fuel bounds the number of characters. -/
def string? : Nat → List Char → List Char → Option (String × List Char)
  | 0, _, _ => none
  | _ + 1, _, [] => none
  | fuel + 1, read, c :: rest =>
    if c = '"' then some (String.ofList read.reverse, rest)
    else if c = '\\' then
      match escaped? rest with
      | some (c, rest) => string? fuel (c :: read) rest
      | none => none
    else if c.toNat < 0x20 then none
    else string? fuel (c :: read) rest

/-! ## Numbers -/

/-- The digits of a fraction after its point, if there is one with a
digit after it. -/
def fraction : List Char → List Char × List Char
  | '.' :: c :: rest =>
    if c.isDigit then
      (c :: rest.takeWhile Char.isDigit, rest.dropWhile Char.isDigit)
    else ([], '.' :: c :: rest)
  | cs => ([], cs)

/-- The exponent, if there is one with a digit in it. -/
def exponent (cs : List Char) : Option Int × List Char :=
  match cs with
  | [] => (none, [])
  | mark :: rest =>
    let (negative, body) := takeSign rest
    let digits := body.takeWhile Char.isDigit
    if (mark = 'e' ∨ mark = 'E') ∧ !digits.isEmpty then
      let value := Int.ofNat (digitsValue digits)
      (some (if negative then -value else value), body.dropWhile Char.isDigit)
    else (none, cs)

/-- A number: no zeros in front, and an optional fraction and
exponent. -/
def number? (negative : Bool) (cs : List Char) : Option (Value × List Char) :=
  let digits := cs.takeWhile Char.isDigit
  let (whole, rest) :=
    if digits.head? = some '0' then (['0'], cs.drop 1)
    else (digits, cs.dropWhile Char.isDigit)
  if whole.isEmpty then none
  else
    let (part, rest) := fraction rest
    let (power, rest) := exponent rest
    if part.isEmpty && power.isNone then
      let n := Int.ofNat (digitsValue whole)
      some (.int (if negative then -n else n), rest)
    else
      some (.float (.ofDecimal negative (digitsValue (whole ++ part))
        (power.getD 0 - part.length)), rest)

/-- A number or one of the words that stand for values. -/
def scalar? (cs : List Char) : Option (Value × List Char) :=
  match cs with
  | '-' :: rest =>
    match afterWord "Infinity" rest with
    | some rest => some (.float (.infinite true), rest)
    | none => number? true rest
  | 'n' :: _ => (afterWord "null" cs).map fun rest => (.null, rest)
  | 't' :: _ => (afterWord "true" cs).map fun rest => (.bool true, rest)
  | 'f' :: _ => (afterWord "false" cs).map fun rest => (.bool false, rest)
  | 'N' :: _ => (afterWord "NaN" cs).map fun rest => (.float .nan, rest)
  | 'I' :: _ =>
    (afterWord "Infinity" cs).map fun rest => (.float (.infinite false), rest)
  | _ => number? false cs

/-! ## Values -/

mutual
/-- A value. The fuel bounds the depth and the number of items. -/
def value? : Nat → List Char → Option (Value × List Char)
  | 0, _ => none
  | fuel + 1, cs =>
    match cs with
    | '"' :: rest => (string? fuel [] rest).map fun (s, rest) => (.str s, rest)
    | '[' :: rest =>
      match skip rest with
      | ']' :: rest => some (.list [], rest)
      | rest => (items? fuel [] rest).map fun (items, rest) => (.list items, rest)
    | '\x7b' :: rest =>
      match skip rest with
      | '\x7d' :: rest => some (.dict [], rest)
      | rest => (members? fuel [] rest).map fun (members, rest) =>
        (.record members, rest)
    | _ => scalar? cs

/-- The items of a list up to its closing bracket; `read` holds those
read, last first. -/
def items? : Nat → List Value → List Char → Option (List Value × List Char)
  | 0, _, _ => none
  | fuel + 1, read, cs =>
    match value? fuel cs with
    | none => none
    | some (v, rest) =>
      match skip rest with
      | ',' :: rest => items? fuel (v :: read) (skip rest)
      | ']' :: rest => some ((v :: read).reverse, rest)
      | _ => none

/-- The members of an object up to its closing brace. -/
def members? : Nat → List (String × Value) → List Char →
    Option (List (String × Value) × List Char)
  | 0, _, _ => none
  | fuel + 1, read, cs =>
    match cs with
    | '"' :: rest =>
      match string? fuel [] rest with
      | none => none
      | some (name, rest) =>
        match skip rest with
        | ':' :: rest =>
          match value? fuel (skip rest) with
          | none => none
          | some (v, rest) =>
            let read := putEntry name v read
            match skip rest with
            | ',' :: rest => members? fuel read (skip rest)
            | '\x7d' :: rest => some (read, rest)
            | _ => none
        | _ => none
    | _ => none
end

end JsonReader

/-- The value that a text writes as JSON, blanks around it allowed. -/
def Value.ofJson? (s : String) : Option Value := do
  let cs := s.toList
  let (v, rest) ← JsonReader.value? (2 * cs.length + 2) (JsonReader.skip cs)
  if (JsonReader.skip rest).isEmpty then some v else none

end Polyschema
