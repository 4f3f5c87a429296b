/-
Polyschema.Proofs.LiteralRead — the literals of a default, read again.

PostgreSQL and SQLite take a quote in a text as the end of it unless it
is doubled, and nothing else in a text as special. A Prisma attribute
holds a scalar of JSON.

* `Value.ofSql?` — the value that an SQL literal stands for; a number
  with a point or an exponent stands for its text.
* `ofSql?_sqlLiteral`, `ofJson?_attributeLiteral` — what is stored is
  read back from its literals.
* `ofSql?_decimal` — the text of a decimal is read as that text, or as
  the whole number that it is.
-/
import Polyschema.Proofs.DecimalText
import Polyschema.Proofs.JsonText
import Polyschema.Value.Literal

namespace Polyschema

open Polyschema.Text Polyschema.Number Polyschema.JsonReader

/-! ## SQL literals -/

namespace SqlReader

/-- The body of a literal up to its closing quote, and what follows that.
A doubled quote is one within the text. -/
def body? : List Char → Option (List Char × List Char)
  | [] => none
  | [c] => if c = quote then some ([], []) else none
  | c :: d :: rest =>
    if c = quote then
      if d = quote then (body? rest).map fun (cs, after) => (quote :: cs, after)
      else some ([], d :: rest)
    else (body? (d :: rest)).map fun (cs, after) => (c :: cs, after)

/-- The closing quote is not doubled, so the body ends with it. -/
theorem body?_sqlBody (cs : List Char) {rest : List Char} (hrest : rest.head? ≠ some quote) :
    body? (sqlBody cs ++ quote :: rest) = some (cs, rest) := by
  induction cs with
  | nil =>
    cases rest with
    | nil => rfl
    | cons d rest =>
      have hd : d ≠ quote := by simpa using hrest
      show body? (quote :: d :: rest) = _
      rw [body?, if_pos rfl, if_neg hd]
  | cons c cs ih =>
    by_cases hc : c = quote
    · have hbody : sqlBody (c :: cs) = quote :: quote :: sqlBody cs := by simp [sqlBody, hc]
      rw [hbody, List.cons_append, List.cons_append, body?, if_pos rfl, if_pos rfl, ih, hc]
      rfl
    · have hbody : sqlBody (c :: cs) = c :: sqlBody cs := by simp [sqlBody, hc]
      obtain ⟨d, next, hnext⟩ := List.exists_cons_of_ne_nil
        (List.append_ne_nil_of_right_ne_nil (sqlBody cs) (List.cons_ne_nil quote rest))
      rw [hbody, List.cons_append, hnext, body?, if_neg hc, ← hnext, ih]
      rfl

end SqlReader

/-- A number: a whole one, or else the text of a decimal. -/
def sqlNumber? (s : String) : Option Value :=
  let (negative, body) := takeSign s.toList
  if !body.isEmpty && body.all Char.isDigit then
    let n := Int.ofNat (digitsValue body)
    some (.int (if negative then -n else n))
  else if (readScientific body).isSome then some (.str s)
  else none

/-- A truth value. -/
def sqlWord? (s : String) : Option Value :=
  if s = "TRUE" then some (.bool true)
  else if s = "FALSE" then some (.bool false)
  else none

/-- The value that an SQL literal stands for. -/
def Value.ofSql? (s : String) : Option Value :=
  match s.toList with
  | [] => none
  | c :: rest =>
    if c = quote then
      match SqlReader.body? rest with
      | some (cs, []) => some (.str (String.ofList cs))
      | _ => none
    else (sqlNumber? s).or (sqlWord? s)

/-- A text is read back from its quoted form. -/
theorem ofSql?_sqlString (s : String) : Value.ofSql? (sqlString s) = some (.str s) := by
  have hbody : SqlReader.body? (sqlBody s.toList ++ [quote]) = some (s.toList, []) :=
    SqlReader.body?_sqlBody s.toList (by simp)
  unfold Value.ofSql? sqlString
  rw [String.toList_ofList]
  simp only [if_true, hbody, String.ofList_toList]

/-! ## Numbers -/

/-- A number that is not quoted is read as a number. -/
theorem ofSql?_of_number {s : String} {c : Char} {cs : List Char} (hs : s.toList = c :: cs)
    (hc : c ≠ quote) {v : Value} (hv : sqlNumber? s = some v) : Value.ofSql? s = some v := by
  unfold Value.ofSql?
  rw [hs]
  simp only [if_neg hc, hv, Option.some_or]

/-- A sign and digits. -/
theorem sqlNumber?_digits {s : String} {negative : Bool} {body : List Char}
    (hs : takeSign s.toList = (negative, body)) (hne : body ≠ [])
    (hd : ∀ c ∈ body, c.isDigit = true) :
    sqlNumber? s = some (.int (if negative then -Int.ofNat (digitsValue body)
      else Int.ofNat (digitsValue body))) := by
  have hall : body.all Char.isDigit = true := List.all_eq_true.mpr hd
  have hempty : body.isEmpty = false := by simpa using hne
  simp only [sqlNumber?, hs, hall, hempty]
  rfl

theorem ofSql?_int (n : Int) : Value.ofSql? (toString n) = some (.int n) := by
  have hd := isDigit_toDigits n.natAbs
  have hne : Nat.toDigits 10 n.natAbs ≠ [] := Nat.toDigits_ne_nil
  obtain ⟨c, cs, hcons⟩ := List.exists_cons_of_ne_nil hne
  have hc : c.isDigit = true := hd c (by simp [hcons])
  have htext := intText n
  by_cases hn : n < 0
  · rw [if_pos hn, List.singleton_append] at htext
    refine ofSql?_of_number htext (by decide) ?_
    rw [sqlNumber?_digits (by rw [htext]; rfl) hne hd, if_pos rfl, digitsValue_toDigits,
      Int.ofNat_eq_natCast]
    congr 2
    omega
  · rw [if_neg hn, List.nil_append] at htext
    have hsign : takeSign (toString n).toList = (false, Nat.toDigits 10 n.natAbs) := by
      rw [htext, hcons, takeSign_of_isDigit hc]
    refine ofSql?_of_number (htext.trans hcons) (ne_of_isDigit hc (by decide)) ?_
    rw [sqlNumber?_digits hsign hne hd, if_neg (by decide), digitsValue_toDigits,
      Int.ofNat_eq_natCast]
    congr 2
    omega

/-- The text of a decimal is read as that text, or as the whole number
that it is. -/
theorem ofSql?_decimal (negative : Bool) (coefficient : Nat) (exponent : Int) :
    let d := Decimal.finite negative coefficient exponent
    ∃ read, Value.ofSql? d.text = some read ∧
      (read = .str d.text ∨ ∃ n, read = .int n ∧ (Decimal.ofInt n).same d = true) := by
  intro d
  have htext : d.text.toList = (if negative then ['-'] else []) ++
      unsignedChars coefficient exponent := Decimal.toList_text _ _ _
  have hsign : takeSign d.text.toList = (negative, unsignedChars coefficient exponent) := by
    rw [htext, takeSign_unsigned]
  have hscientific := readScientific_unsigned coefficient exponent
  obtain ⟨c, cs, hcons, hc⟩ := unsignedChars_eq_cons coefficient exponent
  obtain ⟨first, rest, hfirst, hquote⟩ : ∃ first rest, d.text.toList = first :: rest ∧
      first ≠ quote := by
    rw [htext, hcons]
    cases negative with
    | true => exact ⟨'-', _, rfl, by decide⟩
    | false => exact ⟨c, cs, rfl, ne_of_isDigit hc (by decide)⟩
  by_cases hdigits : ∀ c ∈ unsignedChars coefficient exponent, c.isDigit = true
  · -- digits alone are a coefficient without a point or an exponent
    have hne : unsignedChars coefficient exponent ≠ [] := by
      rw [hcons]
      exact List.cons_ne_nil _ _
    have hnone : OpensExponent [] := .inl rfl
    have hwhole := readScientific_whole hdigits hne hnone rfl
    rw [List.append_nil, hscientific, Option.some_inj, Prod.mk.injEq] at hwhole
    obtain ⟨hcoefficient, hexponent⟩ := hwhole
    refine ⟨_, ofSql?_of_number hfirst hquote (sqlNumber?_digits hsign hne hdigits),
      .inr ⟨_, rfl, ?_⟩⟩
    rw [← hcoefficient]
    rcases Nat.eq_zero_or_pos coefficient with hzero | hpos
    · simp [d, Decimal.ofInt, Decimal.same, hzero]
    · cases negative with
      | true => simp [d, Decimal.ofInt, Decimal.same, hexponent, hpos.ne', hpos]
      | false => simp [d, Decimal.ofInt, Decimal.same, hexponent, hpos.ne']
  · refine ⟨_, ofSql?_of_number hfirst hquote ?_, .inl rfl⟩
    have hall : (unsignedChars coefficient exponent).all Char.isDigit = false :=
      Bool.eq_false_iff.mpr fun h => hdigits (List.all_eq_true.mp h)
    simp only [sqlNumber?, hsign, hall, hscientific, Bool.and_false, Option.isSome_some]
    rfl

/-! ## What is stored -/

/-- What is stored has an SQL literal from which it is read back. -/
theorem ofSql?_sqlLiteral {v : Value} (h : v.Stored) :
    ∃ text, v.sqlLiteral = .ok text ∧ Value.ofSql? text = some v := by
  cases v with
  | bool b => cases b <;> exact ⟨_, rfl, rfl⟩
  | int n => exact ⟨_, rfl, ofSql?_int n⟩
  | str s => exact ⟨_, rfl, ofSql?_sqlString s⟩
  | _ => cases h

/-- What is stored has an attribute literal from which it is read
back. -/
theorem ofJson?_attributeLiteral {v : Value} (h : v.Stored) :
    ∃ text, v.attributeLiteral = .ok text ∧ Value.ofJson? text = some v := by
  cases v with
  | bool b => exact ⟨_, rfl, ofJson?_of_reads (reads_bool b)⟩
  | int n => exact ⟨_, rfl, ofJson?_of_reads (reads_int n)⟩
  | str s => exact ⟨_, rfl, ofJson?_of_reads (reads_str s)⟩
  | _ => cases h

end Polyschema
