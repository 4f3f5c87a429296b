/-
Polyschema.Proofs.JsonText — lists of stored scalars written as JSON
text, and read again.

* `string?_body` — the body of a string is read back, escapes and
  surrogate pairs included.
* `Reads` — a text that is read as a value where an item of a list may
  stand; `reads_stored` — so it is with truth values, whole numbers and
  texts.
* `reads_list` — a list is read back from its text if its items are from
  theirs; `ofJson?_list` — so is a list of those.
-/
import Polyschema.Kind.Codec
import Polyschema.Proofs.Digits
import Polyschema.Proofs.Noted

namespace Polyschema

open Polyschema.Text Polyschema.Number Polyschema.JsonReader

/-! ## Escapes -/

theorem hexValue?_digitChar {n : Nat} (h : n < 16) : hexValue? (Nat.digitChar n) = some n := by
  have hall : ∀ k : Fin 16, hexValue? (Nat.digitChar k) = some k.val := by decide
  exact hall ⟨n, h⟩

/-- The four digits of a unit. -/
theorem hexDigits_four (n : Nat) : hexDigits n 4 =
    [Nat.digitChar (n / 16 / 16 / 16 % 16), Nat.digitChar (n / 16 / 16 % 16),
      Nat.digitChar (n / 16 % 16), Nat.digitChar (n % 16)] := rfl

/-- A unit is read back from its digits. -/
theorem unit?_hexDigits {n : Nat} (h : n < 0x10000) (rest : List Char) :
    unit? (hexDigits n 4 ++ rest) = some (n, rest) := by
  have hvalue : ((n / 16 / 16 / 16 % 16 * 16 + n / 16 / 16 % 16) * 16 + n / 16 % 16) * 16 +
      n % 16 = n := by
    omega
  rw [hexDigits_four]
  simp only [List.cons_append, List.nil_append, unit?, Option.bind_eq_bind,
    hexValue?_digitChar (Nat.mod_lt _ (by decide)), Option.bind_some, hvalue]
  rfl

/-- A character is no half of a surrogate pair. -/
theorem not_surrogate (c : Char) : ¬ (0xd800 ≤ c.toNat ∧ c.toNat ≤ 0xdfff) := by
  have h := c.valid
  rcases h with h | ⟨h, _⟩
  · have h : c.toNat < 0xd800 := h
    omega
  · have h : 0xdfff < c.toNat := h
    omega

theorem toNat_lt (c : Char) : c.toNat < 0x110000 := by
  have h := c.valid
  rcases h with h | ⟨_, h⟩
  · have h : c.toNat < 0xd800 := h
    omega
  · exact h

/-- One step of reading a string: an escaped character. -/
theorem string?_escape {cs after : List Char} {c : Char}
    (h : escaped? cs = some (c, after)) (fuel : Nat) (read : List Char) :
    string? (fuel + 1) read ('\\' :: cs) = string? fuel (c :: read) after := by
  rw [string?]
  simp only [Char.reduceEq, if_false, if_true, h]

/-- The character of one unit. -/
theorem escaped?_unit {c : Char} (h : c.toNat < 0x10000) (rest : List Char) :
    escaped? ('u' :: (hexDigits c.toNat 4 ++ rest)) = some (c, rest) := by
  have hc := not_surrogate c
  simp only [escaped?, unit?_hexDigits h, Option.map_some, unitChar]
  rw [if_neg (by omega), if_neg (by omega), Char.ofNat_toNat]

theorem lowHalf?_hexDigits {low : Nat} (hlow : 0xdc00 ≤ low ∧ low ≤ 0xdfff)
    (rest : List Char) : lowHalf? ('\\' :: 'u' :: (hexDigits low 4 ++ rest)) =
      some (low, rest) := by
  have hunit := unit?_hexDigits (n := low) (by omega) rest
  simp only [lowHalf?, hunit, if_pos hlow]

/-- The character of a pair of units. -/
theorem escaped?_pair {c : Char} {high low : Nat} (hhigh : 0xd800 ≤ high ∧ high ≤ 0xdbff)
    (hlow : 0xdc00 ≤ low ∧ low ≤ 0xdfff)
    (hcode : 0x10000 + (high - 0xd800) * 0x400 + (low - 0xdc00) = c.toNat)
    (rest : List Char) :
    escaped? ('u' :: (hexDigits high 4 ++ '\\' :: 'u' :: (hexDigits low 4 ++ rest))) =
      some (c, rest) := by
  have hunit := unit?_hexDigits (n := high) (by omega)
    ('\\' :: 'u' :: (hexDigits low 4 ++ rest))
  simp only [escaped?, hunit, Option.map_some, unitChar, if_pos hhigh,
    lowHalf?_hexDigits hlow, hcode, Char.ofNat_toNat]

/-- A character is written as an escape that stands for it, or as
itself. -/
theorem jsonEscape_cases (c : Char) :
    (∃ body, jsonEscape c = '\\' :: body ∧
      ∀ rest, escaped? (body ++ rest) = some (c, rest)) ∨
    jsonEscape c = [c] ∧ c ≠ '"' ∧ c ≠ '\\' ∧ 0x20 ≤ c.toNat := by
  have hcode {n : Nat} (h : c.toNat = n) : c = Char.ofNat n := by rw [← h, Char.ofNat_toNat]
  generalize he : jsonEscape c = written
  unfold jsonEscape at he
  dsimp only at he
  by_cases hquote : c = doubleQuote
  · rw [if_pos hquote] at he
    exact .inl ⟨_, he.symm, fun rest => by rw [hquote]; rfl⟩
  rw [if_neg hquote] at he
  by_cases hback : c = backslash
  · rw [if_pos hback] at he
    exact .inl ⟨_, he.symm, fun rest => by rw [hback]; rfl⟩
  rw [if_neg hback] at he
  by_cases h : c.toNat = 0x08
  · rw [if_pos h] at he
    exact .inl ⟨_, he.symm, fun rest => by rw [hcode h]; rfl⟩
  rw [if_neg h] at he
  by_cases h : c.toNat = 0x0c
  · rw [if_pos h] at he
    exact .inl ⟨_, he.symm, fun rest => by rw [hcode h]; rfl⟩
  rw [if_neg h] at he
  by_cases h : c = '\n'
  · rw [if_pos h] at he
    exact .inl ⟨_, he.symm, fun rest => by rw [h]; rfl⟩
  rw [if_neg h] at he
  by_cases h : c = '\r'
  · rw [if_pos h] at he
    exact .inl ⟨_, he.symm, fun rest => by rw [h]; rfl⟩
  rw [if_neg h] at he
  by_cases h : c = '\t'
  · rw [if_pos h] at he
    exact .inl ⟨_, he.symm, fun rest => by rw [h]; rfl⟩
  rw [if_neg h] at he
  by_cases h : 0x20 ≤ c.toNat ∧ c.toNat < 0x7f
  · rw [if_pos h] at he
    exact .inr ⟨he.symm, hquote, hback, h.1⟩
  rw [if_neg h] at he
  by_cases h : c.toNat < 0x10000
  · rw [if_pos h] at he
    exact .inl ⟨_, he.symm, escaped?_unit h⟩
  have hlimit := toNat_lt c
  rw [if_neg h, unitEscape, List.cons_append] at he
  refine .inl ⟨_, he.symm, fun rest => ?_⟩
  rw [List.append_assoc, List.cons_append]
  exact escaped?_pair (by omega) (by omega) (by omega) rest

/-- A character is read back from how it is written in a string. -/
theorem string?_jsonEscape (c : Char) (fuel : Nat) (read rest : List Char) :
    string? (fuel + 1) read (jsonEscape c ++ rest) = string? fuel (c :: read) rest := by
  obtain ⟨body, he, hbody⟩ | ⟨he, hquote, hback, hprintable⟩ := jsonEscape_cases c
  · rw [he, List.cons_append]
    exact string?_escape (hbody rest) fuel read
  · rw [he, List.cons_append, List.nil_append, string?, if_neg hquote, if_neg hback,
      if_neg (by omega)]

/-- The body of a string is read back up to its closing quote. -/
theorem string?_body (cs : List Char) {fuel : Nat} (h : cs.length < fuel)
    (read rest : List Char) :
    string? fuel read (cs.flatMap jsonEscape ++ '"' :: rest) =
      some (String.ofList (read.reverse ++ cs), rest) := by
  induction cs generalizing fuel read with
  | nil =>
    obtain ⟨k, rfl⟩ : ∃ k, fuel = k + 1 := ⟨fuel - 1, by simp at h; omega⟩
    simp [string?]
  | cons c cs ih =>
    rw [List.length_cons] at h
    obtain ⟨k, rfl⟩ : ∃ k, fuel = k + 1 := ⟨fuel - 1, by omega⟩
    rw [List.flatMap_cons, List.append_assoc, string?_jsonEscape, ih (by omega)]
    simp

/-- Every character is written with one character or more. -/
theorem length_le_body (cs : List Char) : cs.length ≤ (cs.flatMap jsonEscape).length := by
  have hone (c : Char) : 1 ≤ (jsonEscape c).length := by
    obtain ⟨body, he, _⟩ | ⟨he, _⟩ := jsonEscape_cases c <;> simp [he]
  induction cs with
  | nil => exact Nat.le_refl _
  | cons c cs ih =>
    have := hone c
    rw [List.flatMap_cons, List.length_append, List.length_cons]
    omega

/-! ## Items of a list -/

/-- What may follow a value that stands alone, as an item of a list or as
a member of an object: nothing, or what goes on with the list or object or
closes it. -/
def EndsItem (rest : List Char) : Prop := ∀ c ∈ rest.head?, c = ',' ∨ c = ']' ∨ c = '\x7d'

theorem endsItem_nil : EndsItem [] := nofun

theorem endsItem_cons {c : Char} (h : c = ',' ∨ c = ']' ∨ c = '\x7d') (rest : List Char) :
    EndsItem (c :: rest) := by
  intro d hd
  cases hd
  exact h

theorem EndsItem.cases {rest : List Char} (h : EndsItem rest) :
    rest = [] ∨ ∃ c after, rest = c :: after ∧ (c = ',' ∨ c = ']' ∨ c = '\x7d') := by
  cases rest with
  | nil => exact .inl rfl
  | cons c after => exact .inr ⟨c, after, rfl, h c rfl⟩

/-- A text that is read as a value where an item of a list may stand. -/
structure Reads (cs : List Char) (v : Value) : Prop where
  opens : ∃ c after, cs = c :: after ∧ isGap c = false ∧ c ≠ ']'
  value : ∀ {fuel : Nat} {rest : List Char}, cs.length < fuel → EndsItem rest →
    value? fuel (cs ++ rest) = some (v, rest)

/-- A truth value, a whole number or a text: what kinds with an exact
stored form store. -/
def Value.Stored : Value → Prop
  | .bool _ | .int _ | .str _ => True
  | _ => False

/-- The characters of a string: its body between quotes. -/
theorem toList_jsonString (s : String) :
    (jsonString s).toList = '"' :: (s.toList.flatMap jsonEscape ++ ['"']) := by
  rw [jsonString, String.toList_ofList]
  rfl

theorem reads_str (s : String) : Reads (jsonString s).toList (.str s) := by
  rw [toList_jsonString]
  refine ⟨⟨'"', _, rfl, by decide, by decide⟩, fun {fuel rest} hfuel hrest => ?_⟩
  obtain ⟨k, rfl⟩ : ∃ k, fuel = k + 1 := ⟨fuel - 1, by omega⟩
  have hlength := length_le_body s.toList
  have hk : s.toList.length < k := by
    simp only [List.length_cons, List.length_append] at hfuel
    omega
  have hbody := string?_body s.toList hk [] rest
  simp only [List.reverse_nil, List.nil_append, String.ofList_toList] at hbody
  simp only [List.cons_append, List.append_assoc, List.nil_append, value?, hbody]
  rfl

theorem reads_bool (b : Bool) : Reads (if b then "true" else "false").toList (.bool b) := by
  cases b with
  | true =>
    refine ⟨⟨'t', _, rfl, by decide, by decide⟩, fun {fuel rest} hfuel _ => ?_⟩
    obtain ⟨k, rfl⟩ : ∃ k, fuel = k + 1 := ⟨fuel - 1, by omega⟩
    rfl
  | false =>
    refine ⟨⟨'f', _, rfl, by decide, by decide⟩, fun {fuel rest} hfuel _ => ?_⟩
    obtain ⟨k, rfl⟩ : ∃ k, fuel = k + 1 := ⟨fuel - 1, by omega⟩
    rfl

/-- A number above zero does not begin with the digit zero. -/
theorem head_toDigits_ne_zero {n : Nat} (h : 0 < n) : (Nat.toDigits 10 n).head? ≠ some '0' := by
  induction n using Nat.strongRecOn with
  | _ n ih =>
    by_cases hsmall : n < 10
    · rw [Nat.toDigits_of_lt_base hsmall]
      simp
      omega
    · rw [Nat.toDigits_of_base_le (by decide) (by omega), List.head?_append_of_ne_nil _
        Nat.toDigits_ne_nil]
      exact ih (n / 10) (by omega) (by omega)

theorem EndsItem.endsDigits {rest : List Char} (h : EndsItem rest) : EndsDigits rest := by
  intro c hc
  obtain rfl | rfl | rfl := h c hc <;> decide

/-- What ends an item is no fraction. -/
theorem EndsItem.fraction_eq {rest : List Char} (h : EndsItem rest) :
    fraction rest = ([], rest) := by
  obtain rfl | ⟨c, after, rfl, rfl | rfl | rfl⟩ := h.cases <;> rfl

/-- What ends an item is no exponent. -/
theorem EndsItem.exponent_eq {rest : List Char} (h : EndsItem rest) :
    exponent rest = (none, rest) := by
  obtain rfl | ⟨c, after, rfl, rfl | rfl | rfl⟩ := h.cases <;> simp [exponent]

/-- A whole number is read from its digits. -/
theorem number?_toDigits (negative : Bool) (n : Nat) {rest : List Char} (h : EndsItem rest) :
    number? negative (Nat.toDigits 10 n ++ rest) =
      some (.int (if negative then -Int.ofNat n else Int.ofNat n), rest) := by
  have hd := isDigit_toDigits n
  have hwhole : (if (Nat.toDigits 10 n).head? = some '0' then
      (['0'], (Nat.toDigits 10 n ++ rest).drop 1) else (Nat.toDigits 10 n, rest)) =
      (Nat.toDigits 10 n, rest) := by
    rcases Nat.eq_zero_or_pos n with rfl | hpos
    · rfl
    · exact if_neg (head_toDigits_ne_zero hpos)
  have hne : (Nat.toDigits 10 n).isEmpty = false := by simp
  unfold number?
  simp only [takeWhile_digits hd h.endsDigits, dropWhile_digits hd h.endsDigits, hwhole, hne,
    h.fraction_eq, h.exponent_eq, digitsValue_toDigits]
  rfl

theorem value?_of_scalar {c : Char} (hstring : c ≠ '"') (hlist : c ≠ '[') (hobject : c ≠ '\x7b')
    (fuel : Nat) (cs : List Char) : value? (fuel + 1) (c :: cs) = scalar? (c :: cs) := by
  rw [value?]
  · exact fun _ heq => hstring (List.cons.inj heq).1
  · exact fun _ heq => hlist (List.cons.inj heq).1
  · exact fun _ heq => hobject (List.cons.inj heq).1

theorem ne_of_isDigit {c d : Char} (hc : c.isDigit = true) (hd : d.isDigit = false) : c ≠ d := by
  rintro rfl
  rw [hc] at hd
  cases hd

theorem scalar?_of_isDigit {c : Char} (h : c.isDigit = true) (cs : List Char) :
    scalar? (c :: cs) = number? false (c :: cs) := by
  unfold scalar?
  split
  next heq => exact absurd (List.cons.inj heq).1 (ne_of_isDigit h (by decide))
  next heq => exact absurd (List.cons.inj heq).1 (ne_of_isDigit h (by decide))
  next heq => exact absurd (List.cons.inj heq).1 (ne_of_isDigit h (by decide))
  next heq => exact absurd (List.cons.inj heq).1 (ne_of_isDigit h (by decide))
  next heq => exact absurd (List.cons.inj heq).1 (ne_of_isDigit h (by decide))
  next heq => exact absurd (List.cons.inj heq).1 (ne_of_isDigit h (by decide))
  next => rfl

theorem scalar?_minus {c : Char} (h : c.isDigit = true) (cs : List Char) :
    scalar? ('-' :: c :: cs) = number? true (c :: cs) := by
  have hword : afterWord "Infinity" (c :: cs) = none := by
    have hne : ('I' == c) = false := by simpa using (ne_of_isDigit h (by decide)).symm
    exact if_neg (by simp [List.isPrefixOf, hne])
  simp only [scalar?, hword]

theorem isGap_of_isDigit {c : Char} (h : c.isDigit = true) : isGap c = false := by
  have hspace : c ≠ ' ' := ne_of_isDigit h (by decide)
  have htab : c ≠ '\t' := ne_of_isDigit h (by decide)
  have hline : c ≠ '\n' := ne_of_isDigit h (by decide)
  have hreturn : c ≠ '\r' := ne_of_isDigit h (by decide)
  simp [isGap, hspace, htab, hline, hreturn]

/-- A number that begins with a digit is read where an item may stand,
also with a sign. -/
theorem reads_number (negative : Bool) {cs : List Char} {v : Value}
    (hfirst : ∃ c after, cs = c :: after ∧ c.isDigit = true)
    (hnumber : ∀ {rest : List Char}, EndsItem rest →
      number? negative (cs ++ rest) = some (v, rest)) :
    Reads ((if negative then ['-'] else []) ++ cs) v := by
  obtain ⟨c, after, rfl, hc⟩ := hfirst
  cases negative with
  | true =>
    refine ⟨⟨'-', _, rfl, by decide, by decide⟩, fun {fuel rest} hfuel hrest => ?_⟩
    obtain ⟨k, rfl⟩ : ∃ k, fuel = k + 1 := ⟨fuel - 1, by omega⟩
    have hread := hnumber hrest
    rw [List.cons_append] at hread
    rw [if_pos rfl, List.cons_append, List.nil_append, List.cons_append, List.cons_append,
      value?_of_scalar (by decide) (by decide) (by decide), scalar?_minus hc, hread]
  | false =>
    refine ⟨⟨c, after, rfl, isGap_of_isDigit hc, ne_of_isDigit hc (by decide)⟩,
      fun {fuel rest} hfuel hrest => ?_⟩
    obtain ⟨k, rfl⟩ : ∃ k, fuel = k + 1 := ⟨fuel - 1, by omega⟩
    have hread := hnumber hrest
    rw [List.cons_append] at hread
    rw [if_neg (by decide), List.nil_append, List.cons_append,
      value?_of_scalar (ne_of_isDigit hc (by decide)) (ne_of_isDigit hc (by decide))
        (ne_of_isDigit hc (by decide)), scalar?_of_isDigit hc, hread]

theorem reads_int (n : Int) : Reads (toString n).toList (.int n) := by
  obtain ⟨c, cs, hcons⟩ :=
    List.exists_cons_of_ne_nil (Nat.toDigits_ne_nil (b := 10) (n := n.natAbs))
  have hc : c.isDigit = true := isDigit_toDigits n.natAbs c (by simp [hcons])
  have hsign : (if decide (n < 0) then -Int.ofNat n.natAbs else Int.ofNat n.natAbs) = n := by
    rw [Int.ofNat_eq_natCast]
    by_cases hn : n < 0
    · rw [if_pos (decide_eq_true hn)]
      omega
    · rw [if_neg (by simpa using hn)]
      omega
  have hread := reads_number (decide (n < 0)) ⟨c, cs, hcons, hc⟩
    fun hr => number?_toDigits _ n.natAbs hr
  rw [hsign] at hread
  simpa only [intText, decide_eq_true_eq] using hread

/-- What is stored has JSON text that is read back. -/
theorem reads_stored {v : Value} (h : v.Stored) :
    ∃ text, v.json .canonical = .ok text ∧ Reads text.toList v := by
  cases v with
  | bool b => exact ⟨_, rfl, reads_bool b⟩
  | int n => exact ⟨_, rfl, reads_int n⟩
  | str s => exact ⟨_, rfl, reads_str s⟩
  | _ => cases h

/-! ## Lists -/

/-- Items with commas between them are read up to the closing
bracket. -/
theorem items?_of_reads {cs : List Char} {v : Value} {rest : List (List Char)}
    {vs : List Value} (hv : Reads cs v) (hvs : List.Forall₂ Reads rest vs) {fuel : Nat}
    (hfuel : ([','].intercalate (cs :: rest)).length + 1 < fuel) (read : List Value)
    (after : List Char) :
    items? fuel read ([','].intercalate (cs :: rest) ++ ']' :: after) =
      some (read.reverse ++ v :: vs, after) := by
  induction hvs generalizing cs v fuel read with
  | nil =>
    obtain ⟨k, rfl⟩ : ∃ k, fuel = k + 1 := ⟨fuel - 1, by omega⟩
    rw [List.intercalate_singleton] at hfuel ⊢
    have hvalue : value? k (cs ++ ']' :: after) = some (v, ']' :: after) :=
      hv.value (by omega) (endsItem_cons (.inr (.inl rfl)) after)
    rw [items?, hvalue]
    simp [skip, isGap]
  | @cons ds w rest vs hw hvs ih =>
    obtain ⟨k, rfl⟩ : ∃ k, fuel = k + 1 := ⟨fuel - 1, by omega⟩
    have hsplit : [','].intercalate (cs :: ds :: rest) =
        cs ++ ',' :: [','].intercalate (ds :: rest) := by
      simp
    rw [hsplit, List.length_append, List.length_cons] at hfuel
    obtain ⟨c, next, hopen, hgap, _⟩ := hw.opens
    have hskip : skip ([','].intercalate (ds :: rest) ++ ']' :: after) =
        [','].intercalate (ds :: rest) ++ ']' :: after := by
      rw [hopen, List.intercalate_cons_cons_left, List.cons_append]
      simp [skip, hgap]
    have hvalue : value? k (cs ++ ',' :: ([','].intercalate (ds :: rest) ++ ']' :: after)) =
        some (v, ',' :: ([','].intercalate (ds :: rest) ++ ']' :: after)) :=
      hv.value (by omega) (endsItem_cons (.inl rfl) _)
    have hshort : ([','].intercalate (ds :: rest)).length + 1 < k := by omega
    have hrest := ih hw hshort (v :: read)
    rw [List.reverse_cons, List.append_assoc] at hrest
    have hcomma : skip (',' :: ([','].intercalate (ds :: rest) ++ ']' :: after)) =
        ',' :: ([','].intercalate (ds :: rest) ++ ']' :: after) := rfl
    rw [hsplit, List.append_assoc, List.cons_append, items?, hvalue]
    simp only [hcomma, hskip, hrest]
    rfl

/-- The text of a list is read back, if the texts of its items are. -/
theorem reads_list {css : List (List Char)} {vs : List Value} (h : List.Forall₂ Reads css vs) :
    Reads ('[' :: ([','].intercalate css ++ [']'])) (.list vs) := by
  refine ⟨⟨'[', _, rfl, by decide, by decide⟩, fun {fuel after} hfuel _ => ?_⟩
  obtain ⟨k, rfl⟩ : ∃ k, fuel = k + 1 := ⟨fuel - 1, by omega⟩
  rw [List.cons_append, List.append_assoc, List.singleton_append]
  cases h with
  | nil => rfl
  | @cons cs v css vs hv hvs =>
    obtain ⟨c, next, hcs, hgap, hclose⟩ := hv.opens
    obtain ⟨next, hfirst⟩ : ∃ next, [','].intercalate (cs :: css) = c :: next :=
      ⟨_, by rw [hcs, List.intercalate_cons_cons_left]⟩
    have hskip : skip ([','].intercalate (cs :: css) ++ ']' :: after) =
        c :: (next ++ ']' :: after) := by
      rw [hfirst, List.cons_append]
      simp [skip, hgap]
    have hinner : ([','].intercalate (cs :: css)).length + 1 < k := by
      rw [List.length_cons, List.length_append, List.length_singleton] at hfuel
      omega
    have hitems := items?_of_reads hv hvs hinner [] after
    rw [hfirst, List.cons_append, List.reverse_nil, List.nil_append] at hitems
    rw [value?]
    simp only [hskip]
    split
    next heq => exact absurd (List.cons.inj heq).1 hclose
    next => simp only [hitems, Option.map_some]

/-- A text that is read as an item is read on its own. -/
theorem ofJson?_of_reads {s : String} {v : Value} (h : Reads s.toList v) :
    Value.ofJson? s = some v := by
  obtain ⟨c, cs, hcons, hgap, -⟩ := h.opens
  have hskip : skip s.toList = s.toList := by
    rw [hcons]
    simp [skip, hgap]
  have hfuel : s.toList.length < 2 * s.toList.length + 2 := by omega
  have hvalue := h.value hfuel endsItem_nil
  rw [List.append_nil] at hvalue
  simp only [Value.ofJson?, hskip, hvalue, Option.bind_eq_bind, Option.bind_some]
  rfl

/-- The texts of stored items are read back. -/
theorem reads_items {vs : List Value} (h : ∀ v ∈ vs, v.Stored) :
    ∃ texts, Value.jsonItems .canonical vs = .ok texts ∧
      List.Forall₂ Reads (texts.map String.toList) vs := by
  induction vs with
  | nil => exact ⟨[], rfl, .nil⟩
  | cons v rest ih =>
    obtain ⟨hv, hrest⟩ := List.forall_mem_cons.mp h
    obtain ⟨text, ht, hr⟩ := reads_stored hv
    obtain ⟨texts, hts, hrs⟩ := ih hrest
    refine ⟨text :: texts, ?_, .cons hr hrs⟩
    simp only [Value.jsonItems, ht, hts]
    rfl

/-- The items of a list between its brackets. -/
theorem toList_listText (texts : List String) : ("[" ++ ",".intercalate texts ++ "]").toList =
    '[' :: ([','].intercalate (texts.map String.toList) ++ [']']) := by
  simp [String.toList_intercalate]

/-- A list of stored items has JSON text from which it is read back. -/
theorem ofJson?_list {vs : List Value} (h : ∀ v ∈ vs, v.Stored) :
    ∃ text, (Value.list vs).json .canonical = .ok text ∧
      Value.ofJson? text = some (.list vs) := by
  obtain ⟨texts, hts, hreads⟩ := reads_items h
  refine ⟨"[" ++ ",".intercalate texts ++ "]", by simp only [Value.json, hts]; rfl, ?_⟩
  apply ofJson?_of_reads
  rw [toList_listText]
  exact reads_list hreads

end Polyschema
