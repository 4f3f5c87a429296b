/-
Polyschema.Proofs.NumberDefault — numbers as the defaults of decimal
columns in a document.

A document writes such a default as text, as a whole number or as a binary
number. Text and binary numbers become decimals, with the places that are
written, and these have to fit the type. A whole number stays as it is; it
is no decimal, so that its clause is right but noted as a loss.

* `Decimal.place_le` — a number that does not end in zero, on a grid of
  units of a place.
* `DecimalShape.holds_fixed_of_lt` — numbers that are small enough for a
  shape, by the places that they are written with.
* `numeral?` — the number that an SQL literal writes.
* `Spells`, `Fits` — how a default is written, and whether its places fit
  the type.
* `numberDefault_written` — the clause for such a default, and what is
  noted.
-/
import Mathlib.Tactic.NormNum
import Polyschema.Proofs.Denotation
import Polyschema.Proofs.Document
import Polyschema.Proofs.FloatText
import Polyschema.Proofs.Magnitude

namespace Polyschema

open Polyschema.Number Polyschema.Noted Polyschema.Text

/-! ## Places -/

/-- A number that is a whole number of units of a place, and is written
without a zero at its end, is not written beyond that place. -/
theorem Number.Decimal.place_le (negative : Bool) {coefficient : Nat} (hc : ¬ 10 ∣ coefficient)
    {exponent place k : Int}
    (h : (finite negative coefficient exponent).toRat = k * 10 ^ place) : place ≤ exponent := by
  by_contra hbeyond
  have hten : (10 : ℚ) ≠ 0 := by norm_num
  obtain ⟨n, hn⟩ : ∃ n : Nat, place = (n + 1 : Nat) + exponent :=
    ⟨(place - exponent - 1).toNat, by omega⟩
  have hpow : (0 : ℚ) < 10 ^ place := zpow_pos (by norm_num) _
  have habs : (coefficient : ℚ) * 10 ^ exponent =
      (k.natAbs * 10 ^ (n + 1) : Nat) * 10 ^ exponent := by
    calc (coefficient : ℚ) * 10 ^ exponent = |(k : ℚ)| * 10 ^ place := by
          rw [← abs_toRat negative, h, abs_mul, abs_of_pos hpow]
      _ = (k.natAbs * 10 ^ (n + 1) : Nat) * 10 ^ exponent := by
          rw [hn, zpow_add₀ hten, zpow_natCast, ← mul_assoc, Nat.cast_mul, Nat.cast_natAbs,
            Int.cast_abs, Nat.cast_pow, Nat.cast_ofNat]
  have hcoefficient : coefficient = k.natAbs * 10 ^ (n + 1) := by
    exact_mod_cast mul_right_cancel₀ (zpow_ne_zero exponent hten) habs
  exact hc ⟨k.natAbs * 10 ^ n, by rw [hcoefficient, pow_succ]; ring⟩

/-- A number below the power of ten that a shape of fixed digits leaves is
held where it is not written beyond the scale. The digit of a zero counts
too. -/
theorem DecimalShape.holds_fixed_of_lt {precision scale : Nat} (positive : 0 < precision)
    (fits : scale ≤ precision) (negative : Bool) {coefficient : Nat} {exponent : Int}
    (h : |(Decimal.finite negative coefficient exponent).toRat| <
      10 ^ ((precision : Int) - scale)) :
    (DecimalShape.fixed precision scale positive fits).holds
        (.finite negative coefficient exponent) = true ↔
      -(scale : Int) ≤ exponent ∧ (coefficient = 0 → exponent + 1 ≤ (precision : Int) - scale) := by
  by_cases hc : coefficient = 0
  · subst hc
    have hholds : (DecimalShape.fixed precision scale positive fits).holds
        (.finite negative 0 exponent) = (decide ((-exponent).toNat ≤ scale) &&
          decide ((1 + exponent).toNat ≤ precision - scale)) := rfl
    rw [hholds, Bool.and_eq_true, decide_eq_true_eq, decide_eq_true_eq]
    omega
  · rw [holds_fixed_iff positive fits negative hc]
    simp [h, hc]

/-! ## Literals -/

/-- The number that a literal writes with a sign, a point and an
exponent. -/
def numeral? (s : String) : Option ℚ :=
  let (negative, body) := takeSign s.toList
  (readScientific body).map fun (coefficient, exponent) =>
    (Decimal.finite negative coefficient exponent).toRat

/-- The text of a decimal writes it. -/
theorem numeral?_text (negative : Bool) (coefficient : Nat) (exponent : Int) :
    numeral? (Decimal.finite negative coefficient exponent).text =
      some (Decimal.finite negative coefficient exponent).toRat := by
  unfold numeral?
  rw [Decimal.toList_text, takeSign_unsigned]
  simp only [readScientific_unsigned, Option.map_some]

/-- A whole number as a decimal has the same text. -/
theorem Number.Decimal.text_ofInt (n : Int) : (ofInt n).text = toString n := by
  have hplain : unsignedChars n.natAbs 0 = Nat.toDigits 10 n.natAbs := by
    have hpos : 0 < (Nat.toDigits 10 n.natAbs).length :=
      List.length_pos_iff.mpr Nat.toDigits_ne_nil
    unfold unsignedChars pointed
    simp only [Int.ofNat_eq_natCast, add_zero, Int.toNat_natCast, Nat.sub_self,
      List.replicate_zero, List.append_nil, le_refl, if_true]
    rw [if_pos ⟨trivial, by omega⟩, if_neg (by omega)]
  rw [← String.toList_inj, ofInt, toList_text, hplain, intText]
  simp

theorem Number.Decimal.toRat_ofInt (n : Int) : (ofInt n).toRat = n := by
  rw [ofInt, toRat, zpow_zero, mul_one, Nat.cast_natAbs]
  by_cases hn : n < 0
  · simp [hn, abs_of_neg hn]
  · simp [hn, abs_of_nonneg (Int.not_lt.mp hn)]

theorem numeral?_int (n : Int) : numeral? (toString n) = some (n : ℚ) := by
  rw [← Decimal.text_ofInt, ← Decimal.toRat_ofInt n]
  exact numeral?_text _ _ _

/-! ## Clauses -/

/-- A clause that sets the default to a number. -/
def Emit.SetsDefault (clause : Emission (Option String)) (v : ℚ) : Prop :=
  ∃ literal, numeral? literal = some v ∧ clause.outcome = .ok (some ("DEFAULT " ++ literal))

namespace Emit

variable {shape : DecimalShape} (name : String) (variant : Variant)

/-- A decimal that is held is written without a loss. -/
theorem defaultClause_held {d : Decimal} (h : shape.holds d = true) :
    Sql.defaultClause (.plain (.decimal shape)) name (.data (.decimal d)) variant =
      .done (some ("DEFAULT " ++ d.text)) := by
  have haccepts : (ColumnType.plain (.decimal shape)).accepts (.decimal d) = .ok true :=
    congrArg Except.ok h
  exact defaultClause_decimal (v := .decimal d) rfl nofun haccepts rfl name variant

/-- A decimal that is not held has no literal. -/
theorem defaultClause_unheld {d : Decimal} (h : shape.holds d = false) :
    Sql.defaultClause (.plain (.decimal shape)) name (.data (.decimal d)) variant =
      ⟨[.outOfDomain (.decimal d) name "decimal"], .error (.misuse .wrongKind)⟩ := by
  have haccepts : (ColumnType.plain (.decimal shape)).accepts (.decimal d) = .ok false :=
    congrArg Except.ok h
  simp only [Sql.defaultClause, settingValue, storedDefault, haccepts]
  rfl

/-- A whole number is never held, and is its own literal. -/
theorem defaultClause_whole (n : Int) :
    Sql.defaultClause (.plain (.decimal shape)) name (.data (.int n)) variant =
      ⟨[.outOfDomain (.int n) name "decimal"], .ok (some ("DEFAULT " ++ toString n))⟩ := rfl

end Emit

/-! ## Numbers in documents -/

/-- How a document writes a number: as text, as a whole number, or as the
binary number whose own text writes it. -/
inductive Spells : Value → ℚ → Prop
  | text {s : String} {negative : Bool} {coefficient : Nat} {exponent : Int}
      (h : readDecimal? s = some (.finite negative coefficient exponent)) :
      Spells (.str s) (Decimal.finite negative coefficient exponent).toRat
  | whole (n : Int) : Spells (.int n) n
  | binary (negative : Bool) {units : Nat} (h : units < Binary64.unitLimit) :
      Spells (.float (.finite negative units)) (Binary64.finite negative units).shortestRat

/-- Whether a number, as it is written, has places of a decimal type only.
A text has the places that it shows, and a binary number shows one after
the point if it is below 10¹⁶. -/
def Fits (precision scale : Int) : Value → ℚ → Prop
  | .str s, _ => ∃ negative coefficient exponent,
    readDecimal? s = some (.finite negative coefficient exponent) ∧
      -scale ≤ exponent ∧ (coefficient = 0 → exponent + 1 ≤ precision - scale)
  | .float _, v => 1 ≤ scale ∨ 10 ^ 16 ≤ |v|
  | _, _ => False

namespace ColumnDraft

variable {c : ColumnDraft}

/-- A decimal column with a precision has a type of that precision, and of
its scale or else of the scale two. -/
theorem columnType_decimal {p : Int} {t : ColumnType} (hkind : lower (trim c.type) ∈
    ["decimal", "numeric"]) (hp : c.precision = some p) (ht : c.columnType = .ok t) :
    ∃ (precision scale : Nat) (positive : 0 < precision) (fits : scale ≤ precision),
      p = precision ∧ c.scale.getD 2 = scale ∧
        t = .plain (.decimal (.fixed precision scale positive fits)) := by
  have hscale : scaleOf (some (.data (Value.ofOption .int c.scale))) =
      scaleOf (c.scale.map fun n => .data (.int n)) := by
    cases c.scale <;> rfl
  refine makeTag_decimal_eq_ok hscale ?_
  rw [← ht]
  unfold columnType arguments
  simp only [List.mem_cons, List.not_mem_nil, or_false] at hkind
  rcases hkind with hkind | hkind
  · rw [hkind, hp]
    rfl
  · rw [hkind, hp]
    rfl

/-- What becomes of a number in the document: a whole number stays, and
anything else is the decimal that is written. -/
theorem typedDefault_spelled {precision scale : Nat} (positive : 0 < precision)
    (fits : scale ≤ precision) {v : ℚ} (hgenerated : c.defaultGenerated = false)
    (hspells : Spells c.default v) (hplaces : ∃ k : ℤ, v = k * 10 ^ (-(scale : ℤ)))
    (hbelow : |v| < 10 ^ ((precision : ℤ) - scale)) :
    let shape := DecimalShape.fixed precision scale positive fits
    (∃ n : ℤ, v = n ∧ c.default = .int n ∧
      c.typedDefault (.plain (.decimal shape)) = .ok (.int n)) ∨
    ∃ negative coefficient exponent, let d := Decimal.finite negative coefficient exponent
      v = d.toRat ∧ (∀ n, c.default ≠ .int n) ∧
      c.typedDefault (.plain (.decimal shape)) = .ok (.decimal d) ∧
      (shape.holds d = true ↔ Fits precision scale c.default v) := by
  intro shape
  unfold typedDefault
  rw [hgenerated]
  generalize c.default = default at *
  cases hspells with
  | whole n => exact .inl ⟨n, rfl, rfl, rfl⟩
  | @text s negative coefficient exponent hread =>
    refine .inr ⟨negative, coefficient, exponent, rfl, (by rintro _ ⟨⟩), ?_, ?_⟩
    · show Value.decimal <$> toDecimal (.str s) = _
      rw [toDecimal, hread]
      rfl
    · rw [DecimalShape.holds_fixed_of_lt positive fits negative hbelow]
      simp [Fits, hread]
  | @binary negative units hu =>
    obtain ⟨k, hk⟩ := hplaces
    obtain ⟨coefficient, exponent, hread, hvalue, hshown⟩ := readDecimal?_binary negative hu
    refine .inr ⟨negative, coefficient, exponent, hvalue.symm, (by rintro _ ⟨⟩), ?_, ?_⟩
    · show Except.ok (((readDecimal? _).map Value.decimal).getD _) = _
      rw [hread]
      rfl
    · rw [DecimalShape.holds_fixed_of_lt positive fits negative (hvalue ▸ hbelow)]
      show _ ↔ 1 ≤ (scale : ℤ) ∨ 10 ^ 16 ≤ |(Binary64.finite negative units).shortestRat|
      rcases hshown with ⟨rfl, hsmall⟩ | ⟨hlast, hshown⟩
      · have hlarge : ¬ (10 : ℚ) ^ 16 ≤ |(Binary64.finite negative units).shortestRat| :=
          not_le.mpr hsmall
        simp only [hlarge, or_false]
        omega
      · have hplace := Decimal.place_le negative hlast (hvalue.trans hk)
        have hne : coefficient ≠ 0 := fun hzero => hlast (hzero ▸ Nat.dvd_zero 10)
        refine iff_of_true ⟨hplace, fun hzero => absurd hzero hne⟩ (hshown.imp_left fun h => ?_)
        omega

/-- A column that is not computed carries its default. -/
theorem column_eq_ok {t : ColumnType} {w : Value} (ht : c.columnType = .ok t)
    (hw : c.typedDefault t = .ok w) (hnull : w.isNull = false)
    (hcomputed : isGiven c.generatedAs = false) (entity : String) :
    ∃ col, c.column entity = .ok col ∧ col.type = t ∧ col.default = some w := by
  have hdefault : Column.defaultOf w = some w := by
    rw [Column.defaultOf, hnull]
    rfl
  have halone : computedAlone c.generatedAs (Column.defaultOf w) c.autoIncrement = true := by
    rw [computedAlone, hcomputed]
    rfl
  exact ⟨_, bind_eq_ok.mpr ⟨t, ht, bind_eq_ok.mpr ⟨w, hw,
    EntityDraft.piece_eq_ok.mpr (dif_pos halone)⟩⟩, rfl, hdefault⟩

/-- A decimal column is written around the clause that its type has for the
default. -/
theorem column_around {shape : DecimalShape} {w : Value}
    (ht : c.columnType = .ok (.plain (.decimal shape)))
    (hw : c.typedDefault (.plain (.decimal shape)) = .ok w) (hnull : w.isNull = false)
    (hcomputed : isGiven c.generatedAs = false) (entity : String) :
    ∃ col, c.column entity = .ok col ∧ col.default = some w ∧ ∀ name options,
      Emit.Around (Emit.Sql.definition name col options)
        (Emit.Sql.defaultClause (.plain (.decimal shape)) name (.data w)
          (Variant.ofOptions options)) := by
  obtain ⟨col, hcol, htype, hdefault⟩ := column_eq_ok ht hw hnull hcomputed entity
  have hk : col.type.kind.Exact := by
    rw [htype]
    trivial
  have hm : col.type.modifiers = [] := by
    rw [htype]
    rfl
  refine ⟨col, hcol, hdefault, fun name options => ?_⟩
  rw [← htype, ← Emit.defaultClause_congr col.resolved_kind]
  exact Emit.around_definition hk hm hdefault name options

end ColumnDraft

/-- A number that a decimal column can store makes a column in whatever way
the document writes it. It has a clause that sets the default to this
number, and nothing is noted, exactly where its places fit the type. A
whole number has such a clause as well, but is always noted to be outside
the type. -/
theorem numberDefault_written {c : ColumnDraft} {t : ColumnType} {precision : Int} {v : ℚ}
    (hkind : lower (trim c.type) ∈ ["decimal", "numeric"])
    (hprecision : c.precision = some precision) (ht : c.columnType = .ok t)
    (hgenerated : c.defaultGenerated = false) (hcomputed : isGiven c.generatedAs = false)
    (hspells : Spells c.default v) (hplaces : ∃ k : ℤ, v = k * 10 ^ (-c.scale.getD 2))
    (hbelow : |v| < 10 ^ (precision - c.scale.getD 2)) (entity : String) :
    let fits := Fits precision (c.scale.getD 2) c.default v
    ∃ col w, c.column entity = .ok col ∧ col.default = some w ∧ ∀ name options,
      let clause := Emit.Sql.defaultClause t name (.data w) (Variant.ofOptions options)
      Emit.Around (Emit.Sql.definition name col options) clause ∧
        (fits → clause.notes = []) ∧ (¬ fits → clause.notes = [.outOfDomain w name "decimal"]) ∧
        (Emit.SetsDefault clause v ↔ fits ∨ ∃ n, c.default = .int n) := by
  obtain ⟨p, s, positive, hle, rfl, hscale, rfl⟩ :=
    ColumnDraft.columnType_decimal hkind hprecision ht
  rw [hscale] at hplaces hbelow ⊢
  rcases ColumnDraft.typedDefault_spelled positive hle hgenerated hspells hplaces hbelow with
    ⟨n, rfl, hwhole, hw⟩ | ⟨negative, coefficient, exponent, hd⟩
  · -- a whole number is refused as it is no decimal
    obtain ⟨col, hcol, hdefault, haround⟩ := ColumnDraft.column_around ht hw rfl hcomputed entity
    refine ⟨col, .int n, hcol, hdefault, fun name options => ⟨haround name options, ?_⟩⟩
    rw [hwhole, Emit.defaultClause_whole]
    exact ⟨nofun, fun _ => rfl, iff_of_true ⟨_, numeral?_int n, rfl⟩ (.inr ⟨n, rfl⟩)⟩
  · obtain ⟨rfl, hother, hw, hheld⟩ := hd
    obtain ⟨col, hcol, hdefault, haround⟩ := ColumnDraft.column_around ht hw rfl hcomputed entity
    refine ⟨col, _, hcol, hdefault, fun name options => ⟨haround name options, ?_⟩⟩
    rw [← hheld]
    cases hholds : (DecimalShape.fixed p s positive hle).holds
        (.finite negative coefficient exponent) with
    | true =>
      rw [Emit.defaultClause_held name _ hholds]
      exact ⟨fun _ => rfl, fun h => absurd rfl h,
        iff_of_true ⟨_, numeral?_text negative coefficient exponent, rfl⟩ (.inl rfl)⟩
    | false =>
      rw [Emit.defaultClause_unheld name _ hholds]
      refine ⟨nofun, fun _ => rfl, iff_of_false ?_ ?_⟩
      · rintro ⟨literal, -, hfails⟩
        cases hfails
      · rintro (h | ⟨n, hn⟩)
        · cases h
        · exact hother n hn

/-- A column of four digits, of which two stand after the point, with a
default. -/
def priceDraft (default : Value) : ColumnDraft where
  type := "Decimal"
  length := none
  precision := some 4
  scale := some 2
  members := none
  element := none
  nullable := false
  unique := false
  primary := false
  autoIncrement := false
  indexed := false
  generated := none
  generatedAs := none
  default := default
  defaultGenerated := false
  comment := none

theorem priceDraft_columnType (default : Value) : (priceDraft default).columnType =
    .ok (.plain (.decimal (.fixed 4 2 (by decide) (by decide)))) := by
  have hkind : lower (trim "Decimal") = "decimal" := by decide
  unfold ColumnDraft.columnType
  rw [show (priceDraft default).type = "Decimal" from rfl, hkind]
  rfl

theorem numberDefault_written_price :
    let c := priceDraft (.str "9.90")
    let t := ColumnType.plain (.decimal (.fixed 4 2 (by decide) (by decide)))
    lower (trim c.type) ∈ ["decimal", "numeric"] ∧ c.precision = some 4 ∧ c.columnType = .ok t ∧
      c.defaultGenerated = false ∧ isGiven c.generatedAs = false ∧ Spells c.default (99 / 10) ∧
      (∃ k : ℤ, (99 / 10 : ℚ) = k * 10 ^ (-c.scale.getD 2)) ∧
      |(99 / 10 : ℚ)| < 10 ^ (4 - c.scale.getD 2) ∧
      ∃ col w, c.column "item" = .ok col ∧ col.default = some w ∧ ∀ name options,
        let clause := Emit.Sql.defaultClause t name (.data w) (Variant.ofOptions options)
        Emit.Around (Emit.Sql.definition name col options) clause ∧ clause.notes = [] ∧
          Emit.SetsDefault clause (99 / 10) := by
  intro c t
  have hread : readDecimal? "9.90" = some (.finite false 990 (-2)) := rfl
  have hkind : lower (trim c.type) ∈ ["decimal", "numeric"] := by decide
  have ht : c.columnType = .ok t := priceDraft_columnType _
  have hspells : Spells c.default (99 / 10) := by
    have h := Spells.text hread
    norm_num [Decimal.toRat] at h
    exact h
  have hplaces : ∃ k : ℤ, (99 / 10 : ℚ) = k * 10 ^ (-c.scale.getD 2) :=
    ⟨990, by norm_num [c, priceDraft]⟩
  have hbelow : |(99 / 10 : ℚ)| < 10 ^ (4 - c.scale.getD 2) := by
    norm_num [c, priceDraft, abs_of_pos]
  have hfits : Fits 4 (c.scale.getD 2) c.default (99 / 10) :=
    ⟨false, 990, -2, hread, le_refl _, by decide⟩
  obtain ⟨col, w, hcol, hdefault, hclause⟩ := numberDefault_written (c := c) hkind rfl ht rfl rfl
    hspells hplaces hbelow "item"
  refine ⟨hkind, rfl, ht, rfl, rfl, hspells, hplaces, hbelow, col, w, hcol, hdefault,
    fun name options => ?_⟩
  obtain ⟨haround, hsilent, -, hsets⟩ := hclause name options
  exact ⟨haround, hsilent hfits, hsets.mpr (.inl hfits)⟩

/-- Five units fit the column, but five as a whole number is noted. -/
theorem wholeDefault_noted :
    let c := priceDraft (.int 5)
    Spells c.default 5 ∧ (∃ k : ℤ, (5 : ℚ) = k * 10 ^ (-2 : ℤ)) ∧ |(5 : ℚ)| < 10 ^ (4 - 2) ∧
      ∃ col, c.column "item" = .ok col ∧ Emit.Sql.definition "price" col none =
        ⟨[.outOfDomain (.int 5) "price" "decimal"],
          .ok "price DECIMAL(4,2) NOT NULL DEFAULT 5"⟩ :=
  ⟨.whole 5, ⟨500, by norm_num⟩, by norm_num, _, rfl, rfl⟩

end Polyschema
