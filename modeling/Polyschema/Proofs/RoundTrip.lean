/-
Polyschema.Proofs.RoundTrip — values stored in a column and taken back.

* `Kind.Exact` — the kinds whose stored form is exact: all but binary
  numbers and kinds of the caller's own.
* `Kind.Keeps` — which values of a kind come back as they were.
* `Kind.recovers` — an exact kind stores what it accepts and takes it
  back, lists of any depth included.
* `roundTrip_same_iff` — what comes back is equal to what was stored,
  but for moments whose offset is of less than a second.
-/
import Polyschema.Proofs.Codec
import Polyschema.Proofs.DecimalText
import Polyschema.Proofs.Iso
import Polyschema.Proofs.JsonText

namespace Polyschema

open Polyschema.Number Polyschema.Calendar

/-! ## What is stored exactly -/

/-- A kind whose stored form is exact. -/
def Kind.Exact : Kind → Prop
  | float | custom _ => False
  | array element _ => element.Exact
  | _ => True

mutual
/-- A value whose decimals, also as items of lists, have exponents
within the bounds of the format. -/
def Value.Bounded : Value → Prop
  | .decimal d => d.Bounded
  | .list items => AllBounded items
  | _ => True
termination_by structural v => v

/-- Values whose decimals have exponents within bounds. -/
def Value.AllBounded : List Value → Prop
  | [] => True
  | v :: rest => Value.Bounded v ∧ AllBounded rest
termination_by structural items => items
end

theorem Value.bounded_of_mem {items : List Value} (h : (Value.list items).Bounded) :
    ∀ v ∈ items, v.Bounded := by
  rw [Value.Bounded] at h
  induction items with
  | nil => exact fun v hv => (List.not_mem_nil hv).elim
  | cons v rest ih =>
    rw [Value.AllBounded] at h
    exact List.forall_mem_cons.mpr ⟨h.1, ih h.2⟩

/-- Which values of a kind come back as they were: all but moments with
an offset that reading does not keep, and lists with such items. -/
def Kind.Keeps : Kind → Value → Prop
  | timestamp, .timestamp t => ∀ o, t.offset = some o → o.Kept
  | array element _, .list items => ∀ v ∈ items, element.Keeps v
  | _, _ => True

/-! ## Storing and taking back -/

/-- A value is stored plainly and taken back, as itself exactly where
`kept` holds. -/
def Recovers (store take : Value → Except Fault Value) (v : Value) (kept : Prop) : Prop :=
  ∃ stored w, store v = .ok stored ∧ stored.Stored ∧ take stored = .ok w ∧
    (w.same v = true ↔ kept)

/-- Items that are each stored and taken back are so together. -/
theorem recovers_items {store take : Value → Except Fault Value} {kept : Value → Prop}
    {items : List Value} (h : ∀ v ∈ items, Recovers store take v (kept v)) :
    ∃ stored ws, items.mapM store = .ok stored ∧ (∀ s ∈ stored, s.Stored) ∧
      stored.mapM take = .ok ws ∧
      (Value.sameItems ws items = true ↔ ∀ v ∈ items, kept v) := by
  induction items with
  | nil => exact ⟨[], [], rfl, by simp, rfl, by simp [Value.sameItems]⟩
  | cons v rest ih =>
    obtain ⟨⟨s, w, hs, hplain, hw, hsame⟩, hrest⟩ := List.forall_mem_cons.mp h
    obtain ⟨stored, ws, hstored, hall, hws, hitems⟩ := ih hrest
    refine ⟨s :: stored, w :: ws, ?_, List.forall_mem_cons.mpr ⟨hplain, hall⟩, ?_, ?_⟩
    · rw [List.mapM_cons, hs, hstored]
      rfl
    · rw [List.mapM_cons, hw, hws]
      rfl
    · rw [Value.sameItems, Bool.and_eq_true, hsame, hitems, List.forall_mem_cons]

/-- A text that stays as it is. -/
theorem same_str (s : String) : (Value.str s).same (.str s) = true := by
  simp [Value.same, Value.sameScalar]

/-- An exact kind stores what it accepts and takes it back. -/
theorem Kind.recovers {k : Kind} (hk : k.Exact) {v : Value} (hb : v.Bounded)
    (h : k.accepts v = .ok true) : Recovers k.serialize k.deserialize v (k.Keeps v) := by
  induction k generalizing v with
  | string max =>
    cases v with
    | str s => exact ⟨_, _, rfl, trivial, rfl, iff_of_true (same_str s) trivial⟩
    | _ => cases h
  | integer =>
    cases v with
    | int n =>
      exact ⟨_, _, rfl, trivial, rfl, iff_of_true (by simp [Value.same, Value.sameScalar,
        Value.asInt?]) trivial⟩
    | _ => cases h
  | float => cases hk
  | decimal shape =>
    cases v with
    | decimal d =>
      cases d with
      | finite negative coefficient exponent =>
        have hread : readDecimal? (Decimal.finite negative coefficient exponent).text =
            some (.finite negative coefficient exponent) := readDecimal?_text hb
        refine ⟨_, .decimal (.finite negative coefficient exponent), rfl, trivial, ?_,
          iff_of_true ?_ trivial⟩
        · simp only [Kind.deserialize, toDecimal, Value.text, hread]
          rfl
        · simp [Value.same, Value.sameScalar, Decimal.same]
      | _ => cases h
    | _ => cases h
  | boolean =>
    cases v with
    | bool b =>
      exact ⟨_, _, rfl, trivial, rfl, iff_of_true (by simp [Value.same, Value.sameScalar,
        Value.asInt?]) trivial⟩
    | _ => cases h
  | date =>
    cases v with
    | date d =>
      refine ⟨_, .date d, rfl, trivial, ?_, iff_of_true ?_ trivial⟩
      · simp only [Kind.deserialize, readStored, Date.read?_text]
        rfl
      · simp [Value.same, Value.sameScalar]
    | _ => cases h
  | timestamp =>
    cases v with
    | timestamp t =>
      refine ⟨_, .timestamp t.asRead, rfl, trivial, ?_, ?_⟩
      · simp only [Kind.deserialize, readStored, Timestamp.read?_text]
        rfl
      · simp only [Value.same, Value.sameScalar]
        exact t.same_asRead_iff
    | _ => cases h
  | uuid =>
    cases v with
    | str s => exact ⟨_, _, rfl, trivial, rfl, iff_of_true (same_str s) trivial⟩
    | _ => cases h
  | json =>
    -- the check has already made the text and read it back
    obtain ⟨text, htext, hsame⟩ := bind_eq_ok.mp (lift_eq_ok.mp (judged_eq_true h))
    obtain ⟨w, hw, hsame⟩ := Option.any_eq_true _ _ |>.mp (Except.ok.inj hsame)
    refine ⟨.str text, w, ?_, trivial, ?_, iff_of_true hsame trivial⟩
    · simp only [Kind.serialize, storedJson, htext]
      rfl
    · simp only [Kind.deserialize, readStored, hw]
  | array element modifiers ih =>
    cases v with
    | list items =>
      obtain ⟨stored, ws, hstored, hall, hws, hsame⟩ := recovers_items fun v hv =>
        ih hk (Value.bounded_of_mem hb v hv) (allPass_eq_true h v hv)
      obtain ⟨text, htext, hread⟩ := ofJson?_list hall
      refine ⟨.str text, .list ws, ?_, trivial, ?_, ?_⟩
      · refine bind_eq_ok.mpr ⟨items, rfl, bind_eq_ok.mpr ⟨stored, hstored, ?_⟩⟩
        rw [storedJson, htext]
        rfl
      · have hlist : readStored Value.ofJson? .notJson (.str text) = .ok (.list stored) := by
          simp only [readStored, hread]
        exact bind_eq_ok.mpr ⟨_, hlist,
          bind_eq_ok.mpr ⟨stored, rfl, map_eq_ok.mpr ⟨ws, hws, rfl⟩⟩⟩
      · rw [Value.same, hsame]
        rfl
    | _ => cases h
  | enum members =>
    cases v with
    | str s => exact ⟨_, _, rfl, trivial, rfl, iff_of_true (same_str s) trivial⟩
    | _ => cases h
  | custom spec => cases hk

/-! ## Column types -/

/-- The check lets an accepted value through. -/
theorem roundTrip_of_accepts {t : ColumnType} {v stored w : Value}
    (h : t.accepts v = .ok true) (hs : t.serialize v = .ok stored)
    (hw : t.deserialize stored = .ok w) : t.roundTrip v = .ok w := by
  have hcheck : t.check v = .ok v := bind_eq_ok.mpr ⟨true, h, rfl⟩
  exact bind_eq_ok.mpr ⟨v, hcheck, bind_eq_ok.mpr ⟨stored, hs, hw⟩⟩

/-- A column type with an exact kind stores every value that it accepts
and takes it back. What comes back is equal to what was stored exactly
where no moment in it has an offset of less than a second. -/
theorem roundTrip_same_iff {t : ColumnType} (ht : t.kind.Exact) {v : Value}
    (hb : v.Bounded) (h : t.accepts v = .ok true) :
    ∃ stored w, t.serialize v = .ok stored ∧ t.deserialize stored = .ok w ∧
      t.roundTrip v = .ok w ∧ (w.same v = true ↔ t.kind.Keeps v) := by
  obtain ⟨stored, w, hs, -, hw, hsame⟩ := Kind.recovers ht hb h
  exact ⟨stored, w, hs, hw, roundTrip_of_accepts h hs hw, hsame⟩

/-- Lists of lists of decimals, a negative zero and a trailing zero
among them, come back as they were. -/
theorem roundTrip_same_decimals :
    let t := ColumnType.plain (.array (.array (.decimal (.free none)) []) [])
    let v := Value.list [.list [.decimal (.finite true 0 3), .decimal (.finite false 150 (-2))],
      .list []]
    ∃ stored w, t.serialize v = .ok stored ∧ t.deserialize stored = .ok w ∧
      t.roundTrip v = .ok w ∧ w.same v = true := by
  intro t v
  have hzero : (Decimal.finite true 0 3).Bounded := by decide
  have hprice : (Decimal.finite false 150 (-2)).Bounded := by decide
  obtain ⟨stored, w, hs, hw, hround, hsame⟩ := roundTrip_same_iff (t := t) (v := v) trivial
    ⟨⟨hzero, hprice, trivial⟩, trivial, trivial⟩ rfl
  refine ⟨stored, w, hs, hw, hround, hsame.mpr ?_⟩
  simp [v, t, ColumnType.plain, Kind.Keeps]

/-- A moment with an offset of one microsecond. -/
def barelyOff : Timestamp :=
  ⟨⟨2024, 1, 2, by decide⟩, ⟨3, 4, 5, 0, by decide⟩, some ⟨1, by decide⟩⟩

/-- A moment with an offset of one microsecond is accepted, and another
moment comes back. -/
theorem barelyOff_comes_back_changed :
    let t := ColumnType.plain .timestamp
    let v := Value.timestamp barelyOff
    t.accepts v = .ok true ∧ ∃ w, t.roundTrip v = .ok w ∧ w.same v = false := by
  intro t v
  obtain ⟨stored, w, hs, -, hw, hsame⟩ :=
    Kind.recovers (k := .timestamp) (v := v) trivial trivial rfl
  have hlost : ¬ Kind.timestamp.Keeps v := fun hkept =>
    absurd (hkept ⟨1, by decide⟩ rfl) (by simp [Offset.Kept])
  exact ⟨rfl, w, roundTrip_of_accepts (t := t) rfl hs hw,
    Bool.eq_false_iff.mpr fun h => hlost (hsame.mp h)⟩

end Polyschema
