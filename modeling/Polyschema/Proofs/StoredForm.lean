/-
Polyschema.Proofs.StoredForm — the stored form of a value tells which
value it is.

* `Timestamp.text_injective` — also the parts of an offset that are lost
  when a moment is read stand in its text.
* `Kind.same_of_serialize` — values of an exact kind with one stored form
  are equal.
-/
import Polyschema.Proofs.JsonEqual
import Polyschema.Proofs.RoundTrip

namespace Polyschema

open Polyschema.Number Polyschema.Calendar

/-! ## Moments -/

namespace Calendar

/-- An offset is told by its text. -/
theorem Offset.text_injective {o o' : Offset} (h : o.text = o'.text) : o = o' := by
  have hchars := congrArg String.toList h
  rw [Offset.toList_text, Offset.toList_text] at hchars
  obtain ⟨hsign, hbody⟩ := List.cons.inj hchars
  have hclock := congrArg readClock? hbody
  rw [readClock?_body, readClock?_body, Option.some_inj, RawClock.mk.injEq] at hclock
  have hnegative : o.microseconds < 0 ↔ o'.microseconds < 0 := by
    by_cases hneg : o.microseconds < 0 <;> by_cases hneg' : o'.microseconds < 0 <;>
      simp [hneg, hneg'] at hsign ⊢
  have hvalue : o.microseconds = o'.microseconds := by
    omega
  cases o
  cases o'
  cases hvalue
  rfl

theorem offsetChars_injective {o o' : Option Offset} (h : offsetChars o = offsetChars o') :
    o = o' := by
  have hcons (o : Offset) : offsetChars (some o) ≠ [] := by
    show o.text.toList ≠ []
    rw [Offset.toList_text]
    exact List.cons_ne_nil _ _
  cases o with
  | none =>
    cases o' with
    | none => rfl
    | some o' => exact absurd h.symm (hcons o')
  | some o =>
    cases o' with
    | none => exact absurd h (hcons o)
    | some o' => exact congrArg some (Offset.text_injective (String.toList_inj.mp h))

/-- A moment is told by its text. -/
theorem Timestamp.text_injective {t t' : Timestamp} (h : t.text = t'.text) : t = t' := by
  have hread := congrArg Timestamp.read? h
  rw [Timestamp.read?_text, Timestamp.read?_text, Option.some_inj] at hread
  have hdate : t.date = t'.date := (Timestamp.mk.inj hread).1
  have hclock : t.clock = t'.clock := (Timestamp.mk.inj hread).2.1
  have hchars := congrArg String.toList h
  rw [Timestamp.toList_text, Timestamp.toList_text, hdate, hclock, List.append_cancel_left_eq,
    List.cons_inj_right, List.append_cancel_left_eq] at hchars
  have hoffset := offsetChars_injective hchars
  cases t
  cases t'
  cases hdate
  cases hclock
  cases hoffset
  rfl

theorem Timestamp.same_self (t : Timestamp) : t.same t = true := by
  unfold Timestamp.same
  cases t.offset <;> simp

end Calendar

/-! ## Values -/

/-- Items that are each told by their stored form are so together. -/
theorem sameItems_of_mapM {store : Value → Except Fault Value} {as bs stored : List Value}
    (ha : as.mapM store = .ok stored) (hb : bs.mapM store = .ok stored)
    (h : ∀ a ∈ as, ∀ b ∈ bs, store a = store b → a.same b = true) :
    Value.sameItems as bs = true := by
  rw [mapM_eq_ok] at ha hb
  induction ha generalizing bs with
  | nil =>
    cases hb
    rfl
  | @cons a s as stored hs _ ih =>
    cases hb with
    | cons hs' hb =>
      rw [Value.sameItems, Bool.and_eq_true]
      exact ⟨h a List.mem_cons_self _ List.mem_cons_self (hs.trans hs'.symm), ih hb fun a ha b hb =>
        h a (List.mem_cons_of_mem _ ha) b (List.mem_cons_of_mem _ hb)⟩

/-- A document that is accepted has text, and what is read from it equals
the document. -/
theorem storedJson_of_accepts {v : Value} (h : Kind.json.accepts v = .ok true) :
    ∃ text w, v.json .canonical = .ok text ∧ Value.ofJson? text = some w ∧
      w.same v = true := by
  obtain ⟨text, htext, hsame⟩ := bind_eq_ok.mp (lift_eq_ok.mp (judged_eq_true h))
  obtain ⟨w, hw, hsame⟩ := (Option.any_eq_true _ _).mp (Except.ok.inj hsame)
  exact ⟨text, w, htext, hw, hsame⟩

/-- The stored form of a list is the text of its stored items. -/
theorem serialize_list {element : Kind} (hk : element.Exact) {modifiers : List Modifier}
    {items : List Value} (hb : (Value.list items).Bounded)
    (h : (Kind.array element modifiers).accepts (.list items) = .ok true) :
    ∃ stored text, items.mapM element.serialize = .ok stored ∧
      Value.ofJson? text = some (.list stored) ∧
      (Kind.array element modifiers).serialize (.list items) = .ok (.str text) := by
  obtain ⟨stored, ws, hstored, hall, -, -⟩ := recovers_items fun v hv =>
    Kind.recovers hk (Value.bounded_of_mem hb v hv) (allPass_eq_true h v hv)
  obtain ⟨text, htext, hread⟩ := ofJson?_list hall
  refine ⟨stored, text, hstored, hread,
    bind_eq_ok.mpr ⟨items, rfl, bind_eq_ok.mpr ⟨stored, hstored, ?_⟩⟩⟩
  rw [storedJson, htext]
  rfl

/-- Accepted documents with one text are equal: what is read from it
equals both. -/
theorem same_of_storedJson {a b : Value} (ha : Kind.json.accepts a = .ok true)
    (hb : Kind.json.accepts b = .ok true) (h : storedJson a = storedJson b) :
    a.same b = true := by
  obtain ⟨text, w, htext, hw, hsame⟩ := storedJson_of_accepts ha
  obtain ⟨text', w', htext', hw', hsame'⟩ := storedJson_of_accepts hb
  have heq : text = text' := by
    simp only [storedJson, htext, htext'] at h
    exact Value.str.inj (Except.ok.inj h)
  obtain rfl : w = w' := Option.some.inj (hw.symm.trans (heq ▸ hw'))
  exact Value.same_of_written w (ofJson?_written hw) ⟨text, htext⟩ ⟨text', htext'⟩ hsame hsame'

/-- Lists with one stored form are equal, if their items are told by
theirs. -/
theorem same_of_serialize_list {element : Kind} (hk : element.Exact) {modifiers : List Modifier}
    {as bs : List Value} (hba : (Value.list as).Bounded) (hbb : (Value.list bs).Bounded)
    (ha : (Kind.array element modifiers).accepts (.list as) = .ok true)
    (hb : (Kind.array element modifiers).accepts (.list bs) = .ok true)
    (h : (Kind.array element modifiers).serialize (.list as) =
      (Kind.array element modifiers).serialize (.list bs))
    (hitems : ∀ a ∈ as, ∀ b ∈ bs, element.serialize a = element.serialize b → a.same b = true) :
    (Value.list as).same (.list bs) = true := by
  obtain ⟨stored, text, hstored, hread, hs⟩ := serialize_list hk hba ha
  obtain ⟨stored', text', hstored', hread', hs'⟩ := serialize_list hk hbb hb
  have htext : text = text' := Value.str.inj (Except.ok.inj (hs.symm.trans (h.trans hs')))
  obtain rfl : stored = stored' :=
    Value.list.inj (Option.some.inj (hread.symm.trans (htext ▸ hread')))
  exact Value.same_list_iff.mpr ⟨bs, rfl, sameItems_of_mapM hstored hstored' hitems⟩

/-- Decimals of a shape with one text are equal. -/
theorem DecimalShape.same_of_text {shape : DecimalShape} {d e : Decimal}
    (hd : shape.holds d = true) (he : shape.holds e = true) (hbd : d.Bounded) (hbe : e.Bounded)
    (h : d.text = e.text) : d.same e = true := by
  cases d with
  | finite negative coefficient exponent =>
    cases e with
    | finite negative' coefficient' exponent' =>
      have hread := congrArg readDecimal? h
      rw [readDecimal?_text hbd, readDecimal?_text hbe] at hread
      cases hread
      simp [Decimal.same]
    | _ => cases he
  | _ => cases hd

/-- Values of an exact kind with one stored form are equal. -/
theorem Kind.same_of_serialize {k : Kind} (hk : k.Exact) {a b : Value} (hba : a.Bounded)
    (hbb : b.Bounded) (ha : k.accepts a = .ok true) (hb : k.accepts b = .ok true)
    (h : k.serialize a = k.serialize b) : a.same b = true := by
  induction k generalizing a b with
  | string _ | uuid | enum _ =>
    cases a with
    | str s =>
      cases b with
      | str t =>
        cases h
        exact same_str s
      | _ => cases hb
    | _ => cases ha
  | integer =>
    cases a with
    | int m =>
      cases b with
      | int n =>
        cases h
        simp [Value.same, Value.sameScalar, Value.asInt?]
      | _ => cases hb
    | _ => cases ha
  | boolean =>
    cases a with
    | bool c =>
      cases b with
      | bool d =>
        cases h
        simp [Value.same, Value.sameScalar, Value.asInt?]
      | _ => cases hb
    | _ => cases ha
  | float => cases hk
  | decimal shape =>
    cases a with
    | decimal d =>
      cases b with
      | decimal e =>
        have htext : d.text = e.text := Value.str.inj (Except.ok.inj h)
        simpa [Value.same, Value.sameScalar] using
          DecimalShape.same_of_text (Except.ok.inj ha) (Except.ok.inj hb) hba hbb htext
      | _ => cases hb
    | _ => cases ha
  | date =>
    cases a with
    | date d =>
      cases b with
      | date e =>
        have hread := congrArg Date.read? (Value.str.inj (Except.ok.inj h))
        rw [Date.read?_text, Date.read?_text] at hread
        cases hread
        simp [Value.same, Value.sameScalar]
      | _ => cases hb
    | _ => cases ha
  | timestamp =>
    cases a with
    | timestamp t =>
      cases b with
      | timestamp u =>
        cases Timestamp.text_injective (Value.str.inj (Except.ok.inj h))
        simp [Value.same, Value.sameScalar, Timestamp.same_self]
      | _ => cases hb
    | _ => cases ha
  | json => exact same_of_storedJson ha hb h
  | array element modifiers ih =>
    have hk : element.Exact := hk
    cases a with
    | list as =>
      cases b with
      | list bs =>
        refine same_of_serialize_list hk hba hbb ha hb h fun a hma b hmb heq => ?_
        exact ih hk (Value.bounded_of_mem hba a hma) (Value.bounded_of_mem hbb b hmb)
          (allPass_eq_true ha a hma) (allPass_eq_true hb b hmb) heq
      | _ => cases hb
    | _ => cases ha
  | custom spec => cases hk

end Polyschema
