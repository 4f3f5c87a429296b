/-
Polyschema.Proofs.Codec — what the check and the storing of a value can
run into.

* `Kind.Raises`, `Kind.MayFail` — the faults that leave the caller's own
  functions, and those that a kind can meet.
* `failsIn_accepts`, `failsIn_serialize` — nothing but these, whatever the
  kind and the value.
* `Kind.Registered`, `Kind.BuiltIn` — kinds without a part of the
  caller's own, and kinds that are none of these.
* `Value.Plain` — what a registered kind stores.
* `serialize_of_accepts` — a registered kind stores what it accepts.
-/
import Polyschema.Kind.Codec
import Polyschema.Proofs.Literal
import Polyschema.Proofs.Noted

namespace Polyschema

open Polyschema.Number

/-! ## What the caller's own functions raise -/

/-- A fault that leaves a function of the caller's own: one that the check
raises and that is not taken for a "no", or one of the function that stores
or of one that writes. -/
inductive CustomKind.Raises (spec : CustomKind) (f : Fault) : Prop
  | check {check : ValueFunction} {v : Value} (given : spec.validator = some check)
    (raised : check v = .error f) (leaves : f.isRejection = false)
  | store {store : ValueFunction} {v : Value} (given : spec.serializer = some store)
    (raised : store v = .error f)
  | write {d : Dialect} {write : Emitter} {name : String} {options : Option Variant}
    (given : spec.emitters.lookup d = some write) (raised : write name options = .error f)

/-- A fault that leaves a function of the caller's own on the values of a
kind, or of its items. -/
def Kind.Raises : Kind → Fault → Prop
  | array element _, f => element.Raises f
  | custom spec, f => spec.Raises f
  | _, _ => False

/-- The faults that a kind can meet: a misused value, or what the caller's
own functions raise. -/
def Kind.MayFail (k : Kind) (f : Fault) : Prop := f.IsMisuse ∨ k.Raises f

/-- What can fail by a misused value only can fail so for any kind. -/
theorem FailsIn.mayFail {α : Type} {r : Except Fault α} (h : FailsIn Fault.IsMisuse r)
    (k : Kind) : FailsIn k.MayFail r :=
  h.mono fun _ => .inl

/-! ## Failures -/

theorem failsIn_judged {P : Fault → Prop} {r : Except Fault Bool}
    (h : ∀ f, f.isRejection = false → r = .error f → P f) : FailsIn P (judged r) := by
  cases r with
  | ok b => exact failsIn_ok b
  | error f =>
    simp only [judged]
    split
    case isTrue => exact failsIn_ok false
    case isFalse hf => exact failsIn_error.mpr (h f (by simpa using hf) rfl)

theorem failsIn_allPass {P : Fault → Prop} {check : Value → Except Fault Bool}
    (h : ∀ v, FailsIn P (check v)) (items : List Value) : FailsIn P (allPass check items) := by
  induction items with
  | nil => exact failsIn_ok true
  | cons v rest ih =>
    refine (h v).bind fun b _ => ?_
    cases b with
    | false => exact failsIn_ok false
    | true => exact ih

/-- A check answers, or it meets a value that it cannot judge or what the
caller's own check raises. -/
theorem failsIn_accepts (k : Kind) (v : Value) : FailsIn k.MayFail (k.accepts v) := by
  induction k generalizing v with
  | float =>
    simp only [Kind.accepts, isFiniteNumber]
    split
    · split
      · exact failsIn_ok true
      · exact failsIn_error.mpr (.inl ⟨_, rfl⟩)
    · exact failsIn_ok _
    · exact failsIn_ok _
  | json => exact failsIn_judged fun f _ hf => .inl (failsIn_lift _ f hf)
  | array element modifiers ih =>
    simp only [Kind.accepts]
    split
    · exact failsIn_allPass ih _
    · exact failsIn_ok _
  | custom spec =>
    simp only [Kind.accepts]
    split
    next => exact failsIn_ok _
    next check hcheck =>
      refine failsIn_judged fun f hf hraised => .inr ?_
      cases hv : check v with
      | ok w =>
        rw [hv] at hraised
        cases hraised
      | error g =>
        rw [hv] at hraised
        cases hraised
        exact .check hcheck hv hf
  | integer => exact failsIn_ok _
  | _ => simp only [Kind.accepts]; split <;> exact failsIn_ok _

theorem failsIn_isoText (v : Value) : FailsIn Fault.IsMisuse (isoText v) := by
  cases v <;> first | exact failsIn_ok _ | exact failsIn_error.mpr ⟨_, rfl⟩

theorem failsIn_itemsOf (v : Value) : FailsIn Fault.IsMisuse (itemsOf v) := by
  unfold itemsOf
  split
  · exact failsIn_ok _
  · exact failsIn_error.mpr ⟨_, rfl⟩

/-- A value is stored, or it cannot be, or the caller's own function
fails. -/
theorem failsIn_serialize (k : Kind) (v : Value) : FailsIn k.MayFail (k.serialize v) := by
  induction k generalizing v with
  | float => exact (failsIn_lift _).mayFail _
  | date => exact (failsIn_isoText v).mayFail _
  | timestamp => exact (failsIn_isoText v).mayFail _
  | json => exact (failsIn_lift _).mayFail _
  | array element modifiers ih =>
    refine ((failsIn_itemsOf v).mayFail _).bind fun items _ => ?_
    refine (failsIn_mapM fun item _ => ih item).bind fun stored _ => ?_
    exact (failsIn_lift _).mayFail _
  | custom spec =>
    intro f hf
    cases hs : spec.serializer with
    | none =>
      rw [Kind.serialize, hs] at hf
      cases hf
    | some store =>
      rw [Kind.serialize, hs] at hf
      exact .inr (.store hs hf)
  | _ => exact failsIn_ok _

/-! ## Stored forms -/

/-- A kind with no part of the caller's own. -/
def Kind.Registered : Kind → Prop
  | array element _ => element.Registered
  | custom _ => False
  | _ => True

theorem Kind.Registered.not_raises {k : Kind} (hk : k.Registered) (f : Fault) :
    ¬ k.Raises f := by
  induction k with
  | array element modifiers ih => exact ih hk
  | custom spec => cases hk
  | _ => exact id

/-- A kind that is none of the caller's own. The items of a list may still
be of one. -/
def Kind.BuiltIn (k : Kind) : Prop := ∀ spec, k ≠ .custom spec

namespace Value

/-- A truth value, a finite number or a text. -/
def Plain : Value → Prop
  | bool _ | int _ | str _ => True
  | float x => x.isFinite = true
  | _ => False

/-- What is plain has a literal. -/
theorem writable_of_plain {v : Value} (h : v.Plain) : v.writable = true := by
  cases v <;> first | rfl | cases h

/-- What is plain has JSON text in every style. -/
theorem json_of_plain (style : JsonStyle) {v : Value} (h : v.Plain) :
    ∃ text, v.json style = .ok text := by
  cases v with
  | bool _ | int _ | str _ => exact ⟨_, rfl⟩
  | float x =>
    cases x with
    | finite _ _ => exact ⟨_, rfl⟩
    | _ => cases h
  | _ => cases h

theorem jsonItems_of_plain (style : JsonStyle) {items : List Value}
    (h : ∀ v ∈ items, v.Plain) : ∃ texts, jsonItems style items = .ok texts := by
  induction items with
  | nil => exact ⟨[], rfl⟩
  | cons v rest ih =>
    rw [List.forall_mem_cons] at h
    obtain ⟨text, ht⟩ := json_of_plain style h.1
    obtain ⟨texts, hr⟩ := ih h.2
    exact ⟨text :: texts, by simp [jsonItems, ht, hr, bind, Except.bind, pure, Except.pure]⟩

end Value

theorem isFinite_of_finite? {x y : Binary64} (h : x.finite? = some y) :
    y.isFinite = true := by
  cases x with
  | finite _ _ => cases h; rfl
  | _ => cases h

/-- A float column stores a whole number that is not too large as the
binary number nearest to it. -/
theorem serialize_float_int {n : Int} {x : Binary64} (h : Binary64.ofInt? n = some x) :
    Kind.float.serialize (.int n) = .ok (.float x) := by
  have hb : (Value.int n).toBinary64 = Misuse.unless .outOfRange (Binary64.ofInt? n) := rfl
  rw [h] at hb
  rw [Kind.serialize, hb]
  rfl

theorem judged_eq_true {r : Except Fault Bool} (h : judged r = .ok true) : r = .ok true := by
  cases r with
  | ok b => cases h; rfl
  | error m =>
    simp only [judged] at h
    split at h <;> cases h

theorem allPass_eq_true {check : Value → Except Fault Bool} {items : List Value}
    (h : allPass check items = .ok true) : ∀ v ∈ items, check v = .ok true := by
  induction items with
  | nil => exact fun v hv => (List.not_mem_nil hv).elim
  | cons v rest ih =>
    rw [List.forall_mem_cons]
    cases hv : check v with
    | error f => rw [allPass, hv] at h; cases h
    | ok b =>
      rw [allPass, hv] at h
      cases b with
      | false => cases h
      | true => exact ⟨rfl, ih h⟩

/-- Items that can each be stored plainly, stored together. -/
theorem mapM_of_plain {f : Value → Except Fault Value} {items : List Value}
    (h : ∀ v ∈ items, ∃ s, f v = .ok s ∧ s.Plain) :
    ∃ stored, items.mapM f = .ok stored ∧ ∀ s ∈ stored, s.Plain := by
  induction items with
  | nil => exact ⟨[], rfl, fun s hs => (List.not_mem_nil hs).elim⟩
  | cons v rest ih =>
    rw [List.forall_mem_cons] at h
    obtain ⟨s, hs, hp⟩ := h.1
    obtain ⟨stored, hr, hall⟩ := ih h.2
    refine ⟨s :: stored, ?_, List.forall_mem_cons.mpr ⟨hp, hall⟩⟩
    rw [List.mapM_cons, hs, hr]
    rfl

/-- A registered kind stores what it accepts, in a plain form. -/
theorem serialize_of_accepts {k : Kind} (hk : k.Registered) {v : Value}
    (h : k.accepts v = .ok true) : ∃ s, k.serialize v = .ok s ∧ s.Plain := by
  induction k generalizing v with
  | string max =>
    cases v with
    | str s => exact ⟨_, rfl, trivial⟩
    | _ => cases h
  | integer =>
    cases v with
    | int n => exact ⟨_, rfl, trivial⟩
    | _ => cases h
  | float =>
    cases v with
    | float x => exact ⟨_, rfl, Except.ok.inj h⟩
    | int n =>
      simp only [Kind.accepts, isFiniteNumber] at h
      cases hn : Number.Binary64.ofInt? n with
      | none => rw [hn] at h; cases h
      | some x => exact ⟨.float x, serialize_float_int hn, isFinite_of_finite? hn⟩
    | _ => cases h
  | decimal shape =>
    cases v with
    | decimal d => exact ⟨_, rfl, trivial⟩
    | _ => cases h
  | boolean =>
    cases v with
    | bool b => exact ⟨_, rfl, trivial⟩
    | _ => cases h
  | date =>
    cases v with
    | date d => exact ⟨_, rfl, trivial⟩
    | _ => cases h
  | timestamp =>
    cases v with
    | timestamp t => exact ⟨_, rfl, trivial⟩
    | _ => cases h
  | uuid =>
    cases v with
    | str s => exact ⟨_, rfl, trivial⟩
    | _ => cases h
  | json =>
    -- the check has already made the text that is stored
    obtain ⟨text, ht, _⟩ := ok_bind_iff.mp ⟨true, lift_eq_ok.mp (judged_eq_true h)⟩
    exact ⟨.str text, by simp [Kind.serialize, storedJson, ht, Functor.map, Except.map,
      Misuse.lift], trivial⟩
  | array element modifiers ih =>
    cases v with
    | list items =>
      obtain ⟨stored, hs, hp⟩ := mapM_of_plain fun v hv => ih hk (allPass_eq_true h v hv)
      obtain ⟨texts, ht⟩ := Value.jsonItems_of_plain .canonical hp
      refine ⟨.str ("[" ++ JsonStyle.canonical.comma.intercalate texts ++ "]"), ?_, trivial⟩
      simp [Kind.serialize, itemsOf, Value.items?, hs, storedJson, Value.json, ht, bind,
        Except.bind, pure, Except.pure, Functor.map, Except.map, Misuse.lift]
    | _ => cases h
  | enum members =>
    cases v with
    | str s => exact ⟨_, rfl, trivial⟩
    | _ => cases h
  | custom spec => cases hk

end Polyschema
