/-
Polyschema.Proofs.Literal — which values have JSON text and literals.

* `Value.writable` — a test on the shape of a value; `Value.sortable` is the
  part of it that is about keys.
* `json_ok_iff` — with sorted keys, and numbers of any kind, a value has
  JSON text exactly where it is writable.
* `sqlLiteral_ok_iff`, … — so it is with the literals of the languages.
-/
import Polyschema.Proofs.Sort
import Polyschema.Value.Literal

namespace Polyschema

namespace Value

/-! ## JSON text -/

/-- Whether a value may be a key of an object: a text, or what is
written as one. -/
def keyable : Value → Bool
  | null | bool _ | int _ | float _ | str _ => true
  | _ => false

/-- Whether keys can be put in order. -/
def sortable (keys : List Value) : Bool := (sortBy keyBefore keys).isOk

/-- Entries can be put in order where their keys can. -/
theorem sortEntries_ok_iff {α : Type} (entries : List (Value × α)) :
    (∃ sorted, sortEntries entries = .ok sorted) ↔ sortable (entries.map Prod.fst) = true := by
  rw [sortable, sortBy_map]
  show _ ↔ (List.map Prod.fst <$> sortEntries entries).isOk = true
  cases sortEntries entries with
  | error m => exact ⟨nofun, nofun⟩
  | ok sorted => exact ⟨fun _ => rfl, fun _ => ⟨sorted, rfl⟩⟩

mutual
/-- Whether a value has JSON text with its keys sorted. -/
def writable : Value → Bool
  | null | bool _ | int _ | float _ | str _ => true
  | list items => allWritable items
  | tuple items => allWritable items
  | dict entries => sortable (entries.map Prod.fst) && memberWritable entries
  | decimal _ | date _ | timestamp _ | generator | typeRef _ _ => false
termination_by structural v => v

/-- Whether all of some items have JSON text. -/
def allWritable : List Value → Bool
  | [] => true
  | v :: rest => writable v && allWritable rest
termination_by structural items => items

/-- Whether all of some entries may stand in an object. -/
def memberWritable : List (Value × Value) → Bool
  | [] => true
  | (k, v) :: rest => keyable k && writable v && memberWritable rest
termination_by structural entries => entries
end

theorem floatJson_ok (x : Number.Binary64) : ∃ text, floatJson false x = .ok text := by
  cases x <;> exact ⟨_, rfl⟩

/-- A key has text where it may be one. -/
theorem keyText_ok_iff (k : Value) :
    (∃ name, keyText false k = .ok name) ↔ k.keyable = true := by
  cases k with
  | float x => exact ⟨fun _ => rfl, fun _ => floatJson_ok x⟩
  | _ => simp [keyText, keyable, throw, throwThe, MonadExceptOf.throw, pure, Except.pure]

variable {style : JsonStyle}

theorem map_fst_jsonEntries (entries : List (Value × Value)) :
    (jsonEntries style entries).map Prod.fst = entries.map Prod.fst := by
  induction entries with
  | nil => rfl
  | cons e rest ih => simp only [jsonEntries, List.map_cons, ih]

/-- An object has text where its keys can be put in order and each of
its members has text. -/
theorem objectJson_ok_iff (hs : style.sorted = true)
    {entries : List (Value × Except Misuse String)} :
    (∃ text, objectJson style entries = .ok text) ↔
      sortable (entries.map Prod.fst) = true ∧
      ∀ e ∈ entries, (∃ name, keyText style.finiteOnly e.1 = .ok name) ∧
        ∃ text, e.2 = .ok text := by
  have hmember : ∀ e : Value × Except Misuse String,
      (∃ s, (do
        let name ← keyText style.finiteOnly e.1
        pure (Text.jsonString name ++ style.colon ++ (← e.2)) :
          Except Misuse String) = .ok s) ↔
      (∃ name, keyText style.finiteOnly e.1 = .ok name) ∧ ∃ text, e.2 = .ok text := by
    intro e
    simp only [ok_bind_iff]
    exact ⟨fun ⟨name, hn, text, ht, _⟩ => ⟨⟨name, hn⟩, text, ht⟩,
      fun ⟨⟨name, hn⟩, text, ht⟩ => ⟨name, hn, text, ht, _, rfl⟩⟩
  unfold objectJson
  rw [if_pos hs, ok_bind_iff, ← sortEntries_ok_iff]
  constructor
  · rintro ⟨ordered, ho, h⟩
    obtain ⟨members, hm, _⟩ := ok_bind_iff.mp h
    refine ⟨⟨ordered, ho⟩, fun e he => (hmember e).mp ?_⟩
    exact ok_mapM_iff.mp ⟨members, hm⟩ e ((sortBy_perm ho).mem_iff.mpr he)
  · rintro ⟨⟨ordered, ho⟩, h⟩
    obtain ⟨members, hm⟩ := ok_mapM_iff.mpr fun e he =>
      (hmember e).mpr (h e ((sortBy_perm ho).mem_iff.mp he))
    exact ⟨ordered, ho, ok_bind_iff.mpr ⟨members, hm, _, rfl⟩⟩

mutual
/-- With its keys sorted, a value has JSON text exactly where it is
writable. -/
theorem json_ok_iff (hs : style.sorted = true) (hf : style.finiteOnly = false) :
    (v : Value) → ((∃ text, v.json style = .ok text) ↔ v.writable = true)
  | null | bool _ | int _ | str _ => ⟨fun _ => rfl, fun _ => ⟨_, rfl⟩⟩
  | float x => by
    simp only [json, hf, writable, iff_true]
    exact floatJson_ok x
  | list items => by
    simp only [json, writable, ← jsonItems_ok_iff hs hf items, ok_bind_iff]
    exact ⟨fun ⟨texts, h, _⟩ => ⟨texts, h⟩, fun ⟨texts, h⟩ => ⟨texts, h, _, rfl⟩⟩
  | tuple items => by
    simp only [json, writable, ← jsonItems_ok_iff hs hf items, ok_bind_iff]
    exact ⟨fun ⟨texts, h, _⟩ => ⟨texts, h⟩, fun ⟨texts, h⟩ => ⟨texts, h, _, rfl⟩⟩
  | dict entries => by
    simp only [json, writable, objectJson_ok_iff hs, map_fst_jsonEntries,
      Bool.and_eq_true, ← jsonEntries_ok_iff hs hf entries, hf]
  | decimal _ | date _ | timestamp _ | generator | typeRef _ _ =>
    ⟨fun ⟨_, h⟩ => (nomatch h), nofun⟩
termination_by structural v => v

theorem jsonItems_ok_iff (hs : style.sorted = true) (hf : style.finiteOnly = false) :
    (items : List Value) →
      ((∃ texts, jsonItems style items = .ok texts) ↔ allWritable items = true)
  | [] => ⟨fun _ => rfl, fun _ => ⟨[], rfl⟩⟩
  | v :: rest => by
    simp only [jsonItems, allWritable, Bool.and_eq_true, ← json_ok_iff hs hf v,
      ← jsonItems_ok_iff hs hf rest, ok_bind_iff]
    exact ⟨fun ⟨text, ht, texts, hr, _⟩ => ⟨⟨text, ht⟩, texts, hr⟩,
      fun ⟨⟨text, ht⟩, texts, hr⟩ => ⟨text, ht, texts, hr, _, rfl⟩⟩
termination_by structural items => items

theorem jsonEntries_ok_iff (hs : style.sorted = true) (hf : style.finiteOnly = false) :
    (entries : List (Value × Value)) →
      ((∀ e ∈ jsonEntries style entries, (∃ name, keyText false e.1 = .ok name) ∧
        ∃ text, e.2 = .ok text) ↔ memberWritable entries = true)
  | [] => ⟨fun _ => rfl, fun _ e he => (List.not_mem_nil he).elim⟩
  | (k, v) :: rest => by
    simp only [jsonEntries, memberWritable, Bool.and_eq_true, List.forall_mem_cons,
      ← jsonEntries_ok_iff hs hf rest, keyText_ok_iff, json_ok_iff hs hf v]
termination_by structural entries => entries
end

/-! ## Literals -/

theorem sqlLiteral_ok_iff (v : Value) :
    (∃ text, v.sqlLiteral = .ok text) ↔ v.writable = true := by
  cases v with
  | null | bool _ | int _ | float _ | str _ => exact ⟨fun _ => rfl, fun _ => ⟨_, rfl⟩⟩
  | _ => exact ok_map_iff.trans (json_ok_iff rfl rfl _)

theorem scriptLiteral_ok_iff (v : Value) :
    (∃ text, v.scriptLiteral = .ok text) ↔ v.writable = true := by
  cases v with
  | null | bool _ | int _ | float _ | str _ => exact ⟨fun _ => rfl, fun _ => ⟨_, rfl⟩⟩
  | _ => exact json_ok_iff rfl rfl _

theorem attributeLiteral_ok_iff (v : Value) :
    (∃ text, v.attributeLiteral = .ok text) ↔ v.writable = true := by
  cases v with
  | bool _ | int _ | float _ | str _ => exact ⟨fun _ => rfl, fun _ => ⟨_, rfl⟩⟩
  | _ => exact ok_map_iff.trans (json_ok_iff rfl rfl _)

end Value

end Polyschema
