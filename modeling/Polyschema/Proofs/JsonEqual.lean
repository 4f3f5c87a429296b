/-
Polyschema.Proofs.JsonEqual — values equal to one that was read from
JSON.

Equality of values goes by worth, and of mappings by the first entry
found under a key. So it is not transitive in general. It is where the
value in the middle was read from JSON: its mappings have texts as keys,
no two alike.

* `Value.Written` — the values that JSON text writes.
* `ofJson?_written` — what is read from JSON is such a value.
* `same_of_written` — what equals such a value equals what else does.
-/
import Mathlib.Data.List.Nodup
import Mathlib.Data.List.Perm.Subperm
import Polyschema.Kind.Codec
import Polyschema.Proofs.Literal

namespace Polyschema

open Polyschema.Number Polyschema.JsonReader

/-! ## What is read from JSON -/

mutual
/-- A value that JSON text writes: the keys of its mappings are texts,
no two alike. -/
def Value.Written : Value → Prop
  | .null | .bool _ | .int _ | .float _ | .str _ => True
  | .list items => ItemsWritten items
  | .dict entries => (entries.map Prod.fst).Nodup ∧ EntriesWritten entries
  | _ => False
termination_by structural v => v

/-- Values that JSON text writes. -/
def Value.ItemsWritten : List Value → Prop
  | [] => True
  | v :: rest => Value.Written v ∧ ItemsWritten rest
termination_by structural items => items

/-- Entries that JSON text writes. -/
def Value.EntriesWritten : List (Value × Value) → Prop
  | [] => True
  | (k, v) :: rest => (∃ s, k = .str s) ∧ Value.Written v ∧ EntriesWritten rest
termination_by structural entries => entries
end

namespace Value

theorem itemsWritten_iff {items : List Value} : ItemsWritten items ↔ ∀ v ∈ items, v.Written := by
  induction items with
  | nil => simp [ItemsWritten]
  | cons v rest ih => rw [ItemsWritten, ih, List.forall_mem_cons]

theorem entriesWritten_iff {entries : List (Value × Value)} :
    EntriesWritten entries ↔ ∀ e ∈ entries, (∃ s, e.1 = .str s) ∧ e.2.Written := by
  induction entries with
  | nil => simp [EntriesWritten]
  | cons e rest ih => rw [EntriesWritten, ih, List.forall_mem_cons, and_assoc]

/-- A mapping of names is written where its values are and no two names
are alike. -/
theorem written_record {members : List (String × Value)} (hn : (members.map Prod.fst).Nodup)
    (hm : ∀ m ∈ members, m.2.Written) : (record members).Written := by
  have hkeys : (members.map fun m => (str m.1, m.2)).map Prod.fst =
      (members.map Prod.fst).map str := by
    rw [List.map_map, List.map_map]
    rfl
  have hinjective : Function.Injective str := fun _ _ => Value.str.inj
  refine ⟨hkeys ▸ hn.map hinjective, entriesWritten_iff.mpr fun e he => ?_⟩
  obtain ⟨m, hmem, rfl⟩ := List.mem_map.mp he
  exact ⟨⟨m.1, rfl⟩, hm m hmem⟩

end Value

namespace JsonReader

theorem number?_written {negative : Bool} {cs rest : List Char} {v : Value}
    (h : number? negative cs = some (v, rest)) : v.Written := by
  unfold number? at h
  dsimp only at h
  split at h
  all_goals
    split at h
    · cases h
    · split at h <;> cases h <;> trivial

theorem scalar?_written {cs rest : List Char} {v : Value} (h : scalar? cs = some (v, rest)) :
    v.Written := by
  have hword {word : String} {w : Value} {cs : List Char}
      (h : (afterWord word cs).map (fun rest => (w, rest)) = some (v, rest)) (hw : w.Written) :
      v.Written := by
    obtain ⟨_, _, heq⟩ := Option.map_eq_some_iff.mp h
    cases heq
    exact hw
  unfold scalar? at h
  split at h
  · split at h
    · cases h
      trivial
    · exact number?_written h
  · exact hword h trivial
  · exact hword h trivial
  · exact hword h trivial
  · exact hword h trivial
  · exact hword h trivial
  · exact number?_written h

/-- Members read so far: no two names alike. -/
def MembersWritten (members : List (String × Value)) : Prop :=
  (members.map Prod.fst).Nodup ∧ ∀ m ∈ members, m.2.Written

theorem mem_putEntry {name : String} {v : Value} {members : List (String × Value)}
    {m : String × Value} (h : m ∈ putEntry name v members) : m ∈ members ∨ m.2 = v := by
  induction members with
  | nil =>
    obtain rfl := List.mem_singleton.mp h
    exact .inr rfl
  | cons e rest ih =>
    unfold putEntry at h
    split at h
    · rcases List.mem_cons.mp h with rfl | h
      · exact .inr rfl
      · exact .inl (List.mem_cons_of_mem _ h)
    · rcases List.mem_cons.mp h with rfl | h
      · exact .inl List.mem_cons_self
      · exact (ih h).imp_left (List.mem_cons_of_mem _)

theorem MembersWritten.put {members : List (String × Value)} (h : MembersWritten members)
    (name : String) {v : Value} (hv : v.Written) : MembersWritten (putEntry name v members) := by
  refine ⟨?_, fun m hm => ?_⟩
  · rw [map_fst_putEntry]
    split
    next => exact h.1
    next hnew =>
      exact List.nodup_append.mpr ⟨h.1, List.nodup_singleton _, fun a ha b hb => by
        rintro rfl
        exact hnew (List.mem_singleton.mp hb ▸ ha)⟩
  · obtain hm | rfl := mem_putEntry hm
    · exact h.2 m hm
    · exact hv

/-- What is read in a number of steps is written: a value, the items of a
list and the members of an object. -/
structure ReadsWritten (fuel : Nat) : Prop where
  value : ∀ {cs rest v}, value? fuel cs = some (v, rest) → v.Written
  items : ∀ {cs rest read vs}, items? fuel read cs = some (vs, rest) →
    (∀ v ∈ read, v.Written) → ∀ v ∈ vs, v.Written
  members : ∀ {cs rest read ms}, members? fuel read cs = some (ms, rest) →
    MembersWritten read → MembersWritten ms

namespace ReadsWritten

variable {fuel : Nat} {cs rest : List Char}

theorem value_succ (ih : ReadsWritten fuel) {v : Value}
    (h : value? (fuel + 1) cs = some (v, rest)) : v.Written := by
  unfold value? at h
  split at h
  · obtain ⟨_, _, heq⟩ := Option.map_eq_some_iff.mp h
    cases heq
    trivial
  · split at h
    · cases h
      trivial
    · obtain ⟨_, hi, heq⟩ := Option.map_eq_some_iff.mp h
      cases heq
      exact Value.itemsWritten_iff.mpr (ih.items hi (List.forall_mem_nil _))
  · split at h
    · cases h
      exact ⟨List.nodup_nil, trivial⟩
    · obtain ⟨_, hm, heq⟩ := Option.map_eq_some_iff.mp h
      cases heq
      have hms := ih.members hm ⟨List.nodup_nil, List.forall_mem_nil _⟩
      exact Value.written_record hms.1 hms.2
  · exact scalar?_written h

theorem items_succ (ih : ReadsWritten fuel) {read vs : List Value}
    (h : items? (fuel + 1) read cs = some (vs, rest)) (hread : ∀ v ∈ read, v.Written) :
    ∀ v ∈ vs, v.Written := by
  unfold items? at h
  split at h
  · cases h
  next v after hv =>
    have hread : ∀ w ∈ v :: read, w.Written := List.forall_mem_cons.mpr ⟨ih.value hv, hread⟩
    split at h
    · exact ih.items h hread
    · cases h
      exact fun w hw => hread w (List.mem_reverse.mp hw)
    · cases h

theorem members_succ (ih : ReadsWritten fuel) {read ms : List (String × Value)}
    (h : members? (fuel + 1) read cs = some (ms, rest)) (hread : MembersWritten read) :
    MembersWritten ms := by
  unfold members? at h
  split at h
  · split at h
    · cases h
    · split at h
      · split at h
        · cases h
        next hv =>
          have hput := fun name => hread.put name (ih.value hv)
          dsimp only at h
          split at h
          · exact ih.members h (hput _)
          · cases h
            exact hput _
          · cases h
      · cases h
  · cases h

end ReadsWritten

theorem read_written (fuel : Nat) : ReadsWritten fuel := by
  induction fuel with
  | zero => exact ⟨nofun, nofun, nofun⟩
  | succ fuel ih => exact ⟨ih.value_succ, ih.items_succ, ih.members_succ⟩

end JsonReader

/-- What is read from JSON text is a value that JSON text writes. -/
theorem ofJson?_written {s : String} {v : Value} (h : Value.ofJson? s = some v) : v.Written := by
  obtain ⟨⟨w, rest⟩, hw, h⟩ := Option.bind_eq_some_iff.mp h
  dsimp only at h
  split at h
  · cases h
    exact (read_written _).value hw
  · cases h

/-! ## Binary numbers -/

namespace Number.Binary64

/-- A whole number counts the units of a binary number of its worth. -/
theorem signedUnits?_of_toInt? {x : Binary64} {n : Int} (h : x.toInt? = some n) :
    x.signedUnits? = some (n * Nat.pow 2 unitExponent) := by
  cases x with
  | finite negative units =>
    unfold toInt? at h
    dsimp only at h
    split at h
    next hwhole =>
      have hunits : (units / Nat.pow 2 unitExponent : Nat) * Nat.pow 2 unitExponent = units :=
        Nat.div_mul_cancel (Nat.dvd_of_mod_eq_zero hwhole)
      generalize Nat.pow 2 unitExponent = unit at *
      generalize units / unit = whole at *
      obtain rfl := hunits
      cases h
      cases negative with
      | false => simp [signedUnits?]
      | true =>
        simp only [signedUnits?, if_true, Int.ofNat_eq_natCast, Int.natCast_mul, Int.neg_mul]
    next => cases h
  | _ => cases h

/-- Numbers of one worth as whole numbers are equal. -/
theorem same_of_toInt? {x y : Binary64} {n : Int} (hx : x.toInt? = some n)
    (hy : y.toInt? = some n) : x.same y = true := by
  have hunits := signedUnits?_of_toInt? hx
  have hunits' := signedUnits?_of_toInt? hy
  cases x with
  | finite negative units =>
    cases y with
    | finite negative' units' => simp only [same, hunits, hunits', beq_self_eq_true]
    | _ => cases hy
  | _ => cases hx

/-- Equal numbers are infinite alike or have the same units. -/
theorem same_cases {x y : Binary64} (h : x.same y = true) :
    (∃ negative, x = .infinite negative ∧ y = .infinite negative) ∨
    ∃ a u b w, x = .finite a u ∧ y = .finite b w ∧ u = w ∧ (a = b ∨ u = 0) := by
  cases x with
  | nan => cases h
  | infinite a =>
    cases y with
    | infinite b =>
      obtain rfl : a = b := by simpa [same] using h
      exact .inl ⟨a, rfl, rfl⟩
    | _ => cases h
  | finite a u =>
    cases y with
    | finite b w =>
      refine .inr ⟨a, u, b, w, rfl, rfl, ?_⟩
      simp only [same, signedUnits?, beq_iff_eq, Int.ofNat_eq_natCast] at h
      cases a <;> cases b <;> simp at h ⊢ <;> omega
    | _ => cases h

theorem toInt?_of_same {x y : Binary64} (h : x.same y = true) : x.toInt? = y.toInt? := by
  obtain ⟨negative, rfl, rfl⟩ | ⟨a, u, b, w, rfl, rfl, rfl, rfl | rfl⟩ := same_cases h
  · rfl
  · rfl
  · cases a <;> cases b <;> simp [toInt?]

/-- Numbers that equal one number are equal. -/
theorem same_of_same {x y z : Binary64} (hy : x.same y = true) (hz : x.same z = true) :
    y.same z = true := by
  obtain ⟨negative, rfl, rfl⟩ | ⟨a, u, b, w, rfl, rfl, rfl, hb⟩ := same_cases hy
  · obtain ⟨_, heq, rfl⟩ | ⟨_, _, _, _, heq, _⟩ := same_cases hz
    · cases heq
      simp [same]
    · cases heq
  · obtain ⟨_, heq, _⟩ | ⟨_, _, c, _, heq, rfl, rfl, hc⟩ := same_cases hz
    · cases heq
    · cases heq
      simp only [same, signedUnits?, beq_iff_eq, Int.ofNat_eq_natCast]
      rcases hb with rfl | rfl
      · rcases hc with rfl | rfl <;> simp
      · simp

end Number.Binary64

/-! ## Equality by way of a written value -/

namespace Value

/-- A value that has JSON text in its stored form. -/
def Storable (v : Value) : Prop := ∃ text, v.json .canonical = .ok text

theorem Storable.items {items : List Value}
    (h : ∃ texts, jsonItems .canonical items = .ok texts) : ∀ v ∈ items, v.Storable := by
  induction items with
  | nil => exact List.forall_mem_nil _
  | cons v rest ih =>
    obtain ⟨_, h⟩ := h
    obtain ⟨text, ht, h⟩ := bind_eq_ok.mp h
    obtain ⟨texts, hts, _⟩ := bind_eq_ok.mp h
    exact List.forall_mem_cons.mpr ⟨⟨text, ht⟩, ih ⟨texts, hts⟩⟩

theorem Storable.list {items : List Value} (h : (list items).Storable) :
    ∀ v ∈ items, v.Storable := by
  obtain ⟨_, h⟩ := h
  obtain ⟨texts, hts, _⟩ := bind_eq_ok.mp h
  exact Storable.items ⟨texts, hts⟩

theorem jsonEntries_eq_map (style : JsonStyle) (entries : List (Value × Value)) :
    jsonEntries style entries = entries.map fun e => (e.1, e.2.json style) := by
  induction entries with
  | nil => rfl
  | cons e rest ih => rw [jsonEntries, ih, List.map_cons]

theorem Storable.dict {entries : List (Value × Value)} (h : (dict entries).Storable) :
    ∀ e ∈ entries, e.2.Storable := by
  intro e he
  obtain ⟨text, h⟩ := h
  rw [json] at h
  have hall := ((objectJson_ok_iff rfl).mp ⟨text, h⟩).2
  rw [jsonEntries_eq_map] at hall
  exact (hall _ (List.mem_map_of_mem he)).2

theorem not_storable_decimal {d : Decimal} : ¬ (decimal d).Storable := by
  rintro ⟨_, h⟩
  cases h

/-- A number or truth value of the worth of a whole number. -/
def Worth (n : Int) (v : Value) : Prop :=
  v.asInt? = some n ∨ ∃ x, v = .float x ∧ x.toInt? = some n

theorem same_bool_eq (b : Bool) (a : Value) :
    (bool b).same a = (int (if b then 1 else 0)).same a := by
  cases a <;> simp [same, sameScalar, asInt?]

/-- What equals a whole number has its worth. -/
theorem worth_of_same {n : Int} {a : Value} (ha : a.Storable) (h : (int n).same a = true) :
    a.Worth n := by
  cases a with
  | bool b =>
    obtain rfl : n = if b then 1 else 0 := by simpa [same, sameScalar, asInt?] using h
    exact .inl rfl
  | int m =>
    obtain rfl : n = m := by simpa [same, sameScalar, asInt?] using h
    exact .inl rfl
  | float x =>
    have hx : x.toInt? = some n := by simpa [same, sameScalar, asInt?, intIsFloat] using h
    exact .inr ⟨x, rfl, hx⟩
  | decimal d => exact absurd ha not_storable_decimal
  | _ => simp [same, sameScalar, asInt?] at h

/-- What equals a binary number is one of equal worth or a whole
number. -/
theorem float_same_cases {x : Binary64} {a : Value} (ha : a.Storable)
    (h : (float x).same a = true) :
    (∃ y, a = float y ∧ x.same y = true) ∨ ∃ n, a.asInt? = some n ∧ x.toInt? = some n := by
  cases a with
  | float y => exact .inl ⟨y, rfl, by simpa [same, sameScalar] using h⟩
  | bool b =>
    exact .inr ⟨_, rfl, by simpa [same, sameScalar, asInt?, intIsFloat] using h⟩
  | int n =>
    exact .inr ⟨n, rfl, by simpa [same, sameScalar, asInt?, intIsFloat] using h⟩
  | decimal d => exact absurd ha not_storable_decimal
  | _ => simp [same, sameScalar, asInt?] at h

theorem worth_of_float_same {x : Binary64} {n : Int} (hx : x.toInt? = some n) {a : Value}
    (ha : a.Storable) (h : (float x).same a = true) : a.Worth n := by
  obtain ⟨y, rfl, hy⟩ | ⟨m, hm, hx'⟩ := float_same_cases ha h
  · exact .inr ⟨y, rfl, Number.Binary64.toInt?_of_same hy ▸ hx⟩
  · obtain rfl : n = m := Option.some.inj (hx.symm.trans hx')
    exact .inl hm

/-- Values of one worth are equal. -/
theorem same_of_worth {n : Int} {a b : Value} (ha : a.Worth n) (hb : b.Worth n) :
    a.same b = true := by
  have hint {v : Value} (hv : v.asInt? = some n) : v = .int n ∨ ∃ c, v = .bool c ∧
      (if c then 1 else 0) = n := by
    cases v <;> simp_all [asInt?]
  rcases ha with ha | ⟨x, rfl, hx⟩ <;> rcases hb with hb | ⟨y, rfl, hy⟩
  · obtain rfl | ⟨c, rfl, rfl⟩ := hint ha
    · obtain rfl | ⟨d, rfl, hd⟩ := hint hb
      · simp [same, sameScalar, asInt?]
      · simp [same, sameScalar, asInt?, hd]
    · obtain rfl | ⟨d, rfl, hd⟩ := hint hb
      · simp [same, sameScalar, asInt?]
      · simp [same, sameScalar, asInt?, hd]
  · obtain rfl | ⟨c, rfl, rfl⟩ := hint ha <;> simp [same, sameScalar, asInt?, intIsFloat, hy]
  · obtain rfl | ⟨c, rfl, rfl⟩ := hint hb <;> simp [same, sameScalar, asInt?, intIsFloat, hx]
  · simpa [same, sameScalar] using Number.Binary64.same_of_toInt? hx hy

theorem sameEntries_iff {entries others : List (Value × Value)} :
    sameEntries entries others = true ↔ ∀ e ∈ entries, ∃ e',
      others.find? (fun entry => same e.1 entry.1) = some e' ∧ same e.2 e'.2 = true := by
  induction entries with
  | nil => simp [sameEntries]
  | cons e rest ih =>
    obtain ⟨k, v⟩ := e
    rw [sameEntries, Bool.and_eq_true, ih, List.forall_mem_cons]
    refine and_congr_left fun _ => ?_
    cases others.find? fun entry => same k entry.1 <;> simp

/-- A mapping that equals a written one has its keys. -/
theorem keys_perm_of_same {entries others : List (Value × Value)}
    (hn : (entries.map Prod.fst).Nodup) (hw : EntriesWritten entries)
    (hl : entries.length = others.length) (h : sameEntries entries others = true) :
    (others.map Prod.fst).Perm (entries.map Prod.fst) := by
  have hsub : entries.map Prod.fst ⊆ others.map Prod.fst := by
    intro k hk
    obtain ⟨e, he, rfl⟩ := List.mem_map.mp hk
    obtain ⟨s, hs⟩ := (entriesWritten_iff.mp hw e he).1
    obtain ⟨e', he', -⟩ := sameEntries_iff.mp h e he
    have hkey : e'.1 = e.1 := by
      have := List.find?_some he'
      rw [hs] at this ⊢
      exact same_str_iff.mp this
    exact hkey ▸ List.mem_map_of_mem (List.mem_of_find?_eq_some he')
  have hperm := (hn.subperm hsub).perm_of_length_le (by simp [hl])
  exact hperm.symm

mutual
/-- Values that equal a written value are equal. -/
theorem same_of_written : (w : Value) → w.Written → ∀ {a b : Value}, a.Storable → b.Storable →
    w.same a = true → w.same b = true → a.same b = true
  | null, _, a, b, _, _, h, h' => by
    rw [same_null_iff.mp h, same_null_iff.mp h']
    rfl
  | bool c, _, a, b, ha, hb, h, h' => by
    rw [same_bool_eq] at h h'
    exact same_of_worth (worth_of_same ha h) (worth_of_same hb h')
  | int n, _, a, b, ha, hb, h, h' => same_of_worth (worth_of_same ha h) (worth_of_same hb h')
  | float x, _, a, b, ha, hb, h, h' => by
    obtain ⟨y, rfl, hy⟩ | ⟨n, _, hx⟩ := float_same_cases ha h
    · obtain ⟨z, rfl, hz⟩ | ⟨n, _, hx⟩ := float_same_cases hb h'
      · simpa [same, sameScalar] using Number.Binary64.same_of_same hy hz
      · exact same_of_worth (worth_of_float_same hx ha h) (worth_of_float_same hx hb h')
    · exact same_of_worth (worth_of_float_same hx ha h) (worth_of_float_same hx hb h')
  | str s, _, a, b, _, _, h, h' => by
    rw [same_str_iff.mp h, same_str_iff.mp h']
    exact same_str_iff.mpr rfl
  | list items, hw, a, b, ha, hb, h, h' => by
    obtain ⟨as, rfl, has⟩ := same_list_iff.mp h
    obtain ⟨bs, rfl, hbs⟩ := same_list_iff.mp h'
    exact same_list_iff.mpr ⟨bs, rfl, sameItems_of_written items hw ha.list hb.list has hbs⟩
  | dict entries, hw, a, b, ha, hb, h, h' => by
    obtain ⟨as, rfl, hal, has⟩ := same_dict_iff.mp h
    obtain ⟨bs, rfl, hbl, hbs⟩ := same_dict_iff.mp h'
    have hkeys := keys_perm_of_same hw.1 hw.2 hal has
    have hn : (as.map Prod.fst).Nodup := hkeys.nodup_iff.mpr hw.1
    refine same_dict_iff.mpr ⟨bs, rfl, hal.symm.trans hbl, sameEntries_iff.mpr fun e' he' => ?_⟩
    -- the entry of the written mapping with the same key goes with both
    obtain ⟨e, he, hkey⟩ := List.mem_map.mp (hkeys.mem_iff.mp (List.mem_map_of_mem he'))
    obtain ⟨e₁, h₁, hv₁⟩ := sameEntries_iff.mp has e he
    obtain ⟨e₂, h₂, hv₂⟩ := sameEntries_iff.mp hbs e he
    obtain ⟨s, hs⟩ := (entriesWritten_iff.mp hw.2 e he).1
    have hfirst : e₁ = e' := by
      have hmatch := List.find?_some h₁
      rw [hs] at hmatch
      have hsame : e₁.1 = e'.1 := (same_str_iff.mp hmatch).trans (hs.symm.trans hkey)
      exact List.inj_on_of_nodup_map hn (List.mem_of_find?_eq_some h₁) he' hsame
    subst hfirst
    rw [hkey] at h₂
    exact ⟨e₂, h₂, sameEntry_of_written entries hw.2 e he (ha.dict e₁ he')
      (hb.dict e₂ (List.mem_of_find?_eq_some h₂)) hv₁ hv₂⟩
  | decimal _, hw, _, _, _, _, _, _ => hw.elim
  | date _, hw, _, _, _, _, _, _ => hw.elim
  | timestamp _, hw, _, _, _, _, _, _ => hw.elim
  | tuple _, hw, _, _, _, _, _, _ => hw.elim
  | generator, hw, _, _, _, _, _, _ => hw.elim
  | typeRef _ _, hw, _, _, _, _, _, _ => hw.elim
termination_by structural w => w

theorem sameItems_of_written : (items : List Value) → ItemsWritten items →
    ∀ {as bs : List Value}, (∀ a ∈ as, a.Storable) → (∀ b ∈ bs, b.Storable) →
    sameItems items as = true → sameItems items bs = true → sameItems as bs = true
  | [], _, as, bs, _, _, h, h' => by
    obtain rfl : as = [] := by simpa [sameItems] using h
    obtain rfl : bs = [] := by simpa [sameItems] using h'
    rfl
  | w :: rest, hw, as, bs, ha, hb, h, h' => by
    cases as with
    | nil => simp [sameItems] at h
    | cons a as =>
      cases bs with
      | nil => simp [sameItems] at h'
      | cons b bs =>
        simp only [sameItems, Bool.and_eq_true] at h h' ⊢
        rw [List.forall_mem_cons] at ha hb
        exact ⟨same_of_written w hw.1 ha.1 hb.1 h.1 h'.1,
          sameItems_of_written rest hw.2 ha.2 hb.2 h.2 h'.2⟩
termination_by structural items => items

theorem sameEntry_of_written : (entries : List (Value × Value)) → EntriesWritten entries →
    ∀ e ∈ entries, ∀ {a b : Value}, a.Storable → b.Storable →
      e.2.same a = true → e.2.same b = true → a.same b = true
  | [], _, _, he, _, _, _, _, _, _ => (List.not_mem_nil he).elim
  | (k, v) :: rest, hw, e, he, a, b, ha, hb, h, h' => by
    rcases List.mem_cons.mp he with rfl | he
    · exact same_of_written v hw.2.1 ha hb h h'
    · exact sameEntry_of_written rest hw.2.2 e he ha hb h h'
termination_by structural entries => entries
end

end Value

end Polyschema
