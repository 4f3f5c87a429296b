/-
Polyschema.Proofs.Chain — chains of modifiers.

A call that sets a modifier exchanges the one of its kind where it stands
or puts a new one last.

* `modifierKinds_withModifier`, `setting_withModifier` — what one call
  leaves of the kinds in a chain and of their settings.
* `modifierKinds_setAll`, `setting_setAll` — what calls leave that are
  made one after another.
* `trail_chain` — each type on the way is what the calls up to it make of
  the first one, whatever is called later.
* `column_perm` — SQL and Convex write the same column for the same
  modifiers in another order.
-/
import Mathlib.Data.List.Induction
import Polyschema.Intake.Column
import Polyschema.Proofs.Denotation

namespace Polyschema

open Polyschema.Noted Polyschema.Emit

theorem Emit.lastSetting?_concat (kind : ModifierKind) (chain : List Modifier) (m : Modifier) :
    lastSetting? kind (chain ++ [m]) =
      if m.kind = kind then some m.setting else lastSetting? kind chain := by
  unfold lastSetting?
  by_cases h : m.kind = kind <;> simp [h]

/-! ## One call -/

namespace ColumnType

variable (t : ColumnType) (kind : ModifierKind) (setting : Setting)

theorem map_kind_setModifier (m : Modifier) (chain : List Modifier) :
    (setModifier m chain).map (·.kind) =
      if m.kind ∈ chain.map (·.kind) then chain.map (·.kind)
      else chain.map (·.kind) ++ [m.kind] := by
  induction chain with
  | nil => rfl
  | cons first rest ih =>
    unfold setModifier
    by_cases hkind : first.kind = m.kind
    · simp [hkind]
    · rw [if_neg hkind, List.map_cons, ih]
      by_cases hmem : m.kind ∈ rest.map (·.kind)
      · rw [if_pos hmem, List.map_cons, if_pos (List.mem_cons_of_mem _ hmem)]
      · have hnot : m.kind ∉ first.kind :: rest.map (·.kind) := fun h =>
          (List.mem_cons.mp h).elim (fun heq => hkind heq.symm) hmem
        rw [if_neg hmem, List.map_cons, if_neg hnot]
        rfl

theorem find?_setModifier (m : Modifier) (chain : List Modifier) :
    (setModifier m chain).find? (·.kind == kind) =
      if m.kind = kind then some m else chain.find? (·.kind == kind) := by
  induction chain with
  | nil => by_cases h : m.kind = kind <;> simp [setModifier, h]
  | cons first rest ih =>
    unfold setModifier
    by_cases hsame : first.kind = m.kind
    · rw [if_pos hsame]
      by_cases h : m.kind = kind <;> simp [h, hsame]
    · rw [if_neg hsame, List.find?_cons, List.find?_cons, ih]
      by_cases h : m.kind = kind
      · have hother : (first.kind == kind) = false := by simpa [← h] using hsame
        simp [h, hother]
      · simp [h]

/-- A kind that is there keeps its place, and a new one comes last. -/
theorem modifierKinds_withModifier :
    (t.withModifier kind setting).modifierKinds =
      if kind ∈ t.modifierKinds then t.modifierKinds else t.modifierKinds ++ [kind] :=
  map_kind_setModifier ⟨kind, setting⟩ t.modifiers

/-- A kind holds what it was set to last. -/
theorem setting_withModifier (other : ModifierKind) :
    ((t.withModifier kind setting).modifier? other).map (·.setting) =
      if kind = other then some setting else (t.modifier? other).map (·.setting) := by
  unfold modifier? withModifier
  rw [find?_setModifier]
  by_cases h : kind = other <;> simp [h]

/-- No kind is repeated by a call. -/
theorem nodup_withModifier (h : t.modifierKinds.Nodup) :
    (t.withModifier kind setting).modifierKinds.Nodup := by
  rw [modifierKinds_withModifier]
  split
  next => exact h
  next hnew => exact List.nodup_append.mpr ⟨h, List.nodup_singleton kind, fun a ha b hb =>
      fun heq => hnew (List.mem_singleton.mp hb ▸ heq ▸ ha)⟩

/-! ## Calls one after another -/

/-- The type with modifiers set one after another. -/
def setAll (ms : List Modifier) : ColumnType :=
  ms.foldl (fun u m => u.withModifier m.kind m.setting) t

theorem setAll_concat (ms : List Modifier) (m : Modifier) :
    t.setAll (ms ++ [m]) = (t.setAll ms).withModifier m.kind m.setting := by
  simp [setAll]

theorem nodup_setAll (h : t.modifierKinds.Nodup) (ms : List Modifier) :
    (t.setAll ms).modifierKinds.Nodup := by
  induction ms using List.reverseRecOn with
  | nil => exact h
  | append_singleton ms m ih =>
    rw [setAll_concat]
    exact nodup_withModifier _ _ _ ih

theorem eraseDups_concat {α : Type} [DecidableEq α] (as : List α) (a : α) :
    (as ++ [a]).eraseDups = if a ∈ as then as.eraseDups else as.eraseDups ++ [a] := by
  rw [List.eraseDups_append]
  by_cases h : a ∈ as <;> simp [List.removeAll, h, List.eraseDups_cons]

/-- The kinds that are there keep their places; the others follow in the
order in which they were first set. -/
theorem modifierKinds_setAll (ms : List Modifier) :
    (t.setAll ms).modifierKinds =
      t.modifierKinds ++ (ms.map (·.kind)).eraseDups.filter (· ∉ t.modifierKinds) := by
  induction ms using List.reverseRecOn with
  | nil => simp [setAll]
  | append_singleton ms m ih =>
    rw [setAll_concat, modifierKinds_withModifier, ih, List.map_append, List.map_singleton,
      eraseDups_concat]
    by_cases hold : m.kind ∈ t.modifierKinds
    · rw [if_pos (List.mem_append_left _ hold)]
      split
      next => rfl
      next => simp [List.filter_append, hold]
    · by_cases hset : m.kind ∈ ms.map (·.kind)
      · have hmem : m.kind ∈ (ms.map (·.kind)).eraseDups.filter (· ∉ t.modifierKinds) :=
          List.mem_filter.mpr ⟨List.mem_eraseDups.mpr hset, by simpa using hold⟩
        rw [if_pos (List.mem_append_right _ hmem), if_pos hset]
      · have hnew : m.kind ∉ t.modifierKinds ++
            (ms.map (·.kind)).eraseDups.filter (· ∉ t.modifierKinds) := fun h =>
          (List.mem_append.mp h).elim hold fun h =>
            hset (List.mem_eraseDups.mp (List.mem_filter.mp h).1)
        rw [if_neg hnew, if_neg hset, List.filter_append]
        simp [hold]

/-- Each kind holds what it was set to last, and a kind that was not set
what it held. -/
theorem setting_setAll (ms : List Modifier) (kind : ModifierKind) :
    ((t.setAll ms).modifier? kind).map (·.setting) =
      (lastSetting? kind ms).or ((t.modifier? kind).map (·.setting)) := by
  induction ms using List.reverseRecOn with
  | nil => rfl
  | append_singleton ms m ih =>
    rw [setAll_concat, setting_withModifier, ih, lastSetting?_concat]
    split
    next => rfl
    next => rfl

/-- Nothing else about the type changes. -/
theorem base_setAll (ms : List Modifier) : (t.setAll ms).base = t.base := by
  induction ms using List.reverseRecOn with
  | nil => rfl
  | append_singleton ms m ih =>
    rw [setAll_concat]
    exact ih

end ColumnType

/-! ## Calls that may be turned down -/

/-- A call that sets a modifier, with what is given for the setting. -/
structure Layer where
  kind : ModifierKind
  given : Option Value

namespace Layer

/-- What the call sets, or why it is turned down. It does not depend on
the type. -/
def setting (layer : Layer) : Except Fault Setting :=
  match layer.kind, layer.given with
  | .nullable, v | .unique, v | .primaryKey, v => .ok (.flag (v.all Value.truthy))
  | .default, none => .error (.misuse .wrongKind)
  | .default, some .null => .error (.refused .emptyDefault)
  | .default, some v => .ok (.data v)
  | .autoIncrement, none => .ok (.identity .byDefault)
  | .autoIncrement, some v => match v.asString?.bind Generation.ofTag? with
    | some g => .ok (.identity g)
    | none => .error (.misuse .badContent)

/-- The modifier that the call sets, if it is not turned down. -/
def modifier? (layer : Layer) : Option Modifier :=
  layer.setting.toOption.map fun setting => ⟨layer.kind, setting⟩

/-- What is set by the calls that are not turned down, in their order. -/
def granted (layers : List Layer) : List Modifier := layers.filterMap modifier?

end Layer

namespace ColumnType

/-- The type at hand after a call: the one that it makes, or still the
same where it is turned down. -/
def after (t : ColumnType) (layer : Layer) : ColumnType :=
  match t.layered layer.kind layer.given with
  | .ok u => u
  | .error _ => t

/-- The types at hand before, between and after some calls. -/
def trail (t : ColumnType) (layers : List Layer) : List ColumnType := layers.scanl after t

theorem layered_eq (t : ColumnType) (layer : Layer) :
    t.layered layer.kind layer.given = t.withModifier layer.kind <$> layer.setting := by
  obtain ⟨kind, given⟩ := layer
  unfold layered Layer.setting
  cases kind with
  | default =>
    cases given with
    | none => rfl
    | some v => cases v <;> rfl
  | autoIncrement =>
    cases given with
    | none => rfl
    | some v =>
      dsimp only
      cases v.asString?.bind Generation.ofTag? <;> rfl
  | _ => rfl

theorem after_eq (t : ColumnType) (layer : Layer) :
    t.after layer = t.setAll layer.modifier?.toList := by
  unfold after Layer.modifier?
  rw [layered_eq]
  cases layer.setting <;> rfl

/-- What calls make of a type is what they set on it. -/
theorem foldl_after (t : ColumnType) (layers : List Layer) :
    layers.foldl after t = t.setAll (Layer.granted layers) := by
  induction layers generalizing t with
  | nil => rfl
  | cons layer rest ih =>
    rw [List.foldl_cons, ih, after_eq]
    unfold Layer.granted
    rw [List.filterMap_cons]
    cases layer.modifier? <;> rfl

/-- On the way through some calls, each type is what the calls up to it
make of the first one, also when more calls follow. Its chain repeats no
kind: the kinds that were there keep their places, the others follow in
the order in which they were first set, and each holds what it was set to
last. Nothing else changes, and nothing at all by a call that is turned
down, as one is that asks for a default without a value. -/
theorem trail_chain {t : ColumnType} (ht : t.modifierKinds.Nodup) (layers : List Layer) {n : Nat}
    (hn : n ≤ layers.length) :
    (t.trail layers).take (n + 1) = t.trail (layers.take n) ∧
    ∃ u, (t.trail layers)[n]? = some u ∧
      u.modifierKinds.Nodup ∧
      u.modifierKinds = t.modifierKinds ++
        ((Layer.granted (layers.take n)).map (·.kind)).eraseDups.filter (· ∉ t.modifierKinds) ∧
      (∀ kind, (u.modifier? kind).map (·.setting) =
        (lastSetting? kind (Layer.granted (layers.take n))).or
          ((t.modifier? kind).map (·.setting))) ∧
      u.base = t.base ∧
      (∀ layer f, layers[n]? = some layer → u.layered layer.kind layer.given = .error f →
        (t.trail layers)[n + 1]? = some u) ∧
      u.layered .default (some .null) = .error (.refused .emptyDefault) := by
  have hstate {k : Nat} (hk : k ≤ layers.length) :
      (t.trail layers)[k]? = some (t.setAll (Layer.granted (layers.take k))) := by
    rw [← foldl_after, trail, List.getElem?_scanl, if_pos hk]
  refine ⟨List.take_scanl t layers n, _, hstate hn, nodup_setAll t ht _,
    modifierKinds_setAll t _, setting_setAll t _, base_setAll t _, fun layer f hlayer hf => ?_, rfl⟩
  obtain ⟨hlt, hget⟩ := List.getElem?_eq_some_iff.mp hlayer
  have hnone : layer.modifier? = none := by
    rw [layered_eq] at hf
    unfold Layer.modifier?
    cases hs : layer.setting with
    | ok setting => rw [hs] at hf; cases hf
    | error e => rfl
  rw [hstate hlt, List.take_add_one, hlayer, Layer.granted, List.filterMap_append]
  simp [hnone, Layer.granted]

end ColumnType

/-- A label that is unique and never null. -/
def labelType : ColumnType :=
  ⟨.string (some 40), [⟨.unique, .flag true⟩, ⟨.nullable, .flag false⟩]⟩

/-- Calls on the type of labels, of which the third is turned down. -/
def labelLayers : List Layer := [
  ⟨.default, some (.str "none")⟩, ⟨.nullable, none⟩, ⟨.default, some .null⟩,
  ⟨.default, some (.str "blank")⟩, ⟨.autoIncrement, some (.str "always")⟩,
  ⟨.primaryKey, some (.bool false)⟩]

theorem trail_chain_label :
    labelType.modifierKinds.Nodup ∧ 6 ≤ labelLayers.length ∧
      ∃ u, (labelType.trail labelLayers)[6]? = some u ∧
        u.modifierKinds = [.unique, .nullable, .default, .autoIncrement, .primaryKey] ∧
        (u.modifier? .default).map (·.setting) = some (.data (.str "blank")) ∧
        (u.modifier? .unique).map (·.setting) = some (.flag true) ∧
        u.base = .plain (.string (some 40)) := by
  have hnodup : labelType.modifierKinds.Nodup := by decide
  obtain ⟨-, u, hu, -, hkinds, hsetting, hbase, -⟩ :=
    ColumnType.trail_chain hnodup labelLayers (n := 6) (by decide)
  refine ⟨hnodup, by decide, u, hu, hkinds.trans ?_, (hsetting .default).trans rfl,
    (hsetting .unique).trans rfl, hbase⟩
  decide

/-! ## Chains in another order -/

namespace Emit

variable {chain chain' : List Modifier} {name : String} {options : Option Variant}
  {generatedAs comment : Option String}

theorem lastSetting?_eq_some_iff {kind : ModifierKind} {setting : Setting}
    (hn : (chain.map (·.kind)).Nodup) :
    lastSetting? kind chain = some setting ↔ ⟨kind, setting⟩ ∈ chain := by
  induction chain using List.reverseRecOn with
  | nil => simp [lastSetting?]
  | append_singleton chain m ih =>
    rw [List.map_append, List.map_singleton, List.nodup_append] at hn
    obtain ⟨hn, -, hnew⟩ := hn
    rw [lastSetting?_concat, List.mem_append, List.mem_singleton]
    by_cases h : m.kind = kind
    · have hnot : ⟨kind, setting⟩ ∉ chain := fun hmem =>
        hnew kind (List.mem_map_of_mem hmem) m.kind (List.mem_singleton_self _) h.symm
      rw [if_pos h]
      obtain ⟨mkind, msetting⟩ := m
      obtain rfl := h
      simpa [hnot] using eq_comm
    · have hother : (⟨kind, setting⟩ : Modifier) ≠ m := fun heq => h (heq ▸ rfl)
      rw [if_neg h, ih hn]
      simp [hother]

/-- Where no kind is repeated, each kind has the same last setting in
another order. -/
theorem lastSetting?_perm (hp : chain.Perm chain') (hn : (chain.map (·.kind)).Nodup)
    (kind : ModifierKind) : lastSetting? kind chain = lastSetting? kind chain' := by
  have hn' : (chain'.map (·.kind)).Nodup := (hp.map _).nodup_iff.mp hn
  ext setting
  rw [lastSetting?_eq_some_iff hn, lastSetting?_eq_some_iff hn', hp.mem_iff]

/-- SQL sees of a chain only the last setting of each kind. -/
theorem sqlColumn_congr (h : ∀ kind, lastSetting? kind chain = lastSetting? kind chain')
    (k : Kind) : Sql.column ⟨k, chain⟩ name options generatedAs comment =
      Sql.column ⟨k, chain'⟩ name options generatedAs comment := by
  unfold Sql.column Sql.columnParts Sql.defaultPart Sql.identityPart Sql.nullClause
    Sql.uniqueClause
  simp only [h]
  rfl

/-- Of a chain without repetition, Convex sees whether it makes the
column nullable. -/
theorem foldl_applyModifier (hn : (chain.map (·.kind)).Nodup) (validator : String) :
    chain.foldl Convex.applyModifier validator =
      if (lastSetting? .nullable chain).any Setting.truthy then s!"v.optional({validator})"
      else validator := by
  induction chain using List.reverseRecOn with
  | nil => rfl
  | append_singleton chain m ih =>
    rw [List.map_append, List.map_singleton, List.nodup_append] at hn
    obtain ⟨hn, -, hnew⟩ := hn
    rw [List.foldl_append, List.foldl_cons, List.foldl_nil, ih hn, lastSetting?_concat]
    by_cases h : m.kind = .nullable
    · have hnone : lastSetting? .nullable chain = none := by
        refine Option.eq_none_iff_forall_ne_some.mpr fun setting hs => ?_
        have hmem := (lastSetting?_eq_some_iff hn).mp hs
        exact hnew .nullable (List.mem_map_of_mem hmem) m.kind (List.mem_singleton_self _) h.symm
      simp [Convex.applyModifier, h, hnone]
    · simp [Convex.applyModifier, h]

theorem columnLosses_perm (hp : chain.Perm chain') (k : Kind) :
    (Convex.columnLosses ⟨k, chain⟩ name generatedAs).Perm
      (Convex.columnLosses ⟨k, chain'⟩ name generatedAs) :=
  (hp.flatMap_right _).append_right _

/-- A column type without repeated modifiers and the same type with its
modifiers in another order are written alike: in SQL with the same text
and the same losses, in Convex with the same text and with the same
losses up to their order. Where the one cannot be written, the other
fails alike. -/
theorem column_perm (hp : chain.Perm chain') (hn : (chain.map (·.kind)).Nodup) (k : Kind)
    (name : String) (options : Option Variant) (generatedAs comment : Option String) :
    Sql.column ⟨k, chain⟩ name options generatedAs comment =
      Sql.column ⟨k, chain'⟩ name options generatedAs comment ∧
    (Convex.column ⟨k, chain⟩ name options generatedAs).outcome =
      (Convex.column ⟨k, chain'⟩ name options generatedAs).outcome ∧
    (Convex.column ⟨k, chain⟩ name options generatedAs).notes.Perm
      (Convex.column ⟨k, chain'⟩ name options generatedAs).notes := by
  have hlast := lastSetting?_perm hp hn
  have hn' : (chain'.map (·.kind)).Nodup := (hp.map _).nodup_iff.mp hn
  have hvalidator (validator : String) : chain.foldl Convex.applyModifier validator =
      chain'.foldl Convex.applyModifier validator := by
    rw [foldl_applyModifier hn, foldl_applyModifier hn', hlast]
  have hbase : base ⟨k, chain⟩ .convex name options s!"{name}: v.string()" =
      base ⟨k, chain'⟩ .convex name options s!"{name}: v.string()" := rfl
  refine ⟨sqlColumn_congr hlast k, ?_, ?_⟩
  · unfold Convex.column
    simp only [outcome_bind, hbase, hvalidator, Emission.losses_eq]
  · unfold Convex.column
    rw [hbase]
    cases hb : (base ⟨k, chain'⟩ .convex name options s!"{name}: v.string()").outcome with
    | error f => rw [notes_bind_error hb, notes_bind_error hb]
    | ok fragment =>
      rw [notes_bind_ok hb, notes_bind_ok hb]
      exact ((columnLosses_perm hp k).append_right []).append_left _

end Emit

/-- The modifiers of a rank by default out of its domain. -/
def rankModifiers : List Modifier :=
  [⟨.unique, .flag true⟩, ⟨.default, .data (.str "last")⟩, ⟨.nullable, .flag true⟩,
    ⟨.autoIncrement, .identity .always⟩]

theorem column_perm_rank :
    rankModifiers.Perm rankModifiers.reverse ∧ (rankModifiers.map (·.kind)).Nodup ∧
      Emit.Sql.column ⟨.integer, rankModifiers⟩ "rank" (some .mysql) none none =
        Emit.Sql.column ⟨.integer, rankModifiers.reverse⟩ "rank" (some .mysql) none none ∧
      (Emit.Convex.column ⟨.integer, rankModifiers.reverse⟩ "rank" none none).outcome =
        .ok "rank: v.optional(v.number())" ∧
      (Emit.Convex.column ⟨.integer, rankModifiers⟩ "rank" none none).notes.Perm
        (Emit.Convex.column ⟨.integer, rankModifiers.reverse⟩ "rank" none none).notes := by
  have hp : rankModifiers.Perm rankModifiers.reverse := (List.reverse_perm _).symm
  have hn : (rankModifiers.map (·.kind)).Nodup := by decide
  obtain ⟨hsql, -, -⟩ := Emit.column_perm hp hn .integer "rank" (some .mysql) none none
  obtain ⟨-, hconvex, hnotes⟩ := Emit.column_perm hp hn .integer "rank" none none none
  exact ⟨hp, hn, hsql, hconvex.symm.trans rfl, hnotes⟩

end Polyschema
