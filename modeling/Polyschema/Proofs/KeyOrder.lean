/-
Polyschema.Proofs.KeyOrder — the order of the keys in a document is not
seen.

Objects are written with their keys sorted. No two keys of JSON data are
alike, so sorting leaves one order, whatever the order before. What is
written of a default is what is written of its stored form.

* `Value.Reordered` — values that differ in the order of keys only.
* `sortEntries_perm` — sorting entries in another order.
* `json_reordered` — such values have the same JSON text.
* `SeenAlike` — two defaults with one stored form; `columnText_swaps`, …
  — a column with the one is written as the column with the other.
* `keyOrder_unseen` — so it is with defaults of JSON columns.
-/
import Polyschema.Emit.Schema
import Polyschema.Proofs.Chain
import Polyschema.Proofs.Default
import Polyschema.Proofs.JsonDocument

namespace Polyschema

open Polyschema.Noted

/-! ## Values -/

mutual
/-- Values that differ only in the order of the keys of mappings, at any
depth. -/
def Value.Reordered : Value → Value → Prop
  | .list as, other => match other with
    | .list bs => ItemsReordered as bs
    | _ => False
  | .dict as, other => match other with
    | .dict bs => ∃ cs, cs.Perm bs ∧ EntriesReordered as cs
    | _ => False
  | v, other => v = other
termination_by structural v => v

/-- Items that differ, each from its counterpart, in the order of keys. -/
def Value.ItemsReordered : List Value → List Value → Prop
  | [], others => others = []
  | a :: as, others => match others with
    | b :: bs => Value.Reordered a b ∧ ItemsReordered as bs
    | [] => False
termination_by structural as => as

/-- Entries with the same keys in the same order, whose values differ in
the order of keys further down. -/
def Value.EntriesReordered : List (Value × Value) → List (Value × Value) → Prop
  | [], others => others = []
  | (k, a) :: as, others => match others with
    | e :: bs => k = e.1 ∧ Value.Reordered a e.2 ∧ EntriesReordered as bs
    | [] => False
termination_by structural as => as
end

namespace Value

variable {α : Type}

theorem named_injective : Function.Injective fun m : String × α => (str m.1, m.2) := by
  rintro ⟨s, a⟩ ⟨t, b⟩ h
  cases h
  rfl

/-- Entries with texts as keys, no two alike, are sorted to one order. -/
theorem sortEntries_perm {entries entries' : List (Value × α)}
    (hk : ∀ e ∈ entries, ∃ s, e.1 = .str s) (hn : (entries.map Prod.fst).Nodup)
    (h : entries.Perm entries') : sortEntries entries = sortEntries entries' := by
  obtain ⟨members, rfl⟩ := exists_named hk
  obtain ⟨members', rfl⟩ := exists_named fun e he => hk e (h.mem_iff.mpr he)
  have hnames : (members.map Prod.fst).Nodup := by
    rw [named, List.map_map] at hn
    exact List.Nodup.of_map str (by rwa [List.map_map])
  have hmembers : members.Perm members' := (List.map_perm_map_iff named_injective).mp h
  obtain ⟨sorted, hsorted, hperm, hle⟩ := sortEntries_named members
  obtain ⟨sorted', hsorted', hperm', hle'⟩ := sortEntries_named members'
  -- there is one order in which each name comes no later than the next
  have hsame : sorted = sorted' := by
    refine List.Perm.eq_of_pairwise (fun a b ha hb hab hba => ?_) hle hle'
      (hperm.trans (hmembers.trans hperm'.symm))
    exact List.inj_on_of_nodup_map hnames (hperm.mem_iff.mp ha)
      (hmembers.mem_iff.mpr (hperm'.mem_iff.mp hb)) (String.le_antisymm hab hba)
  rw [hsorted, hsorted', hsame]

variable {style : JsonStyle}

mutual
/-- Where keys are sorted, JSON data has the same text whatever the order
of its keys. -/
theorem json_reordered (hs : style.sorted = true) : (v : Value) → v.IsJson → ∀ {w : Value},
    v.Reordered w → w.json style = v.json style
  | null, _, _, h | bool _, _, _, h | int _, _, _, h | float _, _, _, h | str _, _, _, h => by
    rw [← h]
  | list items, hv, w, h => by
    cases w with
    | list others => rw [json, json, jsonItems_reordered hs items hv h]
    | _ => exact h.elim
  | dict entries, hv, w, h => by
    cases w with
    | dict others =>
      obtain ⟨middle, hperm, hmiddle⟩ := h
      have htexts : ∀ e ∈ jsonEntries style entries, ∃ s, e.1 = .str s := by
        intro e he
        rw [jsonEntries_eq_map] at he
        obtain ⟨e', he', rfl⟩ := List.mem_map.mp he
        exact (entriesJson_iff.mp hv.2 e' he').1
      have hwritten : (jsonEntries style entries).Perm (jsonEntries style others) := by
        rw [← jsonEntries_reordered hs entries hv.2 hmiddle, jsonEntries_eq_map,
          jsonEntries_eq_map]
        exact hperm.map _
      have hn : ((jsonEntries style entries).map Prod.fst).Nodup := by
        rw [map_fst_jsonEntries]
        exact hv.1
      rw [json, json, objectJson, objectJson, if_pos hs, if_pos hs,
        sortEntries_perm htexts hn hwritten]
    | _ => exact h.elim
  | decimal _, hv, _, _ | date _, hv, _, _ | timestamp _, hv, _, _ | tuple _, hv, _, _
  | generator, hv, _, _ | typeRef _ _, hv, _, _ => hv.elim
termination_by structural v => v

theorem jsonItems_reordered (hs : style.sorted = true) : (items : List Value) →
    ItemsJson items → ∀ {others : List Value}, ItemsReordered items others →
      jsonItems style others = jsonItems style items
  | [], _, others, h => by rw [h]
  | v :: rest, hv, others, h => by
    cases others with
    | nil => exact h.elim
    | cons w others =>
      rw [jsonItems, jsonItems, json_reordered hs v hv.1 h.1,
        jsonItems_reordered hs rest hv.2 h.2]
termination_by structural items => items

theorem jsonEntries_reordered (hs : style.sorted = true) : (entries : List (Value × Value)) →
    EntriesJson entries → ∀ {others : List (Value × Value)}, EntriesReordered entries others →
      jsonEntries style others = jsonEntries style entries
  | [], _, others, h => by rw [h]
  | (k, v) :: rest, hv, others, h => by
    cases others with
    | nil => exact h.elim
    | cons e others =>
      obtain ⟨k', w⟩ := e
      obtain ⟨rfl, hvalue, hrest⟩ := h
      rw [jsonEntries, jsonEntries, json_reordered hs v hv.2.1 hvalue,
        jsonEntries_reordered hs rest hv.2.2 hrest]
termination_by structural entries => entries
end

end Value

/-! ## Defaults with one stored form -/

/-- A modifier, or in the place of one default another. -/
def Modifier.Swaps (v w : Value) (m m' : Modifier) : Prop :=
  m' = m ∨ m = ⟨.default, .data v⟩ ∧ m' = ⟨.default, .data w⟩

/-- A type, perhaps with one default in the place of another. -/
structure ColumnType.Swaps (v w : Value) (t t' : ColumnType) : Prop where
  kind : t'.kind = t.kind
  modifiers : List.Forall₂ (Modifier.Swaps v w) t.modifiers t'.modifiers

/-- The column with another default, if it has one. -/
def Column.redefault (c : Column) (w : Value) : Column where
  __ := c
  default := c.default.map fun _ => w
  computed_alone := by
    rw [computedAlone, Option.isSome_map]
    exact c.computed_alone

variable {v w : Value}

namespace Modifier

theorem Swaps.refl (m : Modifier) : Swaps v w m m := .inl rfl

theorem Swaps.default : Swaps v w ⟨.default, .data v⟩ ⟨.default, .data w⟩ := .inr ⟨rfl, rfl⟩

theorem Swaps.kind_eq {m m' : Modifier} (h : Swaps v w m m') : m'.kind = m.kind := by
  obtain rfl | ⟨rfl, rfl⟩ := h <;> rfl

theorem forall₂_swaps_refl (chain : List Modifier) : List.Forall₂ (Swaps v w) chain chain :=
  List.forall₂_same.mpr fun m _ => .refl m

/-- A modifier that is set, or one default in the place of another. -/
theorem swaps_setModifier {m m' : Modifier} (hm : Swaps v w m m') {chain chain' : List Modifier}
    (h : List.Forall₂ (Swaps v w) chain chain') :
    List.Forall₂ (Swaps v w) (setModifier m chain) (setModifier m' chain') := by
  induction h with
  | nil => exact .cons hm .nil
  | @cons first first' rest rest' hfirst hrest ih =>
    unfold setModifier
    rw [hm.kind_eq, hfirst.kind_eq]
    split
    · exact .cons hm hrest
    · exact .cons hfirst ih

end Modifier

namespace ColumnType

variable {t t' : ColumnType}

theorem Swaps.withModifier (h : Swaps v w t t') (kind : ModifierKind) (setting : Setting) :
    Swaps v w (t.withModifier kind setting) (t'.withModifier kind setting) :=
  ⟨h.kind, Modifier.swaps_setModifier (.refl _) h.modifiers⟩

theorem Swaps.withDefault (h : Swaps v w t t') : Swaps v w (t.withDefault v) (t'.withDefault w) :=
  ⟨h.kind, Modifier.swaps_setModifier .default h.modifiers⟩

theorem swaps_refl (t : ColumnType) : Swaps v w t t := ⟨rfl, Modifier.forall₂_swaps_refl _⟩

end ColumnType

/-- A column with another default has the modifiers of the column, with the
other default in place of its own. -/
theorem Column.swaps_resolved {c : Column} (hd : c.default = some v) :
    ColumnType.Swaps v w c.resolved (c.redefault w).resolved := by
  have hd' : (c.redefault w).default = some w := congrArg (Option.map fun _ => w) hd
  unfold Column.resolved
  simp only [hd, hd']
  have hdefault (t : ColumnType) : (t.withDefault v).Swaps v w (t.withDefault w) :=
    (ColumnType.swaps_refl t).withDefault
  cases h : c.autoIncrement with
  | true =>
    simp only [Column.redefault, h, if_true]
    exact (hdefault _).withModifier _ _
  | false =>
    simp only [Column.redefault, h]
    exact hdefault _

namespace Emit

/-- What is made of the stored form of a default, or of a source of
values. -/
def madeOf {β : Type} (t : ColumnType) (name : String) (generated : Emission β)
    (make : Value → Emission β) : Value → Emission β
  | .generator => generated
  | value => storedDefault t value name >>= make

/-- Two defaults of a kind with one stored form, or with one loss. -/
structure SeenAlike (k : Kind) (v w : Value) : Prop where
  left : v ≠ .generator
  right : w ≠ .generator
  stored : ∀ column, storedDefault (.plain k) w column = storedDefault (.plain k) v column

variable {t t' : ColumnType} (hs : SeenAlike t.kind v w) (name : String)

section
include hs

theorem SeenAlike.madeOf_eq {β : Type} (generated : Emission β) (make : Value → Emission β) :
    madeOf t name generated make w = madeOf t name generated make v := by
  have hstored : storedDefault t w name = storedDefault t v name := hs.stored name
  rw [madeOf.eq_2 _ _ _ _ _ hs.left, madeOf.eq_2 _ _ _ _ _ hs.right, hstored]

theorem defaultClause_seenAlike (x : Variant) :
    Sql.defaultClause t name (.data w) x = Sql.defaultClause t name (.data v) x :=
  hs.madeOf_eq name _ _

theorem defaultCall_seenAlike :
    Drizzle.defaultCall t name (.data w) = Drizzle.defaultCall t name (.data v) :=
  hs.madeOf_eq name _ _

theorem defaultAttribute_seenAlike :
    Prisma.defaultAttribute t name (.data w) = Prisma.defaultAttribute t name (.data v) :=
  hs.madeOf_eq name _ _

end

/-- The last setting of a kind is the same, or one default in the place of
another. -/
theorem lastSetting?_swaps {chain chain' : List Modifier}
    (h : List.Forall₂ (Modifier.Swaps v w) chain chain') (kind : ModifierKind) :
    lastSetting? kind chain' = lastSetting? kind chain ∨
      kind = .default ∧ lastSetting? kind chain = some (.data v) ∧
        lastSetting? kind chain' = some (.data w) := by
  have hr := List.forall₂_reverse_iff.mpr h
  unfold lastSetting?
  generalize chain.reverse = reversed at hr
  generalize chain'.reverse = reversed' at hr
  induction hr with
  | nil => exact .inl rfl
  | @cons m m' rest rest' hm _ ih =>
    rw [List.find?_cons, List.find?_cons, hm.kind_eq]
    cases hkind : m.kind == kind with
    | false => exact ih
    | true =>
      obtain rfl | ⟨rfl, rfl⟩ := hm
      · exact .inl rfl
      · exact .inr ⟨(eq_of_beq hkind).symm, rfl, rfl⟩

variable {options : Option Variant} {generatedAs comment : Option String}

/-- The last setting of another kind of modifier is the same. -/
theorem lastSetting?_other (h : t.Swaps v w t') (kind : ModifierKind) (hk : kind ≠ .default) :
    lastSetting? kind t'.modifiers = lastSetting? kind t.modifiers :=
  (lastSetting?_swaps h.modifiers kind).resolve_right fun hd => hk hd.1

section
include hs

theorem sqlColumn_swaps (h : t.Swaps v w t') :
    Sql.column t' name options generatedAs comment =
      Sql.column t name options generatedAs comment := by
  have hdefault (x : Variant) : Sql.defaultPart t' name x = Sql.defaultPart t name x := by
    unfold Sql.defaultPart
    rw [defaultClause_congr h.kind]
    obtain heq | ⟨-, hv, hw⟩ := lastSetting?_swaps h.modifiers .default
    · rw [heq]
    · rw [hv, hw]
      exact defaultClause_seenAlike hs name x
  have hidentity (x : Variant) : Sql.identityPart t' x = Sql.identityPart t x := by
    unfold Sql.identityPart
    rw [lastSetting?_other h .autoIncrement nofun]
  have hnull : Sql.nullClause t'.modifiers = Sql.nullClause t.modifiers := by
    unfold Sql.nullClause
    rw [lastSetting?_other h .nullable nofun]
  have hunique : Sql.uniqueClause t'.modifiers = Sql.uniqueClause t.modifiers := by
    unfold Sql.uniqueClause
    rw [lastSetting?_other h .unique nofun]
  unfold Sql.column
  unfold Sql.columnParts
  simp only [base_congr h.kind, hdefault, hidentity, hnull, hunique]

theorem modifierCall_swaps (hk : t'.kind = t.kind) {m m' : Modifier} (hm : m.Swaps v w m') :
    Drizzle.modifierCall t' name m' = Drizzle.modifierCall t name m := by
  unfold Drizzle.modifierCall
  rw [defaultCall_congr hk]
  obtain rfl | ⟨rfl, rfl⟩ := hm
  · rfl
  · exact defaultCall_seenAlike hs name

theorem modifierAttribute_swaps (hk : t'.kind = t.kind) {m m' : Modifier}
    (hm : m.Swaps v w m') :
    Prisma.modifierAttribute t' name m' = Prisma.modifierAttribute t name m := by
  unfold Prisma.modifierAttribute
  rw [defaultAttribute_congr hk]
  obtain rfl | ⟨rfl, rfl⟩ := hm
  · rfl
  · exact defaultAttribute_seenAlike hs name

theorem drizzleColumn_swaps (h : t.Swaps v w t') :
    Drizzle.column t' name options generatedAs = Drizzle.column t name options generatedAs := by
  have hcalls : each (Drizzle.modifierCall t' name) t'.modifiers =
      each (Drizzle.modifierCall t name) t.modifiers :=
    each_of_forall₂ h.modifiers fun hm => modifierCall_swaps hs name h.kind hm
  unfold Drizzle.column
  rw [base_congr h.kind, hcalls]

theorem prismaColumn_swaps (h : t.Swaps v w t') :
    Prisma.column t' name options generatedAs = Prisma.column t name options generatedAs := by
  have hattributes : each (Prisma.modifierAttribute t' name) t'.modifiers =
      each (Prisma.modifierAttribute t name) t.modifiers :=
    each_of_forall₂ h.modifiers fun hm => modifierAttribute_swaps hs name h.kind hm
  have hmark : Prisma.optionalMark t'.modifiers = Prisma.optionalMark t.modifiers := by
    unfold Prisma.optionalMark
    rw [lastSetting?_other h .nullable nofun]
  unfold Prisma.column Prisma.field
  rw [base_congr h.kind, hattributes, hmark]

end

/-- Convex has no defaults. Which one is lost does not matter. -/
theorem convexColumn_swaps (h : t.Swaps v w t') :
    Convex.column t' name options generatedAs = Convex.column t name options generatedAs := by
  have hlosses : t'.modifiers.map (Convex.modifierLosses name) =
      t.modifiers.map (Convex.modifierLosses name) :=
    map_eq_of_forall₂ h.modifiers fun hm => by obtain rfl | ⟨rfl, rfl⟩ := hm <;> rfl
  have hvalidator (validator : String) : t'.modifiers.foldl Convex.applyModifier validator =
      t.modifiers.foldl Convex.applyModifier validator := by
    have hchains := h.modifiers
    generalize t.modifiers = chain at hchains
    generalize t'.modifiers = chain' at hchains
    induction hchains generalizing validator with
    | nil => rfl
    | cons hm _ ih =>
      rw [List.foldl_cons, List.foldl_cons, ih]
      obtain rfl | ⟨rfl, rfl⟩ := hm <;> rfl
  unfold Convex.column Convex.columnLosses
  simp only [base_congr h.kind, List.flatMap_def, hlosses, hvalidator]

/-- A type is written alike with the one default and with the other. -/
theorem columnText_swaps (h : t.Swaps v w t') (hs : SeenAlike t.kind v w) (d : Dialect) :
    columnText t' d name options = columnText t d name options := by
  cases d with
  | sql => exact sqlColumn_swaps hs name h
  | drizzle => exact drizzleColumn_swaps hs name h
  | prisma => exact prismaColumn_swaps hs name h
  | convex => exact convexColumn_swaps name h

/-- A column of a table is written alike with the one default and with the
other. -/
theorem columnIn_redefault {c : Column} (hd : c.default = some v)
    (hs : SeenAlike c.type.kind v w) (d : Dialect) (key : List String) :
    columnIn d key options name (c.redefault w) = columnIn d key options name c := by
  have hkeyed : (keyedType name c key).Swaps v w (keyedType name (c.redefault w) key) :=
    Column.swaps_resolved (c := c.withPrimary (key == [name])) hd
  have hskeyed : SeenAlike (keyedType name c key).kind v w := by
    rwa [keyedType, Column.resolved_kind]
  cases d with
  | sql =>
    rw [← c.resolved_kind] at hs
    exact sqlColumn_swaps hs name (Column.swaps_resolved hd)
  | drizzle => exact drizzleColumn_swaps hskeyed name hkeyed
  | prisma => exact prismaColumn_swaps hskeyed name hkeyed
  | convex => exact convexColumn_swaps name hkeyed

end Emit

/-! ## Defaults of JSON columns -/

/-- JSON data with its keys in another order has the same stored form. -/
theorem serialize_reordered {v w : Value} (hv : v.IsJson) (hf : v.InFormat) (h : v.Reordered w) :
    ∃ text, (ColumnType.plain .json).serialize v = .ok (.str text) ∧
      (ColumnType.plain .json).serialize w = .ok (.str text) := by
  obtain ⟨text, _, htext, -⟩ := v.json_survives hv hf
  have hstored {u : Value} (hu : u.json .canonical = .ok text) :
      (ColumnType.plain .json).serialize u = .ok (.str text) := by
    show Misuse.lift (Value.str <$> u.json .canonical) = _
    rw [hu]
    rfl
  exact ⟨text, hstored htext, hstored ((v.json_reordered rfl hv h).trans htext)⟩

theorem Value.IsJson.ne_generator {v : Value} (hv : v.IsJson) : v ≠ .generator := by
  rintro rfl
  exact hv

/-- As defaults, JSON data with its keys in another order are seen
alike. -/
theorem seenAlike_reordered {v w : Value} (hv : v.IsJson) (hw : w.IsJson) (fv : v.InFormat)
    (fw : w.InFormat) (h : v.Reordered w) : Emit.SeenAlike .json v w := by
  refine ⟨hv.ne_generator, hw.ne_generator, fun column => ?_⟩
  obtain ⟨text, hstored, hstored'⟩ := serialize_reordered hv fv h
  rw [Emit.storedDefault_eq_done (hv.accepted fv) hstored,
    Emit.storedDefault_eq_done (hw.accepted fw) hstored']

/-- Two JSON values that differ in the order of keys only have one stored
form. As defaults of a JSON type, or of a JSON column in a table with any
key, they make no difference: in every dialect and variant the text is the
same, and so are the losses. Where the type has no modifiers of its own,
the column is written. -/
theorem keyOrder_unseen {v w : Value} (hv : v.IsJson) (hw : w.IsJson) (fv : v.InFormat)
    (fw : w.InFormat) (h : v.Reordered w) :
    (∃ text, (ColumnType.plain .json).serialize v = .ok (.str text) ∧
      (ColumnType.plain .json).serialize w = .ok (.str text)) ∧
    (∀ t : ColumnType, t.kind = .json → ∀ d name options,
      Emit.columnText (t.withDefault v) d name options =
        Emit.columnText (t.withDefault w) d name options) ∧
    ∀ c : Column, c.type.kind = .json → c.default = some v → ∀ d key name options,
      Emit.columnIn d key options name (c.redefault w) =
        Emit.columnIn d key options name c ∧
      (c.type.modifiers = [] → (Emit.columnIn d key options name c).Returns) := by
  have hs := seenAlike_reordered hv hw fv fw h
  refine ⟨serialize_reordered hv fv h, fun t ht d name options => ?_,
    fun c hc hd d key name options => ⟨?_, fun hb => ?_⟩⟩
  · exact (Emit.columnText_swaps name (ColumnType.swaps_refl t).withDefault
      (show Emit.SeenAlike t.kind v w from ht ▸ hs) d).symm
  · exact Emit.columnIn_redefault name hd (hc ▸ hs) d key
  · have hregistered : c.Registered := ⟨by rw [hc]; trivial, hb⟩
    refine (Emit.returns_columnIn_iff hregistered d key options name).mpr (.inr fun v' hv' => ?_)
    obtain rfl := Option.some.inj (hd.symm.trans hv')
    refine .inr (.inl ?_)
    show c.type.kind.accepts v = _
    rw [hc]
    exact hv.accepted fv

/-- Settings with the theme before the panes. -/
def themeFirst : Value :=
  .record [("theme", .str "dark"), ("panes", .list [.record [("w", .int 3), ("h", .int 2)]])]

/-- The same settings in another order, inside the list too. -/
def panesFirst : Value :=
  .record [("panes", .list [.record [("h", .int 2), ("w", .int 3)]]), ("theme", .str "dark")]

/-- A column for settings. -/
def settingsColumn : Column :=
  { Column.plain (.plain .json) with default := some themeFirst }

theorem reordered_settings : themeFirst.Reordered panesFirst := by
  have hpane : (Value.record [("w", .int 3), ("h", .int 2)]).Reordered
      (.record [("h", .int 2), ("w", .int 3)]) :=
    ⟨_, List.Perm.swap _ _ _, rfl, rfl, rfl, rfl, rfl⟩
  exact ⟨_, List.Perm.swap _ _ _, rfl, rfl, rfl, ⟨hpane, rfl⟩, rfl⟩

theorem keyOrder_unseen_settings :
    themeFirst.IsJson ∧ panesFirst.IsJson ∧ themeFirst.InFormat ∧ panesFirst.InFormat ∧
      themeFirst.Reordered panesFirst ∧
      Emit.columnIn .drizzle ["id"] none "settings" (settingsColumn.redefault panesFirst) =
        Emit.columnIn .drizzle ["id"] none "settings" settingsColumn := by
  have hv : themeFirst.IsJson := by
    simp [themeFirst, Value.record, Value.IsJson, Value.EntriesJson, Value.ItemsJson]
  have hw : panesFirst.IsJson := by
    simp [panesFirst, Value.record, Value.IsJson, Value.EntriesJson, Value.ItemsJson]
  have fv : themeFirst.InFormat := by
    simp [themeFirst, Value.record, Value.InFormat, Value.EntriesInFormat, Value.ItemsInFormat]
  have fw : panesFirst.InFormat := by
    simp [panesFirst, Value.record, Value.InFormat, Value.EntriesInFormat, Value.ItemsInFormat]
  exact ⟨hv, hw, fv, fw, reordered_settings,
    ((keyOrder_unseen hv hw fv fw reordered_settings).2.2 settingsColumn rfl rfl
      .drizzle ["id"] "settings" none).1⟩

end Polyschema
