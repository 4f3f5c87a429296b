/-
Polyschema.Proofs.ForeignKey — the foreign keys of an entity and their
names.

* `Entity.directs` — the relationships that foreign keys realize.
* `foreignKeys_relationships` — an entity has one foreign key for each of
  them, in their order.
* `keyNames_nodup_iff` — keys that are named after their tables differ in
  name exactly where they lead to different tables.
-/
import Mathlib.Data.List.Nodup
import Polyschema.Proofs.Linkage

namespace Polyschema

open Polyschema.Noted Polyschema.Emit

/-! ## Keys of relationships -/

/-- Whether a foreign key realizes a relationship. -/
def Relationship.isDirect (r : Relationship) : Bool :=
  match r.relation with
  | .unknown _ | .known .manyToMany => false
  | .known _ => true

/-- The relationships of an entity that foreign keys realize. -/
def Entity.directs (e : Entity) : List Relationship := e.relationships.filter (·.isDirect)

/-- A relationship without a defect is realized by a foreign key, unless
it is many-to-many. -/
theorem isDirect_of_sound {r : Relationship} {context : Option Table}
    (h : linkDefect? context r = none) (hm : r.relation ≠ .known .manyToMany) :
    r.isDirect = true := by
  rw [linkDefect?_eq] at h
  unfold Relationship.isDirect
  cases hr : r.relation with
  | unknown tag => rw [hr] at h; cases h
  | known c =>
    cases c with
    | manyToMany => exact absurd hr hm
    | _ => rfl

namespace Emit

/-- The foreign key of a relationship that has been written. -/
def Linkage.foreignKey? : Linkage → Option AddForeignKey
  | direct _ key _ => some key
  | junction _ _ _ _ => none

/-- The names of the foreign keys of relationships that have been
written. -/
def keyNames (links : List Linkage) : List String :=
  (links.filterMap Linkage.foreignKey?).map (·.name)

theorem foreignKey?_relationship {r : Relationship} {options : Option Variant}
    {context : Option Table} {l : Linkage}
    (h : (relationship r options context).outcome = .ok l) :
    l.foreignKey? =
      if r.isDirect then some (addForeignKey (.ofOptions options) r) else none := by
  obtain ⟨hsound, ⟨j, t, hm, hj, ht, rfl⟩ | ⟨hm, c, rfl⟩⟩ := relationship_ok h
  · have hnot : r.isDirect = false := by rw [Relationship.isDirect, hm]
    rw [hnot]
    rfl
  · rw [if_pos (isDirect_of_sound hsound hm)]
    rfl

/-- An entity has a foreign key for each relationship that one realizes,
in their order. -/
theorem foreignKeys_relationships {e : Entity} {options : Option Variant}
    {links : List Linkage} (h : (relationships e options).outcome = .ok links) :
    links.filterMap Linkage.foreignKey? =
      e.directs.map (addForeignKey (.ofOptions options)) := by
  have hlinks := map_eq_of_forall₂ (outcome_each_iff.mp h) foreignKey?_relationship
  rw [← Function.id_comp Linkage.foreignKey?, ← List.filterMap_map, hlinks, List.filterMap_map,
    ← List.filterMap_eq_map, Entity.directs, List.filterMap_filter]
  rfl

/-! ## Names -/

/-- The name of a key that is given none: after its tables. -/
def keyName (table target : String) : String := s!"fk_{table}_{target}"

theorem keyName_injective (table : String) : Function.Injective (keyName table) := by
  intro a b h
  unfold keyName at h
  rwa [String.append_right_inj] at h

theorem addForeignKey_name {r : Relationship} (v : Variant)
    (h : r.foreignKey.constraintName.filter (· != "") = none) :
    (addForeignKey v r).name = keyName r.localSide.name r.foreignSide.name := by
  rw [addForeignKey, h]
  rfl

end Emit

theorem linkDefect?_of_valid {e : Entity}
    (hvalid : Diagnostic.isValid (diagnosticsOf (Check.entity e)) = true)
    {r : Relationship} (hr : r ∈ e.relationships) : linkDefect? (some e.table) r = none := by
  have hsound := (isValid_diagnosticsOf _).mp hvalid
  unfold Check.entity at hsound
  simp only [sound_append] at hsound
  exact (sound_relationship_iff e r).mp fun f hf =>
    hsound.2 f (List.mem_flatMap.mpr ⟨r, hr, hf⟩)

/-- Where the foreign keys of an entity all start from its table and none is
given a name, they are named after the tables they lead to, and so differ
exactly where these tables do. -/
theorem keyNames_nodup_iff {e : Entity}
    (hlocal : ∀ r ∈ e.directs, r.localSide.name = e.table.name)
    (hname : ∀ r ∈ e.directs, r.foreignKey.constraintName.filter (· != "") = none)
    {options : Option Variant} {links : List Linkage}
    (hlinks : (relationships e options).outcome = .ok links) :
    keyNames links = e.directs.map (fun r => keyName e.table.name r.foreignSide.name) ∧
      ((keyNames links).Nodup ↔ (e.directs.map (·.foreignSide.name)).Nodup) := by
  have hnames : keyNames links =
      e.directs.map fun r => keyName e.table.name r.foreignSide.name := by
    rw [keyNames, foreignKeys_relationships hlinks, List.map_map]
    refine List.map_congr_left fun r hr => ?_
    rw [Function.comp_apply, addForeignKey_name _ (hname r hr), hlocal r hr]
  have htargets : (e.directs.map fun r => keyName e.table.name r.foreignSide.name) =
      (e.directs.map (·.foreignSide.name)).map (keyName e.table.name) := by
    rw [List.map_map]
    rfl
  refine ⟨hnames, ?_⟩
  rw [hnames, htargets, List.nodup_map_iff (keyName_injective e.table.name)]

/-- A relationship of a column with the key of another table. -/
def Relationship.toOne (home column target : String) : Relationship where
  name := column
  relation := .known .manyToOne
  localSide := .named home
  foreignSide := .named target
  foreignKey := ⟨column, "id", .cascade, .cascade, true, false, none⟩
  junction := none
  description := none

/-- Orders with two columns that lead to other tables. -/
def Entity.twiceLinked (column target column' target' : String) : Entity :=
  let key := Table.ofKey "orders" (.plain .uuid)
  let columns := (key.columns.put column (.plain (.plain .uuid))).put column'
    (.plain (.plain .uuid))
  .ofLinks { key with columns := columns }
    [.toOne "orders" column target, .toOne "orders" column' target']

/-- Orders of a user in a shop. -/
theorem keyNames_user_and_shop :
    Diagnostic.isValid (diagnosticsOf (Check.entity
      (.twiceLinked "user_id" "users" "shop_id" "shops"))) = true ∧
    ∃ links, (relationships (.twiceLinked "user_id" "users" "shop_id" "shops") none).outcome =
      .ok links ∧ (keyNames links).Nodup := by
  have hvalid : Diagnostic.isValid (diagnosticsOf (Check.entity
      (.twiceLinked "user_id" "users" "shop_id" "shops"))) = true := by decide +kernel
  obtain ⟨links, hlinks⟩ : ∃ links, (relationships
    (.twiceLinked "user_id" "users" "shop_id" "shops") none).outcome = .ok links := ⟨_, rfl⟩
  obtain ⟨_, hnodup⟩ := keyNames_nodup_iff (by decide) (by decide) hlinks
  exact ⟨hvalid, links, hlinks, hnodup.mpr (by decide)⟩

/-- Orders with a billing and a shipping address: no error is found, each
relationship has a column of its own, and both foreign keys have one
name. -/
theorem two_addresses_share_name :
    let e := Entity.twiceLinked "billing_id" "addresses" "shipping_id" "addresses"
    Diagnostic.isValid (diagnosticsOf (Check.entity e)) = true ∧
    (∀ r ∈ e.directs, r.localSide.name = e.table.name) ∧
    (e.directs.map (·.foreignKey.localColumn)).Nodup ∧
    (∀ r ∈ e.directs, r.foreignKey.constraintName = none) ∧
    ∃ links, (relationships e none).outcome = .ok links ∧ ¬ (keyNames links).Nodup := by
  refine ⟨by decide +kernel, by decide, by decide, by decide, _, rfl, by decide⟩

end Polyschema
