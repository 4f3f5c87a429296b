/-
Polyschema.Proofs.JunctionTable — the table that realizes a many-to-many
relationship, as it is written.

* `Side.Known` — the table of a side that is given in full or is the
  owner of the relationship.
* `KeyTyped` — a key column has the type of the column that it refers to,
  or that of a UUID where the table is not known.
* `junctionLines` — the lines of a junction with its indexes.
* `junction_written` — a many-to-many relationship is written in these
  lines, its columns differ in name, and so do its indexes.
-/
import Polyschema.Proofs.Index
import Polyschema.Proofs.Report

namespace Polyschema

open Polyschema.Text Polyschema.Noted Polyschema.Emit

variable {context : Option Table} {options : Option Variant}

/-! ## Known sides -/

/-- The table of a side: given in full, or the owner of the relationship
by its name. -/
inductive Side.Known (context : Option Table) : Side → Table → Prop where
  | full (t : Table) : Known context (.linked t) t
  | owner {t : Table} (h : context = some t) : Known context (.named t.name) t

theorem Side.within_eq_some_iff {s : Side} {t : Table} :
    s.within context = some t ↔ s.Known context t := by
  cases s with
  | linked u =>
    constructor
    · rintro h
      cases h
      exact .full t
    · rintro ⟨⟩
      rfl
  | named name =>
    have hwithin : (Side.named name).within context = context.filter fun t => t.name == name := rfl
    rw [hwithin, Option.filter_eq_some_iff, beq_iff_eq]
    constructor
    · rintro ⟨h, rfl⟩
      exact .owner h
    · rintro ⟨⟩
      next h => exact ⟨h, rfl⟩

theorem Side.within_eq_none_iff {s : Side} :
    s.within context = none ↔ ∀ t, ¬ s.Known context t := by
  simp only [← within_eq_some_iff, Option.eq_none_iff_forall_ne_some, ne_eq]

/-! ## Key columns -/

/-- The type of a key column that refers to a column of a side: that of
this column where the table of the side is known, and that of a UUID
elsewhere. -/
def KeyTyped (context : Option Table) (options : Option Variant) (s : Side) (column : String)
    (type : String) : Prop :=
  (∀ t, s.Known context t → ∃ c, t.columns.get? column = some c ∧
    (Sql.bareType c.type options).outcome = .ok type) ∧
  ((∀ t, ¬ s.Known context t) → type = Kind.uuid.sqlType (.ofOptions options))

theorem outcome_bareType_uuid (options : Option Variant) :
    (Sql.bareType (.plain .uuid) options).outcome =
      .ok (Kind.uuid.sqlType (.ofOptions options)) := by
  rcases options with _ | _ | _ | _ <;> rfl

namespace Emit

/-- A table without the defect of an absent column has the column. -/
theorem get?_of_absentColumn? {relationship column : String} {t : Table}
    (h : absentColumn? relationship (some t) column = none) :
    ∃ c, t.columns.get? column = some c := by
  have hhas : column ∈ t.columns.names := by
    unfold absentColumn? at h
    cases hc : t.columns.has column with
    | true => simpa [Keyed.has] using hc
    | false => simp [hc] at h
  obtain ⟨⟨name, c⟩, hmem, rfl⟩ := List.mem_map.mp hhas
  exact ⟨c, Keyed.get?_eq_some_iff.mpr hmem⟩

/-- A key column whose side has no defect is written with its type. -/
theorem keyTyped_of_keyType {relationship column type : String} {s : Side}
    (hsound : absentColumn? relationship (s.within context) column = none)
    (h : (keyType (s.within context) column options).outcome = .ok type) :
    KeyTyped context options s column type := by
  unfold keyType at h
  refine ⟨fun t ht => ?_, fun hunknown => ?_⟩
  · rw [Side.within_eq_some_iff.mpr ht] at h hsound
    obtain ⟨c, hc⟩ := get?_of_absentColumn? hsound
    rw [Option.bind_some, hc] at h
    exact ⟨c, hc, h⟩
  · rw [Side.within_eq_none_iff.mpr hunknown] at h
    exact Except.ok.inj (h.symm.trans (outcome_bareType_uuid options))

end Emit

/-! ## Junctions -/

/-- The entries in the body of a junction: its two key columns, its
further columns and its primary key. -/
def junctionEntries (r : Relationship) (j : Junction) (localType foreignType : String)
    (extras : List String) : List String :=
  [s!"{j.localColumn} {localType} NOT NULL REFERENCES " ++
    s!"{r.localSide.name}({r.foreignKey.localColumn}) ON DELETE CASCADE",
  s!"{j.foreignColumn} {foreignType} NOT NULL REFERENCES " ++
    s!"{r.foreignSide.name}({r.foreignKey.foreignColumn}) ON DELETE CASCADE"] ++
  extras ++ [s!"PRIMARY KEY ({j.localColumn}, {j.foreignColumn})"]

/-- The lines of a junction: a comment, the table, and an index for each
key column. -/
def junctionLines (r : Relationship) (j : Junction) (localType foreignType : String)
    (extras : List String) : List String := [
  s!"-- Many-to-many relationship: {r.localSide.name} <-> {r.foreignSide.name} via {j.name}",
  s!"CREATE TABLE {j.name} (",
  ",\n".intercalate ((junctionEntries r j localType foreignType extras).map ("  " ++ ·)),
  ");",
  "",
  "-- Indexes for performance",
  s!"CREATE INDEX {indexName j.name j.localColumn} ON {j.name}({j.localColumn});",
  s!"CREATE INDEX {indexName j.name j.foreignColumn} ON {j.name}({j.foreignColumn});"]

/-- The names of the columns of a junction differ where it has no
defect. -/
theorem columnNames_nodup {relationship : String} {j : Junction}
    (h : junctionDefect? relationship j = none) :
    (j.localColumn :: j.foreignColumn :: j.extras.names).Nodup := by
  obtain ⟨hkeys, hextras⟩ := not_or.mp (junctionDefect?_eq_none_iff.mp h)
  have hapart : ∀ n ∈ j.extras.names, n ≠ j.localColumn ∧ n ≠ j.foreignColumn := by
    simpa [List.any_eq_true] using hextras
  refine List.nodup_cons.mpr ⟨?_, List.nodup_cons.mpr ⟨fun hmem => (hapart _ hmem).2 rfl,
    j.extras.distinct⟩⟩
  rintro hmem
  rcases List.mem_cons.mp hmem with heq | hmem
  · exact hkeys heq
  · exact (hapart _ hmem).1 rfl

namespace Emit

/-- A key column in the body of a junction. -/
theorem KeyColumn.text_eq (c : KeyColumn) :
    c.text = s!"{c.name} {c.type} NOT NULL REFERENCES " ++
      s!"{c.foreignTable}({c.foreignColumn}) ON DELETE CASCADE" := by
  have hend : ") ON DELETE CASCADE" = ") " ++ "ON DELETE CASCADE" := rfl
  simp only [KeyColumn.text, hend, String.append_assoc, toString]

end Emit

/-- The table of the junction of a relationship. -/
def junctionTable (r : Relationship) (j : Junction) (localType foreignType : String)
    (extras : List (String × String)) : CreateJunction where
  name := j.name
  localKey := ⟨j.localColumn, localType, r.localSide.name, r.foreignKey.localColumn⟩
  foreignKey := ⟨j.foreignColumn, foreignType, r.foreignSide.name, r.foreignKey.foreignColumn⟩
  extras := extras

theorem body_junctionTable (r : Relationship) (j : Junction) (localType foreignType : String)
    (extras : List (String × String)) :
    (junctionTable r j localType foreignType extras).body =
      junctionEntries r j localType foreignType (extras.map Prod.snd) := by
  have hkey : s!"PRIMARY KEY ({commas [j.localColumn, j.foreignColumn]})" =
      s!"PRIMARY KEY ({j.localColumn}, {j.foreignColumn})" := by
    simp [commas, String.append_assoc, toString]
  simp only [CreateJunction.body, CreateJunction.primaryKey, junctionTable, KeyColumn.text_eq,
    hkey, junctionEntries, List.cons_append, List.nil_append]

/-- A junction with its indexes is written in its lines. -/
theorem text_junctionTable (r : Relationship) (j : Junction) (localType foreignType : String)
    (extras : List (String × String)) :
    (Linkage.junction r.localSide.name r.foreignSide.name
      (junctionTable r j localType foreignType extras)
      [⟨j.name, j.localColumn, false⟩, ⟨j.name, j.foreignColumn, false⟩]).text =
      lines (junctionLines r j localType foreignType (extras.map Prod.snd)) := by
  simp only [Linkage.text, CreateJunction.text, lines, List.cons_append, List.nil_append]
  rw [← List.singleton_append, intercalate_nested "\n" _ (List.cons_ne_nil _ _),
    body_junctionTable]
  rfl

/-- A many-to-many relationship that is written has a junction, and is
written in the lines of it. Each key column refers to the column that the
foreign key names on its own side and has the type of that column, the
further columns stand after the keys in their order, and the columns
differ in name, as the two indexes do. -/
theorem junction_written {r : Relationship} {l : Linkage} (hm : r.relation = .known .manyToMany)
    (h : (relationship r options context).outcome = .ok l) :
    ∃ j localType foreignType extras, r.junction = some j ∧
      KeyTyped context options r.localSide r.foreignKey.localColumn localType ∧
      KeyTyped context options r.foreignSide r.foreignKey.foreignColumn foreignType ∧
      List.Forall₂ (fun e text => (Sql.definition e.1 e.2 options).outcome = .ok text)
        j.extras.entries extras ∧
      l.text = lines (junctionLines r j localType foreignType extras) ∧
      (j.localColumn :: j.foreignColumn :: j.extras.names).Nodup ∧
      indexName j.name j.localColumn ≠ indexName j.name j.foreignColumn := by
  have hsound := ((returns_relationship_iff r options context).mp ⟨l, h⟩).1
  obtain ⟨j, -, hj, heq⟩ | ⟨hne, -⟩ := relationship_of_sound hsound options
  · rw [linkDefect?_eq, hm, hj] at hsound
    obtain ⟨hjunction, hcolumns⟩ := Option.or_eq_none_iff.mp hsound
    obtain ⟨hlocal, hforeign⟩ := Option.or_eq_none_iff.mp hcolumns
    rw [heq] at h
    obtain ⟨localType, hlocalType, h⟩ := outcome_bind_ok.mp h
    obtain ⟨foreignType, hforeignType, h⟩ := outcome_bind_ok.mp h
    obtain ⟨extras, hextras, h⟩ := outcome_bind_ok.mp h
    cases h
    have hdefinitions : List.Forall₂
        (fun e p => (Sql.definition e.1 e.2 options).outcome = .ok (Prod.snd p))
        j.extras.entries extras := by
      refine forall₂_of_outcome_each hextras fun e _ p hp => ?_
      obtain ⟨text, htext, hp⟩ := outcome_bind_ok.mp hp
      cases hp
      exact htext
    have hnodup := columnNames_nodup hjunction
    refine ⟨j, localType, foreignType, extras.map Prod.snd, hj,
      keyTyped_of_keyType hlocal hlocalType, keyTyped_of_keyType hforeign hforeignType,
      List.forall₂_map_right_iff.mpr hdefinitions, text_junctionTable r j _ _ extras, hnodup,
      fun hindex => ?_⟩
    exact (List.nodup_cons.mp hnodup).1 (indexName_injective j.name hindex ▸ List.mem_cons_self)
  · exact absurd hm hne

/-- Users with a key and a handle, who follow each other by the handle. -/
def followedUsers : Table :=
  let key := Table.ofKey "users" (.plain .uuid)
  { key with columns := key.columns.put "handle" (.plain (.plain (.string (some 8)))) }

/-- Who follows whom since when. -/
def Relationship.follows : Relationship where
  name := "follows"
  relation := .known .manyToMany
  localSide := .named "users"
  foreignSide := .named "users"
  foreignKey := ⟨"id", "handle", .cascade, .cascade, true, false, none⟩
  junction := some
    ⟨"follows", "follower_id", "followee", Keyed.empty.put "since" (.plain (.plain .date))⟩
  description := none

/-- Of a table that is both sides, each key takes the type of its own
column. -/
theorem junction_written_follows :
    ∃ j l, Relationship.follows.junction = some j ∧
      (relationship .follows none (some followedUsers)).outcome = .ok l ∧
      l.text = lines (junctionLines .follows j "UUID" "VARCHAR(8)" ["since DATE NOT NULL"]) := by
  obtain ⟨l, hl⟩ : ∃ l, (relationship .follows none (some followedUsers)).outcome = .ok l :=
    ⟨_, rfl⟩
  obtain ⟨j, localType, foreignType, extras, hj, hlocal, hforeign, hextras, htext, -⟩ :=
    junction_written rfl hl
  have hknown : Side.Known (some followedUsers) (.named "users") followedUsers := .owner rfl
  obtain ⟨_, hc, hlocal⟩ := hlocal.1 _ hknown
  cases hc
  cases hlocal
  obtain ⟨_, hc, hforeign⟩ := hforeign.1 _ hknown
  cases hc
  cases hforeign
  cases hj
  cases hextras with
  | cons hsince hrest =>
    cases hsince
    cases hrest
    exact ⟨_, l, rfl, hl, htext⟩

end Polyschema
