/-
Polyschema.Proofs.Table — how the emission of a table ends.

* `failsIn_definition`, `failsIn_columnIn`, … — writing a column fails by a
  misused value or by what the caller's own functions raise, whatever its
  type and modifiers.
* `Table.defectIn?` — the defect of a table in a dialect.
* `fails_tableWith_iff` — a table fails with that defect, which is found
  before any column is written, or as its columns do.
* `stops_tableWith_iff` — where no function of the caller's own raises a
  defect, a table stops with that one and with no other.
-/
import Polyschema.Emit.Schema
import Polyschema.Proofs.Codec

namespace Polyschema

open Polyschema.Noted

/-! ## Fragments and defaults -/

namespace Kind

theorem failsIn_customFragment {spec : CustomKind} {d : Dialect} {name : String}
    {options : Option Variant} {r : Except Fault String}
    (h : CustomKind.fragment? spec d name options = some r) :
    FailsIn (Kind.custom spec).MayFail r := by
  intro f hf
  obtain ⟨write, hwrite, rfl⟩ := Option.map_eq_some_iff.mp h
  exact .inr (.write hwrite hf)

theorem failsIn_member {k : Kind} {name : String} {options : Option Variant}
    {r : Except Fault String} (h : k.member? name options = some r) : FailsIn k.MayFail r := by
  induction k generalizing r with
  | array element modifiers ih =>
    cases hm : element.member? name options with
    | none =>
      rw [member?, hm] at h
      cases h
      exact failsIn_ok _
    | some inner =>
      rw [member?, hm] at h
      cases h
      exact (ih hm).map _
  | custom spec => exact failsIn_customFragment h
  | _ =>
    cases h
    exact failsIn_ok _

/-- A fragment is a text, or what the caller's own function raises. -/
theorem failsIn_fragment {k : Kind} {d : Dialect} {name : String} {options : Option Variant}
    {r : Except Fault String} (h : k.fragment? d name options = some r) :
    FailsIn k.MayFail r := by
  by_cases hk : ∃ spec, k = .custom spec
  · obtain ⟨spec, rfl⟩ := hk
    exact failsIn_customFragment h
  · cases d with
    | convex =>
      cases k with
      | custom spec => exact absurd ⟨spec, rfl⟩ hk
      | _ => exact @failsIn_member _ name options _ h
    | _ =>
      cases k with
      | custom spec => exact absurd ⟨spec, rfl⟩ hk
      | _ =>
        cases h
        exact failsIn_ok _

end Kind

namespace Emit

theorem failsIn_base (t : ColumnType) (d : Dialect) (name : String)
    (options : Option Variant) (fallback : String) :
    FailsIn t.kind.MayFail (base t d name options fallback).outcome := by
  unfold base
  split
  next fragment h => exact Kind.failsIn_fragment h
  next => exact failsIn_ok _

theorem failsIn_storedDefault (t : ColumnType) (v : Value) (column : String) :
    FailsIn t.kind.MayFail (storedDefault t v column).outcome := by
  refine failsIn_outcome_bind (failsIn_accepts t.kind v) fun b => ?_
  cases b with
  | true => exact failsIn_serialize t.kind v
  | false => exact failsIn_ok v

theorem failsIn_expressionOr {P : Fault → Prop} (expression : Option String) (t : ColumnType)
    (column : String) (place : DefaultPlace) :
    FailsIn P (expressionOr expression t column place).outcome := by
  cases expression <;> exact failsIn_ok _

theorem failsIn_identityMode (s : Setting) : FailsIn Fault.IsMisuse (identityMode s) := by
  unfold identityMode
  split
  · exact failsIn_ok _
  · exact failsIn_ok _
  · split
    · exact failsIn_ok _
    · exact failsIn_error.mpr ⟨_, rfl⟩

/-! ## SQL -/

theorem failsIn_defaultClause (t : ColumnType) (name : String) (s : Setting)
    (v : Variant) : FailsIn t.kind.MayFail (Sql.defaultClause t name s v).outcome := by
  unfold Sql.defaultClause
  split
  · exact failsIn_outcome_bind (failsIn_expressionOr _ t name _) fun _ => failsIn_ok _
  · refine failsIn_outcome_bind (failsIn_storedDefault t _ name) fun stored => ?_
    split
    · exact failsIn_ok _
    · exact failsIn_outcome_bind ((failsIn_lift _).mayFail _) fun _ => failsIn_ok _

theorem failsIn_identityClause (s : Setting) (v : Variant) :
    FailsIn Fault.IsMisuse (Sql.identityClause s v) := by
  cases v with
  | postgres =>
    refine (failsIn_identityMode s).bind fun mode _ => ?_
    cases mode <;> exact failsIn_ok _
  | mysql => exact failsIn_ok _
  | sqlite => exact failsIn_ok _

theorem failsIn_defaultPart (t : ColumnType) (name : String) (v : Variant) :
    FailsIn t.kind.MayFail (Sql.defaultPart t name v).outcome := by
  unfold Sql.defaultPart
  split
  · exact failsIn_defaultClause t name _ v
  · exact failsIn_ok _

theorem failsIn_identityPart (t : ColumnType) (v : Variant) :
    FailsIn Fault.IsMisuse (Sql.identityPart t v).outcome := by
  unfold Sql.identityPart
  split
  · split
    · exact failsIn_identityClause _ v
    · exact failsIn_ok _
  · exact failsIn_ok _

theorem failsIn_sqlColumn (t : ColumnType) (name : String) (options : Option Variant)
    (generatedAs comment : Option String) :
    FailsIn t.kind.MayFail (Sql.column t name options generatedAs comment).outcome := by
  refine failsIn_outcome_bind ?_ fun _ => failsIn_ok _
  refine failsIn_outcome_bind (failsIn_base t .sql name options _) fun _ => ?_
  refine failsIn_outcome_bind (failsIn_defaultPart t name _) fun _ => ?_
  exact failsIn_outcome_bind ((failsIn_identityPart t _).mayFail _) fun _ => failsIn_ok _

/-- Writing a column in SQL fails as its kind may. -/
theorem failsIn_definition (name : String) (c : Column) (options : Option Variant) :
    FailsIn c.type.kind.MayFail (Sql.definition name c options).outcome := by
  rw [← c.resolved_kind]
  exact failsIn_sqlColumn c.resolved name options c.generatedAs c.comment

/-- So does the type of a key column. -/
theorem failsIn_bareType (t : ColumnType) (options : Option Variant) :
    FailsIn t.kind.MayFail (Sql.bareType t options).outcome :=
  failsIn_outcome_bind (failsIn_base t.base .sql _ options _) fun _ => failsIn_ok _

/-! ## Drizzle, Prisma and Convex -/

theorem failsIn_defaultCall (t : ColumnType) (name : String) (s : Setting) :
    FailsIn t.kind.MayFail (Drizzle.defaultCall t name s).outcome := by
  unfold Drizzle.defaultCall
  split
  · exact failsIn_outcome_bind (failsIn_expressionOr _ t name _) fun _ => failsIn_ok _
  · refine failsIn_outcome_bind (failsIn_storedDefault t _ name) fun stored => ?_
    split
    · exact failsIn_ok _
    · exact failsIn_outcome_bind ((failsIn_lift _).mayFail _) fun _ => failsIn_ok _

theorem failsIn_modifierCall (t : ColumnType) (name : String) (m : Modifier) :
    FailsIn t.kind.MayFail (Drizzle.modifierCall t name m).outcome := by
  unfold Drizzle.modifierCall
  split
  · exact failsIn_ok _
  · exact failsIn_ok _
  · exact failsIn_ok _
  · exact failsIn_defaultCall t name m.setting
  · split
    · exact failsIn_outcome_bind ((failsIn_identityMode m.setting).mayFail _) fun _ =>
        failsIn_ok _
    · exact failsIn_ok _

theorem failsIn_drizzleColumn (t : ColumnType) (name : String)
    (options : Option Variant) (generatedAs : Option String) :
    FailsIn t.kind.MayFail (Drizzle.column t name options generatedAs).outcome := by
  refine failsIn_outcome_bind (failsIn_base t .drizzle name options _) fun _ => ?_
  exact failsIn_outcome_bind (failsIn_each fun m _ => failsIn_modifierCall t name m)
    fun _ => failsIn_ok _

theorem failsIn_defaultAttribute (t : ColumnType) (name : String) (s : Setting) :
    FailsIn t.kind.MayFail (Prisma.defaultAttribute t name s).outcome := by
  unfold Prisma.defaultAttribute
  split
  · exact failsIn_expressionOr _ t name _
  · refine failsIn_outcome_bind (failsIn_storedDefault t _ name) fun stored => ?_
    exact failsIn_outcome_bind ((failsIn_lift _).mayFail _) fun _ => failsIn_ok _

theorem failsIn_modifierAttribute (t : ColumnType) (name : String) (m : Modifier) :
    FailsIn t.kind.MayFail (Prisma.modifierAttribute t name m).outcome := by
  obtain ⟨kind, setting⟩ := m
  cases kind with
  | default => exact failsIn_defaultAttribute t name setting
  | _ => exact failsIn_ok _

theorem failsIn_prismaColumn (t : ColumnType) (name : String)
    (options : Option Variant) (generatedAs : Option String) :
    FailsIn t.kind.MayFail (Prisma.column t name options generatedAs).outcome := by
  refine failsIn_outcome_bind ?_ fun _ => failsIn_ok _
  refine failsIn_outcome_bind (failsIn_base t .prisma name options _) fun _ => ?_
  refine failsIn_outcome_bind (failsIn_each fun m _ => failsIn_modifierAttribute t name m)
    fun _ => ?_
  exact failsIn_outcome_bind (failsIn_of_returns (returns_noteWhen _ _)) fun _ =>
    failsIn_ok _

theorem failsIn_convexColumn (t : ColumnType) (name : String)
    (options : Option Variant) (generatedAs : Option String) :
    FailsIn t.kind.MayFail (Convex.column t name options generatedAs).outcome :=
  failsIn_outcome_bind (failsIn_base t .convex name options _) fun _ => failsIn_ok _

/-! ## A column of a table -/

/-- The text of a column in a table with a key. -/
def columnIn (d : Dialect) (key : List String) (options : Option Variant)
    (name : String) (c : Column) : Emission String :=
  match d with
  | .sql => Sql.definition name c options
  | .drizzle => Drizzle.column (keyedType name c key) name options c.generatedAs
  | .prisma => Prisma.column (keyedType name c key) name options c.generatedAs
  | .convex => Convex.column (keyedType name c key) name options c.generatedAs

theorem keyedType_kind (name : String) (c : Column) (key : List String) :
    (keyedType name c key).kind = c.type.kind :=
  Column.resolved_kind _

/-- Writing a column fails as its kind may. -/
theorem failsIn_columnIn (d : Dialect) (key : List String) (options : Option Variant)
    (name : String) (c : Column) :
    FailsIn c.type.kind.MayFail (columnIn d key options name c).outcome := by
  cases d with
  | sql => exact failsIn_definition name c options
  | drizzle =>
    rw [← keyedType_kind name c key]
    exact failsIn_drizzleColumn _ name options c.generatedAs
  | prisma =>
    rw [← keyedType_kind name c key]
    exact failsIn_prismaColumn _ name options c.generatedAs
  | convex =>
    rw [← keyedType_kind name c key]
    exact failsIn_convexColumn _ name options c.generatedAs

end Emit

/-! ## Tables -/

/-- The defect with which a table stops in a dialect. SQL needs a key
that the table itself declares. -/
def Table.defectIn? (t : Table) (d : Dialect) : Option Defect :=
  if d = .sql ∧ t.primaryKey = [] then some (.noTableKey t.name)
  else match t.resolveKey with
    | .error x => some x
    | .ok _ => none

theorem Table.defectIn?_eq_some_iff {t : Table} {d : Dialect} {x : Defect}
    (h : ¬ (d = .sql ∧ t.primaryKey = [])) :
    t.defectIn? d = some x ↔ t.resolveKey = .error x := by
  unfold Table.defectIn?
  rw [if_neg h]
  cases t.resolveKey <;> simp

theorem Table.defectIn?_sql_of_empty {t : Table} (h : t.primaryKey = []) :
    t.defectIn? .sql = some (.noTableKey t.name) :=
  if_pos ⟨rfl, h⟩

/-- A table has no defect in a dialect exactly where its key resolves
and, for SQL, is declared by the table. -/
theorem Table.defectIn?_eq_none_iff {t : Table} {d : Dialect} :
    t.defectIn? d = none ↔
      (∃ key, t.resolveKey = .ok key) ∧ (d = .sql → t.primaryKey ≠ []) := by
  unfold Table.defectIn?
  split
  case isTrue h => simp [h]
  case isFalse h =>
    have hd : d = .sql → t.primaryKey ≠ [] := fun hd hk => h ⟨hd, hk⟩
    cases t.resolveKey with
    | error x => simp
    | ok key => simpa using hd

namespace Emit

/-- Writing the block attributes of a model returns. -/
theorem returns_blockLines (t : Table) (key : List String) (indexes : List Index) :
    (Prisma.blockLines t key indexes).Returns := by
  have hi : (each Prisma.indexAttribute indexes).Returns :=
    returns_each.mpr fun i _ =>
      (returns_bind_of_returns fun _ => returns_pure _).mpr (returns_noteWhen _ _)
  have hc : (each (Prisma.checkComment t.name) t.checks).Returns :=
    returns_each.mpr fun c _ => ⟨_, rfl⟩
  obtain ⟨is, his⟩ := hi
  obtain ⟨cs, hcs⟩ := hc
  exact returns_bind.mpr ⟨is, his, returns_bind.mpr ⟨cs, hcs, returns_pure _⟩⟩

theorem returns_convexIndexes (indexes : List Index) :
    (each Convex.indexText indexes).Returns :=
  returns_each.mpr fun _ _ =>
    (returns_bind_of_returns fun _ => returns_pure _).mpr (returns_noteWhen _ _)

/-! ## The ending of a table -/

/-- A fault of a table that comes from its columns, once its key is
resolved. -/
def ColumnFails (t : Table) (d : Dialect) (options : Option Variant) (f : Fault) : Prop :=
  ∃ key, t.resolveKey = .ok key ∧
    (each (fun e => columnIn d key options e.1 e.2) t.columns.entries).Fails f

/-- A table whose key is resolved before its columns are written fails where
the key does not resolve, or as its columns do. -/
theorem fails_columns_iff {β γ : Type} {t : Table} {d : Dialect} {options : Option Variant}
    {work : List String → String × Column → Emission β}
    {rest : List String → List β → Emission γ}
    (hwork : ∀ key e f, (work key e).Fails f ↔ (columnIn d key options e.1 e.2).Fails f)
    (hrest : ∀ key bs, (rest key bs).Returns) (f : Fault) :
    (ofDefect t.resolveKey >>= fun key =>
      each (work key) t.columns.entries >>= rest key).Fails f ↔
    (∃ x, t.resolveKey = .error x ∧ f = .defect x) ∨ ColumnFails t d options f := by
  rw [fails_ofDefect_bind]
  refine or_congr_right (exists_congr fun key => and_congr_right fun _ => ?_)
  rw [fails_bind_of_returns (hrest key)]
  exact fails_each_congr (hwork key)

theorem createTable_of_declared {t : Table} (h : t.primaryKey ≠ [])
    (options : Option Variant) :
    Sql.createTable t options = (ofDefect t.resolveKey >>= fun _ =>
      each (fun e => Sql.columnEntry options e.1 e.2) t.columns.entries >>= fun columns =>
      pure {
        name := t.name
        before := (Sql.givenWhen (Variant.ofOptions options == .sqlite) t.comment).toList.map
          fun c => s!"-- {c}"
        entries := columns ++ .primaryKey t.primaryKey ::
          (t.uniques.map .unique ++ t.checks.map .check)
        closing := Sql.closingLine (Variant.ofOptions options) t.comment
        after := if Variant.ofOptions options = .postgres then Sql.commentStatements t
          else [] }) := by
  unfold Sql.createTable
  rw [if_neg (by simpa using h)]
  rfl

theorem createTable_of_undeclared {t : Table} (h : t.primaryKey = [])
    (options : Option Variant) :
    Sql.createTable t options = fail (.defect (.noTableKey t.name)) := by
  unfold Sql.createTable
  rw [if_pos (by simpa using h)]
  rfl

theorem fails_columnEntry_iff (options : Option Variant) (key : List String)
    (e : String × Column) (x : Fault) :
    (Sql.columnEntry options e.1 e.2).Fails x ↔ (columnIn .sql key options e.1 e.2).Fails x :=
  fails_bind_of_returns fun _ => returns_pure _

/-- A table that has no declared key to look for fails with its defect in
the dialect, or as its columns do. -/
theorem fails_of_declared {t : Table} {d : Dialect} {options : Option Variant}
    (h : ¬ (d = .sql ∧ t.primaryKey = [])) {f : Fault} :
    (∃ x, t.resolveKey = .error x ∧ f = .defect x) ∨ ColumnFails t d options f ↔
      (∃ x, t.defectIn? d = some x ∧ f = .defect x) ∨
      t.defectIn? d = none ∧ ColumnFails t d options f := by
  simp only [Table.defectIn?_eq_some_iff h]
  refine or_congr_right ⟨fun hf => ⟨?_, hf⟩, fun hf => hf.2⟩
  exact Table.defectIn?_eq_none_iff.mpr ⟨⟨_, hf.choose_spec.1⟩, fun hd hp => h ⟨hd, hp⟩⟩

/-- A table in SQL fails with its defect there, or as its columns do. -/
theorem fails_createTable_iff (t : Table) (options : Option Variant) (f : Fault) :
    (Sql.createTable t options).Fails f ↔
      (∃ x, t.defectIn? .sql = some x ∧ f = .defect x) ∨
      t.defectIn? .sql = none ∧ ColumnFails t .sql options f := by
  by_cases h : t.primaryKey = []
  · rw [createTable_of_undeclared h, Table.defectIn?_sql_of_empty h]
    constructor
    · intro hf
      exact .inl ⟨_, rfl, (Except.error.inj hf).symm⟩
    · rintro (⟨x, hx, rfl⟩ | ⟨hn, _⟩)
      · cases hx
        rfl
      · cases hn
  · rw [createTable_of_declared h, ← fails_of_declared fun hd => h hd.2]
    exact fails_columns_iff (fun key e f => fails_columnEntry_iff options key e f)
      (fun _ _ => returns_pure _) f

/-- In SQL a table is the text of its statement. -/
theorem tableWith_sql_eq (t : Table) (options : Option Variant) (indexes : List Index)
    (modelName : Option String) :
    tableWith t .sql options indexes modelName =
      (Sql.CreateTable.text <$> Sql.createTable t options : Emission String) := by
  rw [map_eq_pure_bind]
  rfl

/-- The shape of a table in the dialects that write the key at its
columns. -/
theorem tableWith_eq (t : Table) {d : Dialect} (hd : d ≠ .sql) (options : Option Variant)
    (indexes : List Index) (modelName : Option String) :
    ∃ (f : List String → String × Column → Emission (List String))
      (k : List String → List (List String) → Emission String),
      (∀ key e x, (f key e).Fails x ↔ (columnIn d key options e.1 e.2).Fails x) ∧
      (∀ key bs, (k key bs).Returns) ∧
      tableWith t d options indexes modelName =
        ofDefect t.resolveKey >>= fun key => each (f key) t.columns.entries >>= k key := by
  cases d with
  | sql => exact absurd rfl hd
  | drizzle =>
    refine ⟨fun key e => Drizzle.columnLines key options e.1 e.2, _, ?_, ?_, rfl⟩
    · exact fun key e x => fails_bind_of_returns fun _ => returns_pure _
    · exact fun key bs => returns_pure _
  | prisma =>
    refine ⟨fun key e => Prisma.fieldLines key options e.1 e.2, _, ?_, ?_, rfl⟩
    · exact fun key e x => fails_bind_of_returns fun _ => returns_pure _
    · exact fun key bs =>
        (returns_bind_of_returns fun _ => returns_pure _).mpr (returns_blockLines t key indexes)
  | convex =>
    refine ⟨fun key e => Convex.memberLines key options e.1 e.2, _, ?_, ?_, rfl⟩
    · exact fun key e x => fails_bind_of_returns fun _ => returns_pure _
    · intro key bs
      exact (returns_bind_of_returns fun _ =>
        (returns_bind_of_returns fun _ => returns_pure _).mpr ⟨(), rfl⟩).mpr
          (returns_convexIndexes indexes)

/-- A table fails with its defect in the dialect, which is found before any
column is written, or as its columns do. -/
theorem fails_tableWith_iff (t : Table) (d : Dialect) (options : Option Variant)
    (indexes : List Index) (modelName : Option String) (f : Fault) :
    (tableWith t d options indexes modelName).Fails f ↔
      (∃ x, t.defectIn? d = some x ∧ f = .defect x) ∨
      t.defectIn? d = none ∧ ColumnFails t d options f := by
  by_cases hd : d = .sql
  · subst hd
    exact (fails_bind_of_returns fun _ => returns_pure _).trans
      (fails_createTable_iff t options f)
  · obtain ⟨work, rest, hwork, hrest, h⟩ := tableWith_eq t hd options indexes modelName
    rw [h, ← fails_of_declared fun h => hd h.1]
    exact fails_columns_iff hwork hrest f

/-- A table is written where it has no defect and its columns do not
fail. -/
theorem returns_tableWith_iff (t : Table) (d : Dialect) (options : Option Variant)
    (indexes : List Index) (modelName : Option String) :
    (tableWith t d options indexes modelName).Returns ↔
      t.defectIn? d = none ∧ ∀ f, ¬ ColumnFails t d options f := by
  simp only [returns_iff_not_fails, fails_tableWith_iff]
  cases t.defectIn? d <;> simp

end Emit

/-! ## Tables and the functions of their columns -/

/-- A fault that leaves a function of the caller's own on the columns of a
table. -/
def Table.Raises (t : Table) (f : Fault) : Prop :=
  ∃ e ∈ t.columns.entries, e.2.type.kind.Raises f

/-- No such function raises a fault of some sort. -/
def Table.Avoids (t : Table) (P : Fault → Prop) : Prop := ∀ f, t.Raises f → ¬ P f

/-- What is met where functions avoid some faults is none of these, if
misused values are none of them. -/
theorem Fault.not_of_avoids {P R : Fault → Prop} (hP : ∀ m, ¬ P (.misuse m))
    (hR : ∀ f, R f → ¬ P f) {f : Fault} (h : f.IsMisuse ∨ R f) : ¬ P f := by
  rcases h with ⟨m, rfl⟩ | h
  · exact hP m
  · exact hR f h

theorem Fault.not_isDefect_misuse (m : Misuse) : ¬ (Fault.misuse m).IsDefect :=
  (Fault.isMisuse_misuse m).not_isDefect

namespace Emit

section

variable {t : Table} {d : Dialect} {options : Option Variant}

/-- A column of a table fails by a misused value, or by what the functions
of the table raise. -/
theorem failsIn_entry {e : String × Column} (he : e ∈ t.columns.entries) (d : Dialect)
    (key : List String) (options : Option Variant) :
    FailsIn (fun f => f.IsMisuse ∨ t.Raises f) (columnIn d key options e.1 e.2).outcome :=
  (failsIn_columnIn d key options e.1 e.2).mono fun _ => Or.imp_right fun h => ⟨e, he, h⟩

/-- So do its columns together. -/
theorem ColumnFails.misuse_or_raised {f : Fault} (h : ColumnFails t d options f) :
    f.IsMisuse ∨ t.Raises f := by
  obtain ⟨key, _, hf⟩ := h
  exact failsIn_each (fun e he => failsIn_entry he d key options) f hf

/-- A column of a table lets a fault escape once the key is resolved. -/
def ColumnEscapes (t : Table) (d : Dialect) (options : Option Variant) : Prop :=
  ∃ key, t.resolveKey = .ok key ∧
    ∃ e ∈ t.columns.entries, (columnIn d key options e.1 e.2).Escapes

/-- What fails as a table does stops with its defect and with no other,
where the functions of its columns raise none. -/
theorem stops_iff_of_fails {α : Type} {m : Emission α} (ht : t.Avoids Fault.IsDefect)
    (h : ∀ f, m.Fails f ↔ (∃ x, t.defectIn? d = some x ∧ f = .defect x) ∨
      t.defectIn? d = none ∧ ColumnFails t d options f) (x : Defect) :
    m.Stops x ↔ t.defectIn? d = some x := by
  rw [Stops, h]
  constructor
  · rintro (⟨y, hy, heq⟩ | ⟨_, hf⟩)
    · cases heq
      exact hy
    · exact absurd ⟨x, rfl⟩ (Fault.not_of_avoids Fault.not_isDefect_misuse ht hf.misuse_or_raised)
  · exact fun hx => .inl ⟨x, hx, rfl⟩

/-- There, a fault escapes from it where it has no defect and one of its
columns lets a fault escape. -/
theorem escapes_iff_of_fails {α : Type} {m : Emission α} (ht : t.Avoids Fault.IsDefect)
    (h : ∀ f, m.Fails f ↔ (∃ x, t.defectIn? d = some x ∧ f = .defect x) ∨
      t.defectIn? d = none ∧ ColumnFails t d options f) :
    m.Escapes ↔ t.defectIn? d = none ∧ ColumnEscapes t d options := by
  have hcolumns : ∀ key, (∃ e ∈ t.columns.entries, (columnIn d key options e.1 e.2).Escapes) ↔
      (each (fun e => columnIn d key options e.1 e.2) t.columns.entries).Escapes := by
    intro key
    refine (escapes_each_of_not_stops fun e he => ?_).symm
    exact not_stops_of_failsIn (failsIn_entry he d key options) fun f =>
      Fault.not_of_avoids Fault.not_isDefect_misuse ht
  simp only [ColumnEscapes, hcolumns]
  unfold Escapes
  simp only [h]
  constructor
  · rintro ⟨f, hn, ⟨x, _, rfl⟩ | ⟨hnone, key, hkey, hf⟩⟩
    · cases hn
    · exact ⟨hnone, key, hkey, f, hn, hf⟩
  · rintro ⟨hnone, key, hkey, f, hn, hf⟩
    exact ⟨f, hn, .inr ⟨hnone, key, hkey, hf⟩⟩

end

/-- A table stops in a dialect with its defect there, and with no other,
where the functions of its columns raise none. -/
theorem stops_tableWith_iff {t : Table} (ht : t.Avoids Fault.IsDefect) (d : Dialect)
    (options : Option Variant) (indexes : List Index) (modelName : Option String)
    (x : Defect) :
    (tableWith t d options indexes modelName).Stops x ↔ t.defectIn? d = some x :=
  stops_iff_of_fails ht (fails_tableWith_iff t d options indexes modelName) x

/-- There, a fault escapes from it where it has no defect and one of its
columns lets a fault escape. -/
theorem escapes_tableWith_iff {t : Table} (ht : t.Avoids Fault.IsDefect) (d : Dialect)
    (options : Option Variant) (indexes : List Index) (modelName : Option String) :
    (tableWith t d options indexes modelName).Escapes ↔
      t.defectIn? d = none ∧ ColumnEscapes t d options :=
  escapes_iff_of_fails ht (fails_tableWith_iff t d options indexes modelName)

end Emit

end Polyschema
