/-
Polyschema.Proofs.Interpret — text is put together in one way, whatever
becomes of the losses.

* `Emitting.Hom` — what turns work of one kind into work of another and
  keeps its steps: results, sequence, losses and failures.
* `map_each`, `map_base`, … — such a thing turns the text of one dialect
  into itself, function by function.
* `map_tableWith`, `map_relationship` — so it does with tables and
  relationships.
-/
import Polyschema.Emit.Relationship
import Polyschema.Emit.Schema

namespace Polyschema

open Polyschema.Text

/-- A translation of work of one kind into work of another, step by step. -/
structure Emitting.Hom (M N : Type → Type) [Emitting M] [Emitting N] where
  toFun : {α : Type} → M α → N α
  map_pure : ∀ {α : Type} (a : α), toFun (pure a : M α) = pure a
  map_bind : ∀ {α β : Type} (m : M α) (k : α → M β),
    toFun (m >>= k) = toFun m >>= fun a => toFun (k a)
  map_losses : ∀ ls, toFun (losses ls) = losses ls
  map_ofExcept : ∀ {α : Type} (r : Except Fault α), toFun (ofExcept r) = ofExcept r

namespace Emitting.Hom

variable {M N : Type → Type} [Emitting M] [Emitting N] {α β : Type} (h : Hom M N)

attribute [simp] map_pure map_bind map_losses map_ofExcept

/-! ## Steps -/

@[simp] theorem map_note (l : Loss) : h.toFun (note l) = note l := h.map_losses [l]

@[simp] theorem map_noteWhen (condition : Bool) (l : Loss) :
    h.toFun (noteWhen condition l) = noteWhen condition l := by
  cases condition <;> simp [noteWhen]

@[simp] theorem map_fail (f : Fault) : h.toFun (fail f : M α) = fail f := h.map_ofExcept _

@[simp] theorem map_ofDefect (r : Except Defect α) : h.toFun (ofDefect r) = ofDefect r :=
  h.map_ofExcept _

/-- Work on a list is translated item by item. -/
theorem map_each {f : α → M β} {g : α → N β} (hfg : ∀ a, h.toFun (f a) = g a) (l : List α) :
    h.toFun (Noted.each f l) = Noted.each g l := by
  induction l with
  | nil => simp [Noted.each]
  | cons a rest ih => simp [Noted.each, hfg, ih]

/-- Work in sequence is translated part by part. -/
theorem bind_congr {m : M α} {m' : N α} {k : α → M β} {k' : α → N β} (hm : h.toFun m = m')
    (hk : ∀ a, h.toFun (k a) = k' a) : h.toFun (m >>= k) = m' >>= k' := by
  rw [h.map_bind, hm]
  exact congrArg _ (funext hk)

/-! ## Fragments and defaults -/

open Emit

@[simp] theorem map_base (t : ColumnType) (d : Dialect) (name : String)
    (options : Option Variant) (fallback : String) :
    h.toFun (base t d name options fallback) = base t d name options fallback := by
  unfold base
  split <;> simp

@[simp] theorem map_storedDefault (t : ColumnType) (value : Value) (column : String) :
    h.toFun (storedDefault t value column) = storedDefault t value column := by
  refine h.bind_congr (h.map_ofExcept _) fun accepted => ?_
  split <;> simp

@[simp] theorem map_expressionOr (expression : Option String) (t : ColumnType)
    (column : String) (place : DefaultPlace) :
    h.toFun (expressionOr expression t column place) = expressionOr expression t column place := by
  cases expression <;> simp [expressionOr]

/-! ## SQL -/

@[simp] theorem map_defaultClause (t : ColumnType) (name : String) (setting : Setting)
    (v : Variant) :
    h.toFun (Sql.defaultClause t name setting v) = Sql.defaultClause t name setting v := by
  unfold Sql.defaultClause
  split
  · simp
  · refine h.bind_congr (h.map_storedDefault t _ name) fun stored => ?_
    split <;> simp

@[simp] theorem map_defaultPart (t : ColumnType) (name : String) (v : Variant) :
    h.toFun (Sql.defaultPart t name v) = Sql.defaultPart t name v := by
  unfold Sql.defaultPart
  split <;> simp

@[simp] theorem map_identityPart (t : ColumnType) (v : Variant) :
    h.toFun (Sql.identityPart t v) = Sql.identityPart t v := by
  unfold Sql.identityPart
  split
  · split <;> simp
  · simp

@[simp] theorem map_sqlColumn (t : ColumnType) (name : String) (options : Option Variant)
    (generatedAs comment : Option String) :
    h.toFun (Sql.column t name options generatedAs comment) =
      Sql.column t name options generatedAs comment := by
  simp [Sql.column, Sql.columnParts]

@[simp] theorem map_bareType (t : ColumnType) (options : Option Variant) :
    h.toFun (Sql.bareType t options) = Sql.bareType t options := by
  simp [Sql.bareType]

@[simp] theorem map_definition (name : String) (c : Column) (options : Option Variant) :
    h.toFun (Sql.definition name c options) = Sql.definition name c options :=
  h.map_sqlColumn _ name options _ _

@[simp] theorem map_createTable (t : Table) (options : Option Variant) :
    h.toFun (Sql.createTable t options) = Sql.createTable t options := by
  unfold Sql.createTable
  dsimp only
  split
  · simp
  · refine h.bind_congr (h.map_ofDefect _) fun _ => ?_
    refine h.bind_congr (h.map_each (fun e => ?_) _) fun _ => h.map_pure _
    simp [Sql.columnEntry]

/-! ## Drizzle -/

@[simp] theorem map_defaultCall (t : ColumnType) (name : String) (setting : Setting) :
    h.toFun (Drizzle.defaultCall t name setting) = Drizzle.defaultCall t name setting := by
  unfold Drizzle.defaultCall
  split
  · simp
  · refine h.bind_congr (h.map_storedDefault t _ name) fun stored => ?_
    split <;> simp

@[simp] theorem map_modifierCall (t : ColumnType) (name : String) (m : Modifier) :
    h.toFun (Drizzle.modifierCall t name m) = Drizzle.modifierCall t name m := by
  obtain ⟨kind, setting⟩ := m
  cases kind with
  | autoIncrement =>
    unfold Drizzle.modifierCall
    dsimp only
    split <;> simp
  | _ => simp [Drizzle.modifierCall]

@[simp] theorem map_drizzleColumn (t : ColumnType) (name : String) (options : Option Variant)
    (generatedAs : Option String) :
    h.toFun (Drizzle.column t name options generatedAs) =
      Drizzle.column t name options generatedAs := by
  refine h.bind_congr (h.map_base _ _ _ _ _) fun call => ?_
  exact h.bind_congr (h.map_each (h.map_modifierCall t name) _) fun _ => h.map_pure _

@[simp] theorem map_drizzleTable (t : Table) (options : Option Variant) (indexes : List Index) :
    h.toFun (Drizzle.table t options indexes) = Drizzle.table t options indexes := by
  refine h.bind_congr (h.map_ofDefect _) fun key => ?_
  refine h.bind_congr (h.map_each (fun e => ?_) _) fun _ => h.map_pure _
  simp [Drizzle.columnLines]

/-! ## Prisma -/

@[simp] theorem map_modifierAttribute (t : ColumnType) (name : String) (m : Modifier) :
    h.toFun (Prisma.modifierAttribute t name m) = Prisma.modifierAttribute t name m := by
  obtain ⟨kind, setting⟩ := m
  cases kind with
  | default =>
    simp only [Prisma.modifierAttribute, Prisma.defaultAttribute]
    split <;> simp
  | _ => simp [Prisma.modifierAttribute]

@[simp] theorem map_prismaColumn (t : ColumnType) (name : String) (options : Option Variant)
    (generatedAs : Option String) :
    h.toFun (Prisma.column t name options generatedAs) =
      Prisma.column t name options generatedAs := by
  refine h.bind_congr (h.bind_congr (h.map_base _ _ _ _ _) fun fragment => ?_) fun _ => h.map_pure _
  refine h.bind_congr (h.map_each (h.map_modifierAttribute t name) _) fun attributes => ?_
  simp

@[simp] theorem map_prismaModel (t : Table) (options : Option Variant) (indexes : List Index)
    (modelName : Option String) :
    h.toFun (Prisma.model t options indexes modelName) =
      Prisma.model t options indexes modelName := by
  refine h.bind_congr (h.map_ofDefect _) fun key => ?_
  refine h.bind_congr (h.map_each (fun e => ?_) _) fun fields => ?_
  · simp [Prisma.fieldLines]
  · refine h.bind_congr ?_ fun _ => h.map_pure _
    refine h.bind_congr (h.map_each (fun i => ?_) _) fun indexLines => ?_
    · simp [Prisma.indexAttribute]
    · refine h.bind_congr (h.map_each (fun c => ?_) _) fun _ => h.map_pure _
      simp [Prisma.checkComment]

/-! ## Convex -/

@[simp] theorem map_convexColumn (t : ColumnType) (name : String) (options : Option Variant)
    (generatedAs : Option String) :
    h.toFun (Convex.column t name options generatedAs) =
      Convex.column t name options generatedAs := by
  simp [Convex.column]

@[simp] theorem map_convexTable (t : Table) (options : Option Variant) (indexes : List Index) :
    h.toFun (Convex.table t options indexes) = Convex.table t options indexes := by
  refine h.bind_congr (h.map_ofDefect _) fun key => ?_
  refine h.bind_congr (h.map_each (fun e => ?_) _) fun members => ?_
  · simp [Convex.memberLines]
  · refine h.bind_congr (h.map_each (fun i => ?_) _) fun indexLines => ?_
    · simp [Convex.indexText]
    · simp

/-! ## Tables and relationships -/

/-- A table is put together alike in every kind of work. -/
theorem map_tableWith (t : Table) (d : Dialect) (options : Option Variant)
    (indexes : List Index) (modelName : Option String) :
    h.toFun (tableWith t d options indexes modelName) =
      tableWith t d options indexes modelName := by
  cases d <;> simp [tableWith]

theorem map_tableText (t : Table) (d : Dialect) (options : Option Variant) :
    h.toFun (tableText t d options) = tableText t d options :=
  h.map_tableWith t d options [] none

@[simp] theorem map_directLink (c : Cardinality) (r : Relationship) (options : Option Variant) :
    h.toFun (directLink c r options) = directLink c r options := by
  simp [directLink]

@[simp] theorem map_keyType (side : Option Table) (column : String) (options : Option Variant) :
    h.toFun (keyType side column options) = keyType side column options := by
  unfold keyType
  split <;> simp

@[simp] theorem map_junctionLink (j : Junction) (r : Relationship) (options : Option Variant)
    (context : Option Table) :
    h.toFun (junctionLink j r options context) = junctionLink j r options context := by
  refine h.bind_congr (h.map_keyType _ _ _) fun localType => ?_
  refine h.bind_congr (h.map_keyType _ _ _) fun foreignType => ?_
  refine h.bind_congr (h.map_each (fun e => ?_) _) fun _ => h.map_pure _
  simp

/-- So is a relationship. -/
theorem map_relationship (r : Relationship) (options : Option Variant)
    (context : Option Table) :
    h.toFun (relationship r options context) = relationship r options context := by
  unfold relationship
  split
  · simp
  · split <;> simp

end Emitting.Hom

end Polyschema
