/-
Polyschema.Proofs.Default — when the default of a column can be written.

* `fragment?_of_registered` — a registered kind has a fragment in every
  dialect, so only its default can keep a column from being written.
* `ColumnType.Settles` — the defaults that a type can take, or turn down
  and write as they are.
* `returns_columnIn_iff` — a column of a registered kind is written
  exactly where its type settles its default; Convex writes none.
-/
import Polyschema.Proofs.Layout

namespace Polyschema

open Polyschema.Noted

/-! ## Fragments -/

namespace Kind

theorem member?_of_registered {k : Kind} (hk : k.Registered) (name : String)
    (options : Option Variant) : ∃ text, k.member? name options = some (.ok text) := by
  induction k with
  | custom spec => cases hk
  | array element modifiers ih =>
    obtain ⟨text, ht⟩ := ih hk
    exact ⟨_, by rw [member?, ht]; rfl⟩
  | _ => exact ⟨_, rfl⟩

/-- A registered kind has a fragment in every dialect. -/
theorem fragment?_of_registered {k : Kind} (hk : k.Registered) (d : Dialect)
    (name : String) (options : Option Variant) :
    ∃ text, k.fragment? d name options = some (.ok text) := by
  cases d with
  | convex =>
    cases k with
    | custom spec => cases hk
    | _ => exact member?_of_registered hk name options
  | _ =>
    cases k with
    | custom spec => cases hk
    | _ => exact ⟨_, rfl⟩

/-- A built-in kind has a fragment in every dialect but perhaps Convex,
where a list is written with its items. -/
theorem BuiltIn.fragment? {k : Kind} (hk : k.BuiltIn) {d : Dialect} (hd : d ≠ .convex)
    (name : String) (options : Option Variant) :
    ∃ text, k.fragment? d name options = some (.ok text) := by
  cases d with
  | convex => exact absurd rfl hd
  | _ =>
    cases k with
    | custom spec => exact absurd rfl (hk spec)
    | _ => exact ⟨_, rfl⟩

end Kind

/-! ## Registered columns -/

/-- A column of a registered kind whose type has no modifiers of its
own. -/
structure Column.Registered (c : Column) : Prop where
  kind : c.type.kind.Registered
  bare : c.type.modifiers = []

/-! ## Settled defaults -/

/-- A default that a type can take, or turn down and write as it is; one
that is to become an expression needs neither. -/
def ColumnType.Settles (t : ColumnType) (v : Value) : Prop :=
  v = .generator ∨ t.accepts v = .ok true ∨ t.accepts v = .ok false ∧ v.writable = true

/-- A column whose type settles its default, if it has one. -/
def Column.Settled (c : Column) : Prop := ∀ v, c.default = some v → c.type.Settles v

namespace Emit

/-- A registered kind is written without a loss. -/
theorem base_eq_done {t : ColumnType} (ht : t.kind.Registered) (d : Dialect) (name : String)
    (options : Option Variant) (fallback : String) :
    ∃ text, base t d name options fallback = .done text := by
  obtain ⟨text, h⟩ := Kind.fragment?_of_registered ht d name options
  exact ⟨text, by rw [base, h]; rfl⟩

theorem returns_base {t : ColumnType} (ht : t.kind.Registered) (d : Dialect)
    (name : String) (options : Option Variant) (fallback : String) :
    (base t d name options fallback).Returns := by
  obtain ⟨text, h⟩ := base_eq_done ht d name options fallback
  exact ⟨text, congrArg Noted.outcome h⟩

theorem returns_expressionOr (expression : Option String) (t : ColumnType)
    (column : String) (place : DefaultPlace) :
    (expressionOr expression t column place).Returns := by
  cases expression <;> exact ⟨_, rfl⟩

/-- An accepted default is stored without a loss. -/
theorem storedDefault_eq_done {t : ColumnType} {v stored : Value} (ha : t.accepts v = .ok true)
    (hs : t.serialize v = .ok stored) (column : String) :
    storedDefault t v column = .done stored := by
  unfold storedDefault
  rw [ha, hs]
  rfl

/-- A default has a stored form that can be written where its type
settles it. -/
theorem storedDefault_ok_iff {t : ColumnType} (ht : t.kind.Registered) {v : Value}
    (hv : v ≠ .generator) (column : String) :
    (∃ s, (storedDefault t v column).outcome = .ok s ∧ s.writable = true) ↔
      t.Settles v := by
  have hout : (storedDefault t v column).outcome = t.accepts v >>= fun b =>
      if b then t.serialize v else .ok v := by
    unfold storedDefault
    rw [outcome_bind]
    refine congrArg _ (funext fun b => ?_)
    cases b <;> rfl
  rw [hout]
  unfold ColumnType.Settles
  cases h : t.accepts v with
  | error f => simp [bind, Except.bind, hv]
  | ok b =>
    cases b with
    | false => simp [bind, Except.bind, hv]
    | true =>
      obtain ⟨s, hs, hp⟩ := serialize_of_accepts ht h
      exact ⟨fun _ => .inr (.inl rfl), fun _ => ⟨s, hs, Value.writable_of_plain hp⟩⟩

/-- Work on the stored form of a default that goes well exactly where
the form can be written. -/
theorem returns_storedDefault_bind {β : Type} {t : ColumnType} (ht : t.kind.Registered)
    {v : Value} (hv : v ≠ .generator) (column : String) {k : Value → Emission β}
    (hk : ∀ s, (k s).Returns ↔ s.writable = true) :
    (storedDefault t v column >>= k).Returns ↔ t.Settles v := by
  rw [returns_bind, ← storedDefault_ok_iff ht hv column]
  simp only [hk]

theorem returns_literal {β : Type} {r : Except Misuse String} {g : String → β} :
    (Noted.ofExcept (Misuse.lift r) >>= fun s => (pure (g s) : Emission β)).Returns ↔
      ∃ text, r = .ok text := by
  rw [returns_bind_of_returns fun _ => returns_pure _]
  cases r with
  | ok s => exact ⟨fun _ => ⟨s, rfl⟩, fun _ => ⟨s, rfl⟩⟩
  | error m => exact ⟨fun ⟨_, h⟩ => (nomatch h), fun ⟨_, h⟩ => (nomatch h)⟩

/-- Work on the default of a column that goes well where the type settles
it. -/
theorem returns_onDefault_iff {c : Column} {β : Type} {f : Setting → Emission β}
    (hf : ∀ v, (f (.data v)).Returns ↔ c.type.Settles v) :
    (c.onDefault f).Returns ↔ c.Settled := by
  unfold Column.onDefault Column.Settled
  cases c.default with
  | none => exact ⟨fun _ => nofun, fun _ => returns_pure _⟩
  | some v => simpa using returns_map.trans (hf v)

/-! ## Columns in SQL -/

theorem returns_defaultClause_iff {t : ColumnType} (ht : t.kind.Registered)
    (name : String) (v : Value) (variant : Variant) :
    (Sql.defaultClause t name (.data v) variant).Returns ↔ t.Settles v := by
  unfold Sql.defaultClause
  split
  next h =>
    exact ⟨fun _ => .inl h, fun _ => (returns_bind_of_returns fun _ => returns_pure _).mpr
      (returns_expressionOr _ t name _)⟩
  next h =>
    refine returns_storedDefault_bind ht h name fun s => ?_
    split
    · exact ⟨fun _ => rfl, fun _ => returns_pure _⟩
    · exact returns_literal.trans (Value.sqlLiteral_ok_iff _)

/-- A column of a registered kind is written in SQL where its default is
settled. -/
theorem returns_definition_iff {c : Column} (hc : c.Registered) (name : String)
    (options : Option Variant) :
    (Sql.definition name c options).Returns ↔ c.Settled := by
  obtain ⟨fragment, hbase⟩ := base_eq_done hc.kind .sql name options (name ++ " TEXT")
  have hdefault := returns_onDefault_iff (c := c)
    (f := fun setting => Sql.defaultClause c.type name setting (Variant.ofOptions options))
    fun v => returns_defaultClause_iff hc.kind name v _
  rw [definition_eq hc.bare, ← hdefault]
  unfold Sql.laidOut Sql.clauses
  rw [hbase, done_bind, returns_bind_of_returns fun _ => returns_pure _]
  exact returns_bind_of_returns fun _ => returns_pure _

/-! ## Columns in the other dialects -/

theorem returns_defaultCall_iff {t : ColumnType} (ht : t.kind.Registered)
    (name : String) (v : Value) :
    (Drizzle.defaultCall t name (.data v)).Returns ↔ t.Settles v := by
  unfold Drizzle.defaultCall
  split
  next h =>
    exact ⟨fun _ => .inl h, fun _ => (returns_bind_of_returns fun _ => returns_pure _).mpr
      (returns_expressionOr _ t name _)⟩
  next h =>
    refine returns_storedDefault_bind ht h name fun s => ?_
    split
    · exact ⟨fun _ => rfl, fun _ => returns_pure _⟩
    · exact returns_literal.trans (Value.scriptLiteral_ok_iff _)

theorem returns_defaultAttribute_iff {t : ColumnType} (ht : t.kind.Registered)
    (name : String) (v : Value) :
    (Prisma.defaultAttribute t name (.data v)).Returns ↔ t.Settles v := by
  unfold Prisma.defaultAttribute
  split
  next h => exact ⟨fun _ => .inl h, fun _ => returns_expressionOr _ t name _⟩
  next h =>
    exact returns_storedDefault_bind ht h name fun s =>
      returns_literal.trans (Value.attributeLiteral_ok_iff s)

theorem returns_drizzleColumn_iff {c : Column} (hc : c.Registered) (name : String)
    (options : Option Variant) :
    (Drizzle.column c.resolved name options c.generatedAs).Returns ↔ c.Settled := by
  obtain ⟨call, hbase⟩ := base_eq_done hc.kind .drizzle name options s!"text('{name}')"
  have hdefault := returns_onDefault_iff (c := c)
    (f := fun setting => Drizzle.defaultCall c.type name setting)
    fun v => returns_defaultCall_iff hc.kind name v
  rw [drizzleColumn_eq hc.bare, ← hdefault]
  unfold Drizzle.laidOut Drizzle.calls
  rw [hbase, done_bind, returns_bind_of_returns fun _ => returns_pure _]
  exact returns_bind_of_returns fun _ => returns_pure _

theorem returns_prismaColumn_iff {c : Column} (hc : c.Registered) (name : String)
    (options : Option Variant) :
    (Prisma.column c.resolved name options c.generatedAs).Returns ↔ c.Settled := by
  obtain ⟨fragment, hbase⟩ := base_eq_done hc.kind .prisma name options s!"{name} String"
  have hdefault := returns_onDefault_iff (c := c)
    (f := fun setting => Prisma.defaultAttribute c.type name setting)
    fun v => returns_defaultAttribute_iff hc.kind name v
  rw [prismaColumn_eq hc.bare, ← hdefault]
  unfold Prisma.laidOut Prisma.attributes
  rw [hbase, done_bind, returns_bind_of_returns fun _ => returns_pure _]
  exact returns_bind_of_returns fun _ =>
    (returns_bind_of_returns fun _ => returns_pure _).mpr (returns_noteWhen _ _)

theorem returns_convexColumn {t : ColumnType} (ht : t.kind.Registered) (name : String)
    (options : Option Variant) (generatedAs : Option String) :
    (Convex.column t name options generatedAs).Returns := by
  obtain ⟨fragment, hf⟩ := returns_base ht .convex name options s!"{name}: v.string()"
  exact returns_bind.mpr ⟨fragment, hf,
    (returns_bind_of_returns fun _ => returns_pure _).mpr ⟨(), rfl⟩⟩

/-- A column of a registered kind is written where its default is
settled. Convex has no defaults and writes every such column. -/
theorem returns_columnIn_iff {c : Column} (hc : c.Registered) (d : Dialect)
    (key : List String) (options : Option Variant) (name : String) :
    (columnIn d key options name c).Returns ↔ d = .convex ∨ c.Settled := by
  have hp : (c.withPrimary (key == [name])).Registered := ⟨hc.kind, hc.bare⟩
  cases d with
  | sql => exact (returns_definition_iff hc name options).trans (or_iff_right nofun).symm
  | drizzle =>
    exact (returns_drizzleColumn_iff hp name options).trans (or_iff_right nofun).symm
  | prisma =>
    exact (returns_prismaColumn_iff hp name options).trans (or_iff_right nofun).symm
  | convex =>
    have ht : (keyedType name c key).kind.Registered := by
      unfold keyedType
      rw [Column.resolved_kind]
      exact hp.kind
    exact ⟨fun _ => .inl rfl, fun _ => returns_convexColumn ht name options c.generatedAs⟩

end Emit

end Polyschema
