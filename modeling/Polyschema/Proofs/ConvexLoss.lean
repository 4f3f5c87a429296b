/-
Polyschema.Proofs.ConvexLoss — what is reported of an entity in Convex.

The losses of an entity are those of its columns, its indexes, its unique
groups and its checks. Only a validator of the caller's own can fail, and
then nothing is written.

* `Kind.lacksValidator`, `Kind.failsValidator` — kinds without a validator,
  and kinds whose validator cannot be called.
* `Noted.ReturnsNoting` — work that returns with known notes, put together
  piece by piece.
* `Column.convexLosses`, `Index.convexLosses`, `Entity.convexLosses` — the
  losses of a column, of an index and of an entity.
* `codeCount` — how many losses are of a code.
* `convexLosses_exact` — an entity is written where every validator can be
  called, and then these losses are noted and no other ones.
-/
import Polyschema.Proofs.Layout
import Polyschema.Proofs.Linkage

namespace Polyschema

open Polyschema.Text Polyschema.Noted

/-! ## Validators -/

namespace Kind

/-- Whether a kind has no validator in Convex. A list has one in any
case. -/
def lacksValidator : Kind → Bool
  | custom spec => (spec.emitters.lookup .convex).isNone
  | _ => false

/-- Whether the validator of a kind fails for a column: that of one of the
caller's own, or of lists of such a kind. -/
def failsValidator (name : String) (options : Option Variant) : Kind → Bool
  | array element _ => failsValidator name options element
  | custom spec => match spec.emitters.lookup .convex with
    | some write => !(write name options).isOk
    | none => false
  | _ => false

theorem fragment?_convex (k : Kind) (name : String) (options : Option Variant) :
    k.fragment? .convex name options = k.member? name options := by
  cases k <;> rfl

/-- A kind without a validator has no member. -/
theorem member?_eq_none_iff (k : Kind) (name : String) (options : Option Variant) :
    k.member? name options = none ↔ k.lacksValidator = true := by
  cases k with
  | array element modifiers =>
    rw [member?]
    cases member? name options element <;> simp [lacksValidator]
  | custom spec => simp [member?, CustomKind.fragment?, lacksValidator]
  | _ => simp [member?, lacksValidator]

/-- A member fails where the validator of its kind does. -/
theorem member?_fails_iff (k : Kind) (name : String) (options : Option Variant) :
    (∃ f, k.member? name options = some (.error f)) ↔ k.failsValidator name options = true := by
  induction k with
  | array element modifiers ih =>
    rw [failsValidator, ← ih, member?]
    cases member? name options element with
    | none => simp
    | some inner => cases inner <;> simp [Except.map]
  | custom spec =>
    rw [member?, CustomKind.fragment?, failsValidator]
    cases spec.emitters.lookup .convex with
    | none => simp
    | some write =>
      cases h : write name options <;> simp [h, Except.isOk, Except.toBool]
  | _ => simp [member?, failsValidator]

end Kind

/-! ## Work with known notes -/

namespace Noted

variable {ν α β : Type} {ns ns' : List ν}

/-- Work that returns and leaves these notes. -/
def ReturnsNoting (m : Noted ν α) (ns : List ν) : Prop := m.Returns ∧ m.notes = ns

theorem returnsNoting_pure (a : α) : (pure a : Noted ν α).ReturnsNoting [] :=
  ⟨returns_pure a, rfl⟩

theorem returnsNoting_noteWhen (b : Bool) (n : ν) :
    (noteWhen b n).ReturnsNoting (if b then [n] else []) := by
  cases b <;> exact ⟨⟨(), rfl⟩, rfl⟩

/-- Work in sequence leaves the notes of one piece and then those of the
next one. -/
theorem ReturnsNoting.bind {m : Noted ν α} {k : α → Noted ν β} (hm : m.ReturnsNoting ns)
    (hk : ∀ a, (k a).ReturnsNoting ns') : (m >>= k).ReturnsNoting (ns ++ ns') := by
  obtain ⟨⟨a, ha⟩, hnotes⟩ := hm
  refine ⟨returns_bind.mpr ⟨a, ha, (hk a).1⟩, ?_⟩
  rw [notes_bind_ok ha, hnotes, (hk a).2]

theorem ReturnsNoting.bind_pure {m : Noted ν α} (hm : m.ReturnsNoting ns) (g : α → β) :
    (m >>= fun a => pure (g a)).ReturnsNoting ns := by
  have h := hm.bind fun a => returnsNoting_pure (g a)
  rwa [List.append_nil] at h

/-- Work on a list leaves the notes of its items, one item after the
other. -/
theorem returnsNoting_each {f : α → Noted ν β} {notes : α → List ν} {l : List α}
    (hf : ∀ a ∈ l, (f a).ReturnsNoting (notes a)) :
    (each f l).ReturnsNoting (l.flatMap notes) := by
  have hreturns : (each f l).Returns := returns_each.mpr fun a ha => (hf a ha).1
  refine ⟨hreturns, ?_⟩
  rw [notes_each_ok hreturns]
  exact List.flatMap_congr fun a ha => (hf a ha).2

end Noted

/-! ## The losses of an entity -/

/-- What is reported of a column: that its type has no validator, and
that it is unique, has a default or is computed. -/
def Column.convexLosses (name : String) (c : Column) : List Loss :=
  (if c.type.kind.lacksValidator then
    [.fallback c.type.name .convex name s!"{name}: v.string()"] else []) ++
  Emit.Convex.losses name c

/-- Whether an index is unique, partial or of an access method. -/
def Index.isLossy (i : Index) : Bool :=
  i.unique || isGiven i.predicate || i.method.isSome

/-- What is reported of an index: the options that it has beside its
columns. -/
def Index.convexLosses (i : Index) : List Loss :=
  if i.isLossy then [.indexOptions i.name (Emit.Convex.droppedOptions i)] else []

/-- What is reported of an entity: of its columns and its indexes, and
then its unique groups and its checks. -/
def Entity.convexLosses (e : Entity) : List Loss :=
  e.table.columns.entries.flatMap (fun (name, c) => c.convexLosses name) ++
    (e.allIndexes.flatMap Index.convexLosses ++
      (e.table.uniques.map (.uniqueGroup e.table.name) ++
        e.table.checks.map fun check => .checkDropped e.table.name check.name))

namespace Emit

variable {c : Column} {e : Entity}

/-! ### Columns -/

/-- A column with a validator that can be called is written, and its
losses are noted. -/
theorem returnsNoting_convexColumn (hc : c.type.modifiers = [])
    (name : String) (options : Option Variant)
    (hv : c.type.kind.failsValidator name options = false) :
    (Convex.column c.resolved name options c.generatedAs).ReturnsNoting
      (c.convexLosses name) := by
  have hbase : (base c.type .convex name options s!"{name}: v.string()").ReturnsNoting
      (if c.type.kind.lacksValidator then
        [.fallback c.type.name .convex name s!"{name}: v.string()"] else []) := by
    unfold base
    rw [Kind.fragment?_convex]
    cases hmember : c.type.kind.member? name options with
    | none =>
      rw [(Kind.member?_eq_none_iff _ _ _).mp hmember]
      exact ⟨⟨_, rfl⟩, rfl⟩
    | some member =>
      have hhas : c.type.kind.lacksValidator = false := by
        rw [Bool.eq_false_iff, ne_eq, ← Kind.member?_eq_none_iff _ name options, hmember]
        exact Option.some_ne_none _
      rw [hhas]
      cases member with
      | ok text => exact ⟨⟨text, rfl⟩, rfl⟩
      | error m =>
        rw [(Kind.member?_fails_iff _ name options).mp ⟨m, hmember⟩] at hv
        cases hv
  rw [convexColumn_eq hc]
  refine hbase.bind fun fragment => ?_
  exact ReturnsNoting.bind_pure (m := (⟨Convex.losses name c, .ok ()⟩ : Emission Unit))
    ⟨⟨(), rfl⟩, rfl⟩ _

/-- A column with a validator that cannot be called is not written. -/
theorem not_returns_convexColumn (hc : c.type.modifiers = [])
    (name : String) (options : Option Variant)
    (hv : c.type.kind.failsValidator name options = true) :
    ¬ (Convex.column c.resolved name options c.generatedAs).Returns := by
  obtain ⟨m, hmember⟩ := (Kind.member?_fails_iff _ name options).mpr hv
  rw [convexColumn_eq hc, Convex.laidOut, returns_bind]
  rintro ⟨fragment, hfragment, -⟩
  rw [base, Kind.fragment?_convex, hmember] at hfragment
  cases hfragment

/-- Whether a column is part of the key does not matter to its losses. -/
theorem memberLines_lossy (hc : c.type.modifiers = []) (key : List String) (name : String)
    (options : Option Variant) :
    ((Convex.memberLines key options name c).Returns ↔
      c.type.kind.failsValidator name options = false) ∧
      (c.type.kind.failsValidator name options = false →
        (Convex.memberLines key options name c).ReturnsNoting (c.convexLosses name)) := by
  have hnotes (hv : c.type.kind.failsValidator name options = false) :
      (Convex.memberLines key options name c).ReturnsNoting (c.convexLosses name) :=
    (returnsNoting_convexColumn (c := c.withPrimary (key == [name])) hc name options hv).bind_pure _
  refine ⟨⟨fun hreturns => ?_, fun hv => (hnotes hv).1⟩, hnotes⟩
  rw [Bool.eq_false_iff]
  intro hv
  obtain ⟨text, htext, -⟩ := returns_bind.mp hreturns
  exact not_returns_convexColumn (c := c.withPrimary (key == [name])) hc name options hv
    ⟨text, htext⟩

/-! ### Indexes -/

theorem droppedOptions_isEmpty (i : Index) :
    (!(Convex.droppedOptions i).isEmpty) = i.isLossy := by
  unfold Convex.droppedOptions Index.isLossy
  cases i.unique <;> cases isGiven i.predicate <;> cases i.method.isSome <;> rfl

theorem returnsNoting_indexText (i : Index) :
    (Convex.indexText i).ReturnsNoting i.convexLosses := by
  unfold Index.convexLosses
  rw [← droppedOptions_isEmpty]
  exact (returnsNoting_noteWhen _ _).bind_pure _

/-! ### Entities -/

/-- An entity with a key is written where every validator can be called,
and then its losses are noted. -/
theorem convexSchema_lossy
    (hbare : ∀ entry ∈ e.table.columns.entries, entry.2.type.modifiers = [])
    {key : List String} (hkey : e.table.resolveKey = .ok key) (options : Option Variant) :
    ((schemaText e .convex options).Returns ↔
      ∀ entry ∈ e.table.columns.entries, entry.2.type.kind.failsValidator entry.1 options = false) ∧
    ((∀ entry ∈ e.table.columns.entries, entry.2.type.kind.failsValidator entry.1 options = false) →
      (schemaText e .convex options).ReturnsNoting e.convexLosses) := by
  have hnotes (hv : ∀ entry ∈ e.table.columns.entries,
      entry.2.type.kind.failsValidator entry.1 options = false) :
      (schemaText e .convex options).ReturnsNoting e.convexLosses := by
    have hmembers := returnsNoting_each (f := fun entry : String × Column =>
        Convex.memberLines key options entry.1 entry.2) fun entry he =>
      (memberLines_lossy (hbare entry he) key entry.1 options).2 (hv entry he)
    have hindexes := returnsNoting_each fun (i : Index) (_ : i ∈ e.allIndexes) =>
      returnsNoting_indexText i
    unfold schemaText tableWith Convex.table
    rw [hkey]
    refine hmembers.bind fun members => hindexes.bind fun indexLines => ?_
    exact ReturnsNoting.bind_pure
      (m := (⟨Convex.tableLosses e.table, .ok ()⟩ : Emission Unit)) ⟨⟨(), rfl⟩, rfl⟩ _
  refine ⟨⟨fun hreturns entry he => ?_, fun hv => (hnotes hv).1⟩, hnotes⟩
  unfold schemaText tableWith Convex.table at hreturns
  rw [hkey] at hreturns
  obtain ⟨_, -, hreturns⟩ := returns_bind.mp hreturns
  obtain ⟨members, hmembers, -⟩ := returns_bind.mp hreturns
  exact (memberLines_lossy (hbare entry he) _ entry.1 options).1.mp
    (returns_each.mp ⟨members, hmembers⟩ entry he)

end Emit

/-! ## Counts -/

/-- How many losses are of a code. -/
def codeCount (code : String) (losses : List Loss) : Nat := losses.countP (·.code == code)

theorem codeCount_append (code : String) (losses losses' : List Loss) :
    codeCount code (losses ++ losses') = codeCount code losses + codeCount code losses' :=
  List.countP_append

/-- Losses that are all of one code. -/
theorem codeCount_map {α : Type} {code : String} {f : α → Loss} (h : ∀ a, (f a).code = code)
    (l : List α) (code' : String) :
    codeCount code' (l.map f) = if code = code' then l.length else 0 := by
  rw [codeCount, List.countP_map]
  by_cases hc : code = code' <;> simp [Function.comp_def, h, hc]

/-- How many losses of each code a column has. -/
theorem Column.codeCount_convexLosses (name : String) (c : Column) :
    codeCount "EMITTER_FALLBACK" (c.convexLosses name) =
        (if c.type.kind.lacksValidator then 1 else 0) ∧
      codeCount "MODIFIER_UNSUPPORTED" (c.convexLosses name) =
        (if c.unique then 1 else 0) + (if c.default.isSome then 1 else 0) +
          (if isGiven c.generatedAs then 1 else 0) ∧
      codeCount "INDEX_OPTION_DROPPED" (c.convexLosses name) = 0 := by
  unfold convexLosses Emit.Convex.losses
  cases c.type.kind.lacksValidator <;> cases c.unique <;> cases c.default.isSome <;>
    cases isGiven c.generatedAs <;> exact ⟨rfl, rfl, rfl⟩

/-- How many losses of each code columns have. -/
theorem codeCount_columns (columns : List (String × Column)) :
    let losses := columns.flatMap fun (name, c) => c.convexLosses name
    codeCount "EMITTER_FALLBACK" losses = columns.countP (·.2.type.kind.lacksValidator) ∧
      codeCount "MODIFIER_UNSUPPORTED" losses =
        columns.countP (·.2.unique) + columns.countP (·.2.default.isSome) +
          columns.countP (isGiven ·.2.generatedAs) ∧
      codeCount "INDEX_OPTION_DROPPED" losses = 0 := by
  induction columns with
  | nil => exact ⟨rfl, rfl, rfl⟩
  | cons entry columns ih =>
    obtain ⟨hfallbacks, hmodifiers, hoptions⟩ := entry.2.codeCount_convexLosses entry.1
    simp only [List.flatMap_cons, codeCount_append, List.countP_cons, ih, hfallbacks, hmodifiers,
      hoptions]
    exact ⟨by omega, by omega, trivial⟩

/-- How many losses of each code indexes have. -/
theorem codeCount_indexes (indexes : List Index) :
    let losses := indexes.flatMap Index.convexLosses
    codeCount "EMITTER_FALLBACK" losses = 0 ∧ codeCount "MODIFIER_UNSUPPORTED" losses = 0 ∧
      codeCount "INDEX_OPTION_DROPPED" losses = indexes.countP (·.isLossy) := by
  induction indexes with
  | nil => exact ⟨rfl, rfl, rfl⟩
  | cons i indexes ih =>
    simp only [List.flatMap_cons, codeCount_append, List.countP_cons, ih]
    unfold Index.convexLosses
    cases i.isLossy <;> simp [codeCount, Loss.code, Nat.add_comm]

/-- How many losses of each code an entity has. -/
theorem Entity.codeCount_convexLosses (e : Entity) :
    codeCount "EMITTER_FALLBACK" e.convexLosses =
        e.table.columns.entries.countP (·.2.type.kind.lacksValidator) ∧
      codeCount "MODIFIER_UNSUPPORTED" e.convexLosses =
        e.table.columns.entries.countP (·.2.unique) +
          e.table.columns.entries.countP (·.2.default.isSome) +
          e.table.columns.entries.countP (isGiven ·.2.generatedAs) +
          (e.table.uniques.length + e.table.checks.length) ∧
      codeCount "INDEX_OPTION_DROPPED" e.convexLosses = e.allIndexes.countP (·.isLossy) := by
  have hgroups := codeCount_map (f := Loss.uniqueGroup e.table.name) (fun _ => rfl) e.table.uniques
  have hchecks := codeCount_map
    (f := fun check : Check => Loss.checkDropped e.table.name check.name) (fun _ => rfl)
    e.table.checks
  unfold convexLosses
  simp only [codeCount_append, codeCount_columns, codeCount_indexes, hgroups, hchecks]
  simp

/-! ## Exactly these losses -/

/-- The losses that are noted of an entity in Convex: one for each thing
that is lost, and so as many of each code as there are such things. -/
structure Entity.LosesExactly (e : Entity) (losses : List Loss) : Prop where
  listed : losses = e.convexLosses
  fallbacks : codeCount "EMITTER_FALLBACK" losses =
    e.table.columns.entries.countP (·.2.type.kind.lacksValidator)
  modifiers : codeCount "MODIFIER_UNSUPPORTED" losses =
    e.table.columns.entries.countP (·.2.unique) +
      e.table.columns.entries.countP (·.2.default.isSome) +
      e.table.columns.entries.countP (isGiven ·.2.generatedAs) +
      (e.table.uniques.length + e.table.checks.length)
  options : codeCount "INDEX_OPTION_DROPPED" losses = e.allIndexes.countP (·.isLossy)

namespace Emit

/-- An entity whose types have no modifiers of their own and which has a
key is written in Convex exactly where every validator can be called. Then
exactly its losses are noted. -/
theorem convexLosses_exact {e : Entity}
    (hbare : ∀ entry ∈ e.table.columns.entries, entry.2.type.modifiers = [])
    {key : List String} (hkey : e.table.resolveKey = .ok key) (options : Option Variant) :
    ((schemaText e .convex options).Returns ↔
      ∀ entry ∈ e.table.columns.entries, entry.2.type.kind.failsValidator entry.1 options = false) ∧
    ((∀ entry ∈ e.table.columns.entries, entry.2.type.kind.failsValidator entry.1 options = false) →
      e.LosesExactly (schemaText e .convex options).notes) := by
  obtain ⟨hreturns, hnotes⟩ := convexSchema_lossy hbare hkey options
  obtain ⟨hfallbacks, hmodifiers, hoptions⟩ := e.codeCount_convexLosses
  refine ⟨hreturns, fun hv => ?_⟩
  rw [(hnotes hv).2]
  exact ⟨rfl, hfallbacks, hmodifiers, hoptions⟩

/-- A kind of the caller's own that has nothing but a validator, if that. -/
def ownKind (name : String) (validator : Option Emitter) : Kind :=
  .custom ⟨name, [], none, none, none, (validator.map (Dialect.convex, ·)).toList⟩

/-- Columns beside a unique key, in a table of their own. -/
def Entity.ofColumns (columns : List (String × Column)) : Entity :=
  let id := { Column.plain (.plain .uuid) with unique := true }
  Entity.ofLinks { Table.ofKey "bills" (.plain .uuid) with
    columns := .ofList (columns ++ [("id", id)]) } []

/-- An entity with one thing of each kind that Convex loses, and with
columns of which more than one thing is lost. -/
def lossyEntity : Entity :=
  let price := { Column.plain (.plain (ownKind "money" none)) with
    unique := true, default := some .generator, indexed := true }
  let total := { Column.plain (.plain .integer) with
    generatedAs := some "price + 1", computed_alone := rfl }
  let e := Entity.ofColumns [("price", price), ("total", total)]
  { e with
    table := { e.table with
      uniques := [["id", "price"]], checks := [⟨"positive", "price > 0"⟩] }
    indexes := [⟨"by_total", "bills", ["total"], true, some "total > 0", none⟩] }

theorem convexLosses_lossyEntity :
    lossyEntity.table.resolveKey = .ok ["id"] ∧ (schemaText lossyEntity .convex none).Returns ∧
      lossyEntity.LosesExactly (schemaText lossyEntity .convex none).notes ∧
      (schemaText lossyEntity .convex none).notes.map Loss.code =
        ["EMITTER_FALLBACK", "MODIFIER_UNSUPPORTED", "MODIFIER_UNSUPPORTED",
          "MODIFIER_UNSUPPORTED", "MODIFIER_UNSUPPORTED", "INDEX_OPTION_DROPPED",
          "MODIFIER_UNSUPPORTED", "MODIFIER_UNSUPPORTED"] := by
  have hbare : ∀ entry ∈ lossyEntity.table.columns.entries, entry.2.type.modifiers = [] := by
    decide
  have hvalid : ∀ entry ∈ lossyEntity.table.columns.entries,
      entry.2.type.kind.failsValidator entry.1 none = false := by decide
  have hkey : lossyEntity.table.resolveKey = .ok ["id"] := rfl
  have hexact := convexLosses_exact hbare hkey none
  exact ⟨hkey, hexact.1.mpr hvalid, hexact.2 hvalid, rfl⟩

/-- Where a validator cannot be called, the unique key after it is not
reported. Where the items of a list have no validator, the list has one,
and nothing is reported of it. -/
theorem convexLosses_unreported :
    let unwritten := Entity.ofColumns [("price", .plain (.plain (ownKind "money" (some .source))))]
    let silent := Entity.ofColumns [("prices", .plain (.plain (.array (ownKind "money" none) [])))]
    (∀ entry ∈ unwritten.table.columns.entries, entry.2.type.modifiers = []) ∧
      unwritten.table.resolveKey = .ok ["id"] ∧
      unwritten.convexLosses = [.modifier .unique "id"] ∧
      (schemaText unwritten .convex none).notes = [] ∧
      ¬ unwritten.LosesExactly (schemaText unwritten .convex none).notes ∧
      (schemaText silent .convex none).notes = [.modifier .unique "id"] ∧
      (schemaText silent .convex none).outcome = .ok ("export const bills = defineTable(\x7b\n" ++
        "  prices: v.array(v.any()),\n  id: v.string(),\n\x7d)") := by
  refine ⟨by decide, rfl, rfl, rfl, ?_, rfl, rfl⟩
  intro hexact
  exact nomatch hexact.listed

end Emit

end Polyschema
