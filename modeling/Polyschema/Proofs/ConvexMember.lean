/-
Polyschema.Proofs.ConvexMember — members of tables in Convex.

A member is a name, a colon with a blank, and a validator. The validator of
a list is made of the member of its items, of which the name is cut off
again; a column cuts its member once more to mark the validator. The cut is
at the first colon with a blank. So it finds the end of a name that has
none, whatever stands in the validator.

* `Kind.fragment?_member` — a fragment is such a member.
* `foldl_applyModifier_marks`, `nullableMarks_resolved` — a validator is made
  optional as often as a chain of modifiers says so, and the flag of a column
  says it once.
* `members_validated` — fragments, lists and nullable columns in Convex.
-/
import Mathlib.Logic.Function.Iterate
import Polyschema.Proofs.BareType
import Polyschema.Proofs.ConvexLoss
import Polyschema.Proofs.Nullable
import Polyschema.Proofs.RejectedDefault

namespace Polyschema

open Polyschema.Text Polyschema.Noted

/-! ## Members -/

section

variable {name : String} (hn : ¬ ": ".toList <:+: name.toList)
include hn

theorem Kind.fragment?_member {k : Kind} (hk : k.Registered) (options : Option Variant) :
    k.fragment? .convex name options = some (.ok (name ++ ": " ++ k.validator)) := by
  rw [Kind.fragment?_convex]
  exact Kind.member?_validator hn hk options

end

/-! ## Nullable columns -/

/-- How often a chain of modifiers makes a column nullable. -/
def nullableMarks (chain : List Modifier) : Nat :=
  (chain.filter (·.kind == .nullable)).countP (·.setting.truthy)

/-- A validator is made optional once for each time. -/
theorem foldl_applyModifier_marks (chain : List Modifier) (validator : String) :
    chain.foldl Emit.Convex.applyModifier validator =
      (fun v => s!"v.optional({v})")^[nullableMarks chain] validator := by
  induction chain generalizing validator with
  | nil => rfl
  | cons m rest ih =>
    rw [List.foldl_cons, ih]
    unfold nullableMarks Emit.Convex.applyModifier
    by_cases hkind : m.kind = .nullable
    · cases hset : m.setting.truthy <;> simp [hkind, hset]
    · simp [hkind]

/-- Where the type of a column says at most once whether it is nullable, the
flag of the column decides. -/
theorem Column.nullableMarks_resolved {c : Column}
    (hc : c.type.modifierKinds.count .nullable ≤ 1) :
    nullableMarks c.resolved.modifiers = if c.nullable then 1 else 0 := by
  have hflags : c.flags.filter (·.kind == .nullable) = [⟨.nullable, .flag c.nullable⟩] := by
    unfold flags
    cases c.unique <;> cases c.primary <;> cases c.default <;> cases c.autoIncrement <;> rfl
  have hset : c.resolved.modifiers.filter (·.kind == .nullable) =
      [⟨.nullable, .flag c.nullable⟩] := by
    rw [resolved_eq_setAll, ColumnType.filter_setAll, hflags, List.foldl_cons, List.foldl_nil]
    have hlength : (c.type.modifiers.filter (·.kind == .nullable)).length ≤ 1 := by
      rwa [ColumnType.modifierKinds, List.count_eq_countP, List.countP_map,
        List.countP_eq_length_filter] at hc
    have hkinds : ∀ m ∈ c.type.modifiers.filter (·.kind == .nullable), m.kind = .nullable :=
      fun m hm => by simpa using List.of_mem_filter hm
    generalize c.type.modifiers.filter (·.kind == .nullable) = chain at hlength hkinds
    -- there is nothing to replace, or one modifier of the kind
    obtain _ | ⟨m, _ | ⟨_, _⟩⟩ := chain
    · rfl
    · rw [setModifier, if_pos (hkinds m List.mem_cons_self)]
    · simp at hlength
  rw [nullableMarks, hset]
  cases c.nullable <;> rfl

namespace Emit

variable {name : String} (hn : ¬ ": ".toList <:+: name.toList)
include hn

/-- A column of a registered kind is its name with the validator of its
kind, which is made optional each time that the type says it is nullable. -/
theorem convexColumn_validator {t : ColumnType} (hk : t.kind.Registered)
    (options : Option Variant) (generatedAs : Option String) :
    (Convex.column t name options generatedAs).outcome = .ok (name ++ ": " ++
      (fun v => s!"v.optional({v})")^[nullableMarks t.modifiers] t.kind.validator) := by
  have hbase : base t .convex name options s!"{name}: v.string()" =
      .done (Kind.memberText name t.kind.validator) := by
    rw [base, Kind.fragment?_member hn hk]
    rfl
  unfold Convex.column
  rw [hbase, done_bind, Kind.cut_memberText hn]
  simp only [foldl_applyModifier_marks]
  rfl

/-- A fragment of a registered kind in Convex is the name of the column and
a validator that does not depend on the name, as long as the name has no
colon with a blank. The validator of a list is that of its items in
brackets. A nullable column, as a type with modifiers or as a column of a
table, has the same validator as an optional one, where it is made nullable
once only. -/
theorem members_validated (options : Option Variant) :
    (∀ k : Kind, k.Registered →
      k.fragment? .convex name options = some (.ok (name ++ ": " ++ k.validator)) ∧
      ∀ modifiers, (Kind.array k modifiers).fragment? .convex name options =
        some (.ok (name ++ ": " ++ ("v.array(" ++ k.validator ++ ")")))) ∧
    (∀ t : ColumnType, t.kind.Registered → nullableMarks t.modifiers = 1 →
      (columnText t .convex name options).outcome =
        .ok (name ++ ": v.optional(" ++ t.kind.validator ++ ")")) ∧
    ∀ c : Column, c.type.kind.Registered → c.type.modifierKinds.count .nullable ≤ 1 →
      c.nullable = true → ∀ key, (columnIn .convex key options name c).outcome =
        .ok (name ++ ": v.optional(" ++ c.type.kind.validator ++ ")") := by
  have hoptional {t : ColumnType} (hk : t.kind.Registered) (ht : nullableMarks t.modifiers = 1)
      (generatedAs : Option String) :
      (Convex.column t name options generatedAs).outcome =
        .ok (name ++ ": v.optional(" ++ t.kind.validator ++ ")") := by
    rw [convexColumn_validator hn hk, ht]
    simp [String.ext_iff, toString]
  refine ⟨fun k hk => ⟨?_, fun modifiers => ?_⟩, fun t hk ht => ?_, fun c hk hc hnull key => ?_⟩
  · exact Kind.fragment?_member hn hk options
  · exact Kind.fragment?_member (k := .array k modifiers) hn hk options
  · exact hoptional hk ht none
  · -- the key of the table decides about the flag of the key, not about this one
    have hkind : (keyedType name c key).kind = c.type.kind := Column.resolved_kind _
    have honce : nullableMarks (keyedType name c key).modifiers = 1 :=
      (Column.nullableMarks_resolved (c := c.withPrimary (key == [name])) hc).trans
        (if_pos hnull)
    rw [← hkind]
    exact hoptional (hkind ▸ hk) honce c.generatedAs

end Emit

/-- A column of lists of lists whose items are one of two texts. One of
them looks like a member. -/
def tagsColumn : Column :=
  let tags : Members := ⟨["tag: v.any()", "b"], by decide, by decide, by decide⟩
  { Column.plain (.plain (.array (.array (.enum tags) []) [])) with
    nullable := true, unique := true }

theorem members_validated_tags :
    let validator := "v.array(v.array(v.union(v.literal('tag: v.any()'), v.literal('b'))))"
    ¬ ": ".toList <:+: "tag:".toList ∧ tagsColumn.type.kind.Registered ∧
      tagsColumn.type.modifierKinds.count .nullable ≤ 1 ∧ tagsColumn.nullable = true ∧
      nullableMarks tagsColumn.resolved.modifiers = 1 ∧
      tagsColumn.type.kind.fragment? .convex "tag:" none =
        some (.ok ("tag:" ++ ": " ++ validator)) ∧
      (Emit.columnText tagsColumn.resolved .convex "tag:" none).outcome =
        .ok ("tag:" ++ ": v.optional(" ++ validator ++ ")") ∧
      (Emit.columnIn .convex ["id"] none "tag:" tagsColumn).outcome =
        .ok ("tag:" ++ ": v.optional(" ++ validator ++ ")") := by
  intro validator
  have hn : ¬ ": ".toList <:+: "tag:".toList := by decide
  have hk : tagsColumn.type.kind.Registered := trivial
  have hc : tagsColumn.type.modifierKinds.count .nullable ≤ 1 := by decide
  have hresolved : nullableMarks tagsColumn.resolved.modifiers = 1 := by decide
  have hvalidator : tagsColumn.type.kind.validator = validator := by decide
  obtain ⟨hfragments, htypes, hcolumns⟩ := Emit.members_validated hn none
  rw [← hvalidator]
  exact ⟨hn, hk, hc, rfl, hresolved, (hfragments _ hk).1,
    htypes tagsColumn.resolved hk hresolved, hcolumns tagsColumn hk hc rfl ["id"]⟩

end Polyschema
