/-
Polyschema.Proofs.Linkage — relationships: what is found on them against
the defect that stops them.

* `Tells` — findings that tell of a possible defect.
* `tells_relationship` — the findings on a relationship tell of its
  defect, although the two look at its parts in another order.
* `stops_relationship_iff`, `returns_relationship_iff` — a relationship
  stops with its defect and with no other, and is written where it has
  none and the columns of its junction can be written.
* `relationship_ok` — what a relationship is written as.
* `relationships_check_agrees` — the relationships of an entity stop
  exactly where an error is found on them.
-/
import Polyschema.Emit.Relationship
import Polyschema.Proofs.Check
import Polyschema.Proofs.Default

namespace Polyschema

open Polyschema.Noted

/-! ## Findings that tell of a defect -/

/-- Findings that tell of a possible defect: there are none where it is
missing, and where it is there an error has its code. -/
def Tells (findings : List Finding) : Option Defect → Prop
  | none => findings = []
  | some d => ∃ f ∈ findings, f.level = .error ∧ f.code = d.code

/-- Findings tell of the first of two defects … -/
theorem tells_append {a b : List Finding} {x y : Option Defect} (ha : Tells a x)
    (hb : Tells b y) : Tells (a ++ b) (x.or y) := by
  cases x with
  | some d =>
    obtain ⟨f, hf, h⟩ := ha
    exact ⟨f, List.mem_append_left b hf, h⟩
  | none =>
    have ha : a = [] := ha
    rw [ha]
    exact hb

/-- … in whatever order the findings stand. -/
theorem tells_append_swap {a b : List Finding} {x y : Option Defect} (ha : Tells a x)
    (hb : Tells b y) : Tells (a ++ b) (y.or x) := by
  cases y with
  | some d =>
    obtain ⟨f, hf, h⟩ := hb
    exact ⟨f, List.mem_append_right a hf, h⟩
  | none =>
    have hb : b = [] := hb
    rw [hb, List.append_nil]
    exact ha

/-- Findings that tell of a defect are sound where it is missing. -/
theorem Tells.sound_iff {findings : List Finding} {x : Option Defect}
    (h : Tells findings x) : Sound findings ↔ x = none := by
  cases x with
  | none =>
    have h : findings = [] := h
    subst h
    exact ⟨fun _ => rfl, fun _ _ hf => (List.not_mem_nil hf).elim⟩
  | some d =>
    obtain ⟨f, hf, hl, _⟩ := h
    exact ⟨fun hs => absurd hl (hs f hf), nofun⟩

theorem tells_reference (relationship side : String) (table : Option Table)
    (column : String) :
    Tells (Check.reference relationship side table column)
      (Emit.absentColumn? relationship table column) := by
  cases table with
  | none => exact rfl
  | some t =>
    unfold Check.reference Emit.absentColumn?
    cases h : t.columns.has column with
    | true => simp [h, Tells]
    | false => simp [h, Tells, Finding.level, Finding.code, Defect.code, Defect.kind,
        DefectKind.code]

/-- A junction has a defect where its columns share a name. -/
theorem junctionDefect?_eq_none_iff {relationship : String} {j : Junction} :
    Emit.junctionDefect? relationship j = none ↔
      ¬ (j.localColumn = j.foreignColumn ∨
        j.extras.names.any (fun n => n == j.localColumn || n == j.foreignColumn) = true) := by
  unfold Emit.junctionDefect?
  by_cases h : j.localColumn = j.foreignColumn
  · simp [h]
  · simp [h, List.find?_eq_none]

theorem junctionDefect?_code {relationship : String} {j : Junction} {d : Defect}
    (h : Emit.junctionDefect? relationship j = some d) :
    d.code = DefectKind.junctionCollision.code := by
  unfold Emit.junctionDefect? at h
  split at h
  · cases h; rfl
  · obtain ⟨n, _, rfl⟩ := Option.map_eq_some_iff.mp h
    rfl

theorem tells_junction (entity relationship : String) (j : Junction) :
    Tells (Check.junction entity relationship (some j))
      (Emit.junctionDefect? relationship j) := by
  simp only [Check.junction]
  cases h : Emit.junctionDefect? relationship j with
  | none =>
    rw [if_neg (junctionDefect?_eq_none_iff.mp h)]
    rfl
  | some d =>
    have hc := not_imp_comm.mp junctionDefect?_eq_none_iff.mpr (by rw [h]; nofun)
    rw [if_pos hc]
    exact ⟨_, List.mem_singleton_self _, rfl, (junctionDefect?_code h).symm⟩

namespace Emit

/-- The defect of the columns that a relationship refers to. -/
def columnDefect? (context : Option Table) (r : Relationship) : Option Defect :=
  (absentColumn? r.name (r.localSide.within context) r.foreignKey.localColumn).or
    (absentColumn? r.name (r.foreignSide.within context) r.foreignKey.foreignColumn)

/-- The defect of a relationship, by its relation. -/
theorem linkDefect?_eq (context : Option Table) (r : Relationship) :
    linkDefect? context r = match r.relation with
      | .unknown tag => some (.unknownRelation r.name r.localSide.name tag)
      | .known .manyToMany => match r.junction with
        | none => some (.noJunction r.name r.localSide.name)
        | some j => (junctionDefect? r.name j).or (columnDefect? context r)
      | .known _ => columnDefect? context r := by
  unfold linkDefect? columnDefect?
  generalize absentColumn? r.name (r.localSide.within context) r.foreignKey.localColumn = x
  cases r.relation with
  | unknown tag => rfl
  | known c =>
    cases c with
    | manyToMany =>
      cases r.junction with
      | none => rfl
      | some j => cases x <;> cases h : junctionDefect? r.name j <;> simp [h]
    | _ => cases x <;> rfl

end Emit

/-- The findings on a relationship tell of its defect. -/
theorem tells_relationship (e : Entity) (r : Relationship) :
    Tells (Check.relationship e r) (Emit.linkDefect? (some e.table) r) := by
  have hcolumns := tells_append
    (tells_reference r.name "local" (r.localSide.within (some e.table))
      r.foreignKey.localColumn)
    (tells_reference r.name "foreign" (r.foreignSide.within (some e.table))
      r.foreignKey.foreignColumn)
  rw [Emit.linkDefect?_eq]
  unfold Check.relationship
  cases r.relation with
  | unknown tag => exact ⟨_, List.mem_singleton_self _, rfl, rfl⟩
  | known c =>
    cases c with
    | manyToMany =>
      cases r.junction with
      | none => exact ⟨_, List.mem_append_right _ (List.mem_singleton_self _), rfl, rfl⟩
      | some j => exact tells_append_swap hcolumns (tells_junction e.id r.name j)
    | _ => simpa [Emit.columnDefect?] using hcolumns

/-- An error is found on a relationship exactly where it has a defect. -/
theorem sound_relationship_iff (e : Entity) (r : Relationship) :
    Sound (Check.relationship e r) ↔ Emit.linkDefect? (some e.table) r = none :=
  (tells_relationship e r).sound_iff

/-! ## The ending of a relationship -/

namespace Emit

/-- The columns that the junction of a relationship is written with can
be written: its keys and its further columns. -/
def JunctionRenders (r : Relationship) (options : Option Variant)
    (context : Option Table) : Prop :=
  ∀ j, r.relation = .known .manyToMany → r.junction = some j →
    (keyType (r.localSide.within context) r.foreignKey.localColumn options).Returns ∧
    (keyType (r.foreignSide.within context) r.foreignKey.foreignColumn options).Returns ∧
    ∀ e ∈ j.extras.entries, (Sql.definition e.1 e.2 options).Returns

theorem returns_junctionLink_iff (j : Junction) (r : Relationship)
    (options : Option Variant) (context : Option Table) :
    (junctionLink j r options context).Returns ↔
      (keyType (r.localSide.within context) r.foreignKey.localColumn options).Returns ∧
      (keyType (r.foreignSide.within context) r.foreignKey.foreignColumn options).Returns ∧
      ∀ e ∈ j.extras.entries, (Sql.definition e.1 e.2 options).Returns := by
  unfold junctionLink
  simp only [returns_bind (k := fun _ => (_ >>= _ : Emission _)),
    returns_bind_of_returns fun _ => returns_pure _, returns_each]
  exact ⟨fun ⟨s, hs, t, ht, h⟩ => ⟨⟨s, hs⟩, ⟨t, ht⟩, h⟩,
    fun ⟨⟨s, hs⟩, ⟨t, ht⟩, h⟩ => ⟨s, hs, t, ht, h⟩⟩

/-- A relationship without a defect is realized by its junction or by a
foreign key. -/
theorem relationship_of_sound {r : Relationship} {context : Option Table}
    (h : linkDefect? context r = none) (options : Option Variant) :
    (∃ j, r.relation = .known .manyToMany ∧ r.junction = some j ∧
      relationship r options context = junctionLink j r options context) ∨
    (r.relation ≠ .known .manyToMany ∧ ∃ c : Cardinality,
      relationship r options context = directLink c r options) := by
  unfold relationship
  rw [h]
  rw [linkDefect?_eq] at h
  cases hr : r.relation with
  | unknown tag => rw [hr] at h; cases h
  | known c =>
    cases c with
    | manyToMany =>
      cases hj : r.junction with
      | none => rw [hr, hj] at h; cases h
      | some j => exact .inl ⟨j, rfl, rfl, rfl⟩
    | oneToOne => exact .inr ⟨nofun, .oneToOne, rfl⟩
    | oneToMany => exact .inr ⟨nofun, .oneToMany, rfl⟩
    | manyToOne => exact .inr ⟨nofun, .manyToOne, rfl⟩

theorem relationship_of_defect {r : Relationship} {context : Option Table} {d : Defect}
    (h : linkDefect? context r = some d) (options : Option Variant) :
    relationship r options context = .fail (.defect d) := by
  rw [relationship, h]
  rfl

/-- A fault of a relationship that comes from the columns of its
junction. -/
def JunctionFails (r : Relationship) (options : Option Variant) (context : Option Table)
    (f : Fault) : Prop :=
  ∃ j, r.relation = .known .manyToMany ∧ r.junction = some j ∧
    (junctionLink j r options context).Fails f

theorem JunctionRenders.not_fails {r : Relationship} {options : Option Variant}
    {context : Option Table} (h : JunctionRenders r options context) (f : Fault) :
    ¬ JunctionFails r options context f := by
  rintro ⟨j, hm, hj, hf⟩
  exact not_fails_of_returns ((returns_junctionLink_iff j r options context).mpr (h j hm hj)) f hf

/-- A relationship fails with its defect, which is found before any column
is written, or as its junction does. -/
theorem fails_relationship_iff (r : Relationship) (options : Option Variant)
    (context : Option Table) (f : Fault) :
    (relationship r options context).Fails f ↔
      (∃ d, linkDefect? context r = some d ∧ f = .defect d) ∨
      linkDefect? context r = none ∧ JunctionFails r options context f := by
  cases h : linkDefect? context r with
  | some d =>
    rw [relationship_of_defect h]
    constructor
    · intro hf
      exact .inl ⟨d, rfl, (Except.error.inj hf).symm⟩
    · rintro (⟨d', hd, rfl⟩ | ⟨hn, _⟩)
      · cases hd
        rfl
      · cases hn
  | none =>
    obtain ⟨j, hm, hj, he⟩ | ⟨hm, c, he⟩ := relationship_of_sound h options
    · rw [he]
      constructor
      · exact fun hf => .inr ⟨rfl, j, hm, hj, hf⟩
      · rintro (⟨d, hd, _⟩ | ⟨_, j', _, hj', hf⟩)
        · cases hd
        · rw [hj] at hj'
          cases hj'
          exact hf
    · rw [he]
      constructor
      · exact fun hf => nomatch hf
      · rintro (⟨d, hd, _⟩ | ⟨_, _, hm', _⟩)
        · cases hd
        · exact absurd hm' hm

/-- A relationship stops with its defect and with no other, where its
junction does not stop. -/
theorem stops_relationship_iff {r : Relationship} {options : Option Variant}
    {context : Option Table} (h : ∀ d, ¬ JunctionFails r options context (.defect d))
    (d : Defect) :
    (relationship r options context).Stops d ↔ linkDefect? context r = some d := by
  rw [Stops, fails_relationship_iff]
  constructor
  · rintro (⟨d', hd, heq⟩ | ⟨_, hf⟩)
    · cases heq
      exact hd
    · exact absurd hf (h d)
  · exact fun hd => .inl ⟨d, hd, rfl⟩

/-- A relationship is written where it has no defect and its junction,
if it needs one, can be written. -/
theorem returns_relationship_iff (r : Relationship) (options : Option Variant)
    (context : Option Table) :
    (relationship r options context).Returns ↔
      linkDefect? context r = none ∧ JunctionRenders r options context := by
  cases h : linkDefect? context r with
  | some x =>
    rw [relationship_of_defect h]
    exact ⟨fun ⟨_, hr⟩ => (nomatch hr), fun hr => (nomatch hr.1)⟩
  | none =>
    obtain ⟨j, hm, hj, he⟩ | ⟨hm, c, he⟩ := relationship_of_sound h options
    · rw [he, returns_junctionLink_iff]
      constructor
      · rintro hr
        refine ⟨rfl, fun i _ hi => ?_⟩
        rw [hj] at hi
        cases hi
        exact hr
      · exact fun hr => hr.2 j hm hj
    · rw [he]
      exact ⟨fun _ => ⟨rfl, fun j hr => absurd hr hm⟩, fun _ => ⟨_, rfl⟩⟩

/-- What a relationship is written as: a junction with an index for each
of its two keys, or a foreign key with its index. -/
theorem relationship_ok {r : Relationship} {options : Option Variant}
    {context : Option Table} {l : Linkage}
    (h : (relationship r options context).outcome = .ok l) :
    linkDefect? context r = none ∧
    ((∃ j t, r.relation = .known .manyToMany ∧ r.junction = some j ∧ t.name = j.name ∧
      l = .junction r.localSide.name r.foreignSide.name t
        [⟨j.name, j.localColumn, false⟩, ⟨j.name, j.foreignColumn, false⟩]) ∨
    (r.relation ≠ .known .manyToMany ∧ ∃ c : Cardinality,
      l = .direct c.label (addForeignKey (.ofOptions options) r)
        (if r.foreignKey.indexed then
          some ⟨r.localSide.name, r.foreignKey.localColumn, c == .oneToOne⟩
        else none))) := by
  have hsound := ((returns_relationship_iff r options context).mp ⟨l, h⟩).1
  refine ⟨hsound, ?_⟩
  obtain ⟨j, hm, hj, he⟩ | ⟨hm, c, he⟩ := relationship_of_sound hsound options
  · rw [he] at h
    obtain ⟨_, _, h⟩ := outcome_bind_ok.mp h
    obtain ⟨_, _, h⟩ := outcome_bind_ok.mp h
    obtain ⟨_, _, h⟩ := outcome_bind_ok.mp h
    cases h
    exact .inl ⟨j, _, hm, hj, rfl, rfl⟩
  · rw [he] at h
    cases h
    exact .inr ⟨hm, c, rfl⟩

/-- There, a fault escapes from it where it has no defect and its junction
cannot be written. -/
theorem escapes_relationship_iff {r : Relationship} {options : Option Variant}
    {context : Option Table} (h : ∀ d, ¬ JunctionFails r options context (.defect d)) :
    (relationship r options context).Escapes ↔
      linkDefect? context r = none ∧ ¬ JunctionRenders r options context := by
  have hstops := stops_relationship_iff h
  have hreturns := returns_relationship_iff r options context
  cases hdefect : linkDefect? context r with
  | some d =>
    rw [hdefect] at hstops
    exact ⟨fun he => absurd he (not_escapes_of_stops ((hstops d).mpr rfl)),
      fun he => (nomatch he.1)⟩
  | none =>
    rw [hdefect] at hstops hreturns
    constructor
    · exact fun he => ⟨rfl, fun hj => not_escapes_of_returns (hreturns.mpr ⟨rfl, hj⟩) he⟩
    · rintro ⟨_, hj⟩
      refine (escapes_iff_not_returns fun d hd => nomatch (hstops d).mp hd).mpr fun hr => ?_
      exact hj (hreturns.mp hr).2

/-! ## The ending of all relationships -/

/-- The relationships of an entity stop with the defect of the first
that has one, if those before it can be written, and the junction of none
stops. -/
theorem stops_relationships_iff {e : Entity} {options : Option Variant}
    (h : ∀ r ∈ e.relationships, ∀ d, ¬ JunctionFails r options (some e.table) (.defect d))
    (d : Defect) :
    (relationships e options).Stops d ↔
      ∃ before r after, e.relationships = before ++ r :: after ∧
        (∀ q ∈ before, linkDefect? (some e.table) q = none ∧
          JunctionRenders q options (some e.table)) ∧
        linkDefect? (some e.table) r = some d := by
  simp only [← returns_relationship_iff]
  refine fails_each.trans ?_
  refine exists_congr fun before => exists_congr fun r => exists_congr fun after => ?_
  refine and_congr_right fun hsplit => and_congr_right fun _ => ?_
  exact stops_relationship_iff (h r (by simp [hsplit])) d

theorem returns_relationships_iff (e : Entity) (options : Option Variant) :
    (relationships e options).Returns ↔ ∀ r ∈ e.relationships,
      linkDefect? (some e.table) r = none ∧ JunctionRenders r options (some e.table) := by
  simp only [← returns_relationship_iff]
  exact returns_each

/-- A fault escapes from a junction that cannot be written before the
first relationship with a defect, where no junction stops. -/
theorem escapes_relationships_iff {e : Entity} {options : Option Variant}
    (h : ∀ r ∈ e.relationships, ∀ d, ¬ JunctionFails r options (some e.table) (.defect d)) :
    (relationships e options).Escapes ↔
      ∃ r ∈ e.relationships.takeWhile fun r => (linkDefect? (some e.table) r).isNone,
        ¬ JunctionRenders r options (some e.table) := by
  refine (escapes_each_iff (linkDefect? (some e.table)) fun r hr d =>
    stops_relationship_iff (h r hr) d).trans ?_
  refine exists_congr fun r => and_congr_right fun hr => ?_
  have hsound := List.mem_takeWhile_imp hr
  rw [escapes_relationship_iff (h r ((List.takeWhile_sublist _).subset hr))]
  exact and_iff_right (Option.isNone_iff_eq_none.mp hsound)

end Emit

/-! ## Relationships and the functions of their columns -/

/-- A fault that leaves a function of the caller's own on the columns with
which the junction of a relationship is written. -/
inductive Relationship.Raises (r : Relationship) (context : Option Table) (f : Fault) : Prop
  | localSide {t : Table} (known : r.localSide.within context = some t) (raised : t.Raises f)
  | foreignSide {t : Table} (known : r.foreignSide.within context = some t) (raised : t.Raises f)
  | extra {j : Junction} (given : r.junction = some j) {e : String × Column}
    (listed : e ∈ j.extras.entries) (raised : e.2.type.kind.Raises f)

/-- No such function raises a fault of some sort. -/
def Relationship.Avoids (r : Relationship) (context : Option Table) (P : Fault → Prop) : Prop :=
  ∀ f, r.Raises context f → ¬ P f

namespace Emit

theorem failsIn_keyType (side : Option Table) (column : String) (options : Option Variant) :
    FailsIn (fun f => f.IsMisuse ∨ ∃ t, side = some t ∧ t.Raises f)
      (keyType side column options).outcome := by
  unfold keyType
  split
  next c h =>
    obtain ⟨t, ht, hc⟩ := Option.bind_eq_some_iff.mp h
    obtain ⟨before, after, hsplit, _⟩ := List.lookup_eq_some_iff.mp hc
    refine (failsIn_bareType c.type options).mono fun f => Or.imp_right fun hf => ?_
    exact ⟨t, ht, (column, c), by simp [hsplit], hf⟩
  next =>
    exact (failsIn_bareType (.plain .uuid) options).mono fun f => Or.imp_right False.elim

/-- A junction fails by a misused value, or by what the functions of its
columns raise. -/
theorem JunctionFails.misuse_or_raised {r : Relationship} {options : Option Variant}
    {context : Option Table} {f : Fault} (h : JunctionFails r options context f) :
    f.IsMisuse ∨ r.Raises context f := by
  obtain ⟨j, _, hj, hf⟩ := h
  suffices hall : FailsIn (fun f => f.IsMisuse ∨ r.Raises context f)
      (junctionLink j r options context).outcome from hall f hf
  refine failsIn_outcome_bind ?_ fun _ => failsIn_outcome_bind ?_ fun _ =>
    failsIn_outcome_bind (failsIn_each fun e he => ?_) fun _ => failsIn_ok _
  · exact (failsIn_keyType _ _ options).mono fun f => Or.imp_right fun ⟨t, ht, h⟩ =>
      .localSide ht h
  · exact (failsIn_keyType _ _ options).mono fun f => Or.imp_right fun ⟨t, ht, h⟩ =>
      .foreignSide ht h
  · refine failsIn_outcome_bind ?_ fun _ => failsIn_ok _
    exact (failsIn_definition e.1 e.2 options).mono fun f => Or.imp_right (.extra hj he)

theorem not_stops_junction {r : Relationship} {context : Option Table}
    (hr : r.Avoids context Fault.IsDefect) (options : Option Variant) (d : Defect) :
    ¬ JunctionFails r options context (.defect d) :=
  fun hf => Fault.not_of_avoids Fault.not_isDefect_misuse hr hf.misuse_or_raised ⟨d, rfl⟩

end Emit

/-! ## Relationships of registered columns -/

/-- A table of registered columns. -/
def Table.Registered (t : Table) : Prop := ∀ e ∈ t.columns.entries, e.2.Registered

/-- A relationship whose tables and junction are of registered
columns. -/
structure Relationship.Registered (r : Relationship) : Prop where
  localSide : ∀ t, r.localSide.table? = some t → t.Registered
  foreignSide : ∀ t, r.foreignSide.table? = some t → t.Registered
  extras : ∀ j, r.junction = some j → ∀ e ∈ j.extras.entries, e.2.Registered

theorem Side.registered_within {s : Side} {context : Table} (hc : context.Registered)
    (hs : ∀ t, s.table? = some t → t.Registered) {t : Table}
    (h : s.within (some context) = some t) : t.Registered := by
  unfold Side.within at h
  cases ht : s.table? with
  | some u =>
    rw [ht] at h
    exact hs t (ht.trans h)
  | none =>
    rw [ht] at h
    obtain ⟨heq, _⟩ := Option.filter_eq_some_iff.mp h
    cases heq
    exact hc

theorem Table.Registered.not_raises {t : Table} (ht : t.Registered) (f : Fault) :
    ¬ t.Raises f := by
  rintro ⟨e, he, h⟩
  exact (ht e he).kind.not_raises f h

theorem Relationship.Registered.not_raises {r : Relationship} (hr : r.Registered)
    {context : Table} (hc : context.Registered) (f : Fault) : ¬ r.Raises (some context) f := by
  intro h
  cases h with
  | localSide known raised =>
    exact (Side.registered_within hc hr.localSide known).not_raises f raised
  | foreignSide known raised =>
    exact (Side.registered_within hc hr.foreignSide known).not_raises f raised
  | extra given listed raised => exact (hr.extras _ given _ listed).kind.not_raises f raised

namespace Emit

theorem returns_bareType {t : ColumnType} (ht : t.kind.Registered)
    (options : Option Variant) : (Sql.bareType t options).Returns :=
  (returns_bind_of_returns fun _ => returns_pure _).mpr
    (returns_base (t := t.base) ht .sql _ options _)

theorem returns_keyType {side : Option Table} (hs : ∀ t, side = some t → t.Registered)
    (column : String) (options : Option Variant) :
    (keyType side column options).Returns := by
  unfold keyType
  split
  next c h =>
    obtain ⟨t, ht, hc⟩ := Option.bind_eq_some_iff.mp h
    obtain ⟨before, after, hsplit, _⟩ := List.lookup_eq_some_iff.mp hc
    exact returns_bareType (hs t ht (column, c) (by simp [hsplit])).kind options
  · exact returns_bareType (t := .plain .uuid) trivial options

/-- The junction of such a relationship can be written where the
defaults of its further columns are settled. -/
theorem junctionRenders_iff {r : Relationship} (hr : r.Registered) {context : Table}
    (hc : context.Registered) (options : Option Variant) :
    JunctionRenders r options (some context) ↔
      ∀ j, r.relation = .known .manyToMany → r.junction = some j →
        ∀ e ∈ j.extras.entries, e.2.Settled := by
  refine forall_congr' fun j => forall_congr' fun hm => forall_congr' fun hj => ?_
  have hl := returns_keyType (fun t => Side.registered_within hc hr.localSide)
    r.foreignKey.localColumn options
  have hf := returns_keyType (fun t => Side.registered_within hc hr.foreignSide)
    r.foreignKey.foreignColumn options
  rw [and_iff_right hl, and_iff_right hf]
  exact forall₂_congr fun e he => returns_definition_iff (hr.extras j hj e he) e.1 options

end Emit

/-! ## The check of relationships -/

/-- Where the columns of all junctions can be written, the relationships
of an entity stop exactly where an error is found on them, and the
defect has the code of an error that is found on the first relationship
with one. -/
theorem relationships_check_agrees (e : Entity) (options : Option Variant)
    (h : ∀ r ∈ e.relationships, Emit.JunctionRenders r options (some e.table)) :
    ((∃ d, (Emit.relationships e options).Stops d) ↔
      Diagnostic.isValid (diagnosticsOf (Check.relationships e)) = false) ∧
    ∀ d, (Emit.relationships e options).Stops d →
      ∃ before r after, e.relationships = before ++ r :: after ∧
        (∀ q ∈ before, Sound (Check.relationship e q)) ∧
        ∃ f ∈ Check.relationship e r, f.level = .error ∧ f.code = d.code := by
  have hvalid : Diagnostic.isValid (diagnosticsOf (Check.relationships e)) = true ↔
      (Emit.relationships e options).Returns := by
    rw [isValid_diagnosticsOf, Emit.returns_relationships_iff]
    simp only [Check.relationships, Sound, List.forall_mem_flatMap]
    refine forall₂_congr fun r hr => (sound_relationship_iff e r).trans ?_
    exact (and_iff_left (h r hr)).symm
  have hstops : ∀ r ∈ e.relationships, ∀ d,
      ¬ Emit.JunctionFails r options (some e.table) (.defect d) :=
    fun r hr d => (h r hr).not_fails _
  have hescapes : ¬ (Emit.relationships e options).Escapes := by
    rw [Emit.escapes_relationships_iff hstops]
    rintro ⟨r, hr, hj⟩
    exact hj (h r ((List.takeWhile_sublist _).subset hr))
  refine ⟨?_, fun d hd => ?_⟩
  · rw [← Bool.not_eq_true, hvalid]
    constructor
    · rintro ⟨d, hd⟩ hr
      exact not_stops_of_returns hr d hd
    · intro hr
      exact Classical.byContradiction fun hs =>
        hr (returns_of_not (fun d hd => hs ⟨d, hd⟩) hescapes)
  · obtain ⟨before, r, after, hsplit, hbefore, hr⟩ :=
      (Emit.stops_relationships_iff hstops d).mp hd
    have ht := tells_relationship e r
    rw [hr] at ht
    exact ⟨before, r, after, hsplit,
      fun q hq => (sound_relationship_iff e q).mpr (hbefore q hq).1, ht⟩

/-! ## Links on fixed tables -/

/-- An entity that is no more than a table and its relationships. -/
def Entity.ofLinks (table : Table) (relationships : List Relationship) : Entity where
  id := table.name
  name := ⟨table.name, table.name, none, none⟩
  version := "1"
  description := none
  table := table
  fields := []
  relationships := relationships
  indexes := []
  constraints := []

/-- A relationship of one key column with another. -/
def Relationship.ofKeys (name : String) (relation : RelationTag) (home : String)
    (other : Side) (junction : Option Junction) : Relationship where
  name := name
  relation := relation
  localSide := .named home
  foreignSide := other
  foreignKey := ⟨"id", "id", .cascade, .cascade, true, false, none⟩
  junction := junction
  description := none

/-- Orders with their tags, and a relationship of no known relation. -/
def taggedOrders (tag : ColumnType) : Entity :=
  .ofLinks (.ofKey "orders" (.plain .uuid)) [
    .ofKeys "tags" (.known .manyToMany) "orders" (.linked (.ofKey "tags" tag))
      (some ⟨"order_tags", "order_id", "tag_id", Keyed.empty.put "since" (.plain (.plain .date))⟩),
    .ofKeys "notes" (.unknown "some") "orders" (.named "notes") none]

/-- The further column of the junction of orders and tags. -/
theorem mem_order_tags {tag : ColumnType} {r : Relationship} {j : Junction}
    (hr : r ∈ (taggedOrders tag).relationships) (hj : r.junction = some j)
    {e : String × Column} (he : e ∈ j.extras.entries) :
    e = ("since", .plain (.plain .date)) := by
  rcases List.mem_cons.mp hr with rfl | hr
  · cases hj
    exact List.mem_singleton.mp he
  · obtain rfl := List.mem_singleton.mp hr
    cases hj

theorem relationships_check_agrees_tagged :
    (∀ r ∈ (taggedOrders (.plain .integer)).relationships,
      Emit.JunctionRenders r none (some (taggedOrders (.plain .integer)).table)) ∧
    ∃ d, (Emit.relationships (taggedOrders (.plain .integer)) none).Stops d := by
  have hkey : ∀ name kind, Kind.Registered kind →
      (Table.ofKey name (.plain kind)).Registered := by
    intro name kind hk e he
    obtain rfl := List.mem_singleton.mp he
    exact ⟨hk, rfl⟩
  have h : ∀ r ∈ (taggedOrders (.plain .integer)).relationships,
      Emit.JunctionRenders r none (some (taggedOrders (.plain .integer)).table) := by
    intro r hr
    have hreg : r.Registered := by
      refine ⟨?_, ?_, fun j hj e he => ?_⟩
      · rcases List.mem_cons.mp hr with rfl | hr
        · exact fun t ht => nomatch ht
        · obtain rfl := List.mem_singleton.mp hr
          exact fun t ht => nomatch ht
      · rcases List.mem_cons.mp hr with rfl | hr
        · intro t ht
          cases ht
          exact hkey "tags" .integer trivial
        · obtain rfl := List.mem_singleton.mp hr
          exact fun t ht => nomatch ht
      · rw [mem_order_tags hr hj he]
        exact ⟨trivial, rfl⟩
    refine (Emit.junctionRenders_iff hreg (hkey "orders" .uuid trivial) none).mpr ?_
    intro j _ hj e he
    rw [mem_order_tags hr hj he]
    exact fun v hv => nomatch hv
  exact ⟨h, (relationships_check_agrees _ none h).1.mpr (by decide)⟩

/-- A type whose SQL is a function that takes no column name. -/
def ColumnType.nameless : ColumnType :=
  .plain (.custom ⟨"tag", [], none, none, none, [(.sql, Emitter.source)]⟩)

/-- Such a tag lets a fault escape before the relation of the second
relationship is looked at. -/
theorem unwritable_key_hides_defect :
    (∀ r ∈ (taggedOrders .nameless).relationships, ∀ j, r.junction = some j →
      ∀ e ∈ j.extras.entries, (Emit.Sql.definition e.1 e.2 none).Returns) ∧
    Diagnostic.isValid (diagnosticsOf (Check.relationships (taggedOrders .nameless))) =
      false ∧
    ¬ ∃ d, (Emit.relationships (taggedOrders .nameless) none).Stops d := by
  refine ⟨fun r hr j hj e he => ?_, by decide, ?_⟩
  · rw [mem_order_tags hr hj he]
    exact (Emit.returns_definition_iff (c := .plain (.plain .date)) ⟨trivial, rfl⟩ "since"
      none).mpr fun v hv => nomatch hv
  · rintro ⟨d, hd⟩
    have h : (Emit.relationships (taggedOrders .nameless) none).outcome =
        .error (.misuse .wrongKind) := rfl
    cases h.symm.trans hd

end Polyschema
