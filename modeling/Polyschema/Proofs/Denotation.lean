/-
Polyschema.Proofs.Denotation — what the default of a column stands for.

A default goes through the check of its type, its stored form and a
literal, in which the decimal has a way of its own. Each step can be
undone.

* `Kind.Denotes` — a literal is read as a stored form from which the
  value is taken back.
* `defaultClause_denotes`, `defaultAttribute_denotes` — the default in
  SQL and in Prisma, and no other value has it.
* `default_denotes` — so it is with the default of a column.
-/
import Polyschema.Proofs.Default
import Polyschema.Proofs.LiteralRead
import Polyschema.Proofs.StoredForm

namespace Polyschema

open Polyschema.Number Polyschema.Calendar Polyschema.Noted Polyschema.Text

/-! ## Parts of a text -/

/-- A text that is written without a loss and has a part among others,
with blanks between them. -/
def Emit.Writes (e : Emission String) (part : String) : Prop :=
  ∃ before after, e = .done (" ".intercalate (before ++ part :: after))

theorem Emit.writes_of_mem {e : Emission String} {parts : List String} {part : String}
    (he : e = .done (" ".intercalate parts)) (h : part ∈ parts) : Emit.Writes e part := by
  obtain ⟨before, after, rfl⟩ := List.append_of_mem h
  exact ⟨before, after, he⟩

/-- A text that is written around a clause, with blanks between them: only
the clause can fail or be lossy. -/
def Emit.Around (e : Emission String) (clause : Emission (Option String)) : Prop :=
  ∃ around : Option String → String,
    (∀ part, ∃ before after, around (some part) = " ".intercalate (before ++ part :: after)) ∧
      e = around <$> clause

/-! ## Exact kinds -/

namespace Kind

theorem Exact.registered {k : Kind} (hk : k.Exact) : k.Registered := by
  induction k with
  | array element modifiers ih => exact ih hk
  | custom spec => cases hk
  | _ => trivial

/-- Only decimals have the name of decimals. -/
theorem Exact.name_eq {k : Kind} (hk : k.Exact) :
    (k.name == "decimal") = true ↔ ∃ shape, k = .decimal shape := by
  cases k with
  | custom spec => cases hk
  | _ => simp [Kind.name]

/-- A source of values is in the domain of no exact kind. -/
theorem Exact.ne_generator {k : Kind} (hk : k.Exact) {v : Value} (h : k.accepts v = .ok true) :
    v ≠ .generator := by
  rintro rfl
  cases k with
  | float => cases hk
  | custom spec => cases hk
  | _ => cases h

/-- Values that differ have different literals, if their stored forms are
read from these. -/
theorem Exact.literal_ne {k : Kind} (hk : k.Exact) {read : String → Option Value}
    {u v stored stored' : Value} {literal literal' : String} (hbv : v.Bounded) (hbu : u.Bounded)
    (hv : k.accepts v = .ok true) (hu : k.accepts u = .ok true) (hdiffers : v.same u = false)
    (hs : k.serialize v = .ok stored) (hs' : k.serialize u = .ok stored')
    (hread : read literal = some stored) (hread' : read literal' = some stored') :
    literal' ≠ literal := by
  rintro rfl
  have hstored : stored = stored' := Option.some.inj (hread.symm.trans hread')
  have hsame := Kind.same_of_serialize hk hbv hbu hv hu (hs.trans (hstored ▸ hs'.symm))
  rw [hdiffers] at hsame
  cases hsame

/-- A literal is read as a stored form that is taken back as a value,
and as the given one exactly where its kind keeps that. -/
def Denotes (k : Kind) (read : String → Option Value) (literal : String) (v : Value) : Prop :=
  ∃ stored w, read literal = some stored ∧ k.deserialize stored = .ok w ∧
    (w.same v = true ↔ k.Keeps v)

end Kind

namespace Emit

variable {t : ColumnType} {v : Value}

/-! ## SQL -/

/-- The stored form that has a literal in SQL. That of a decimal is the
literal itself. -/
def sqlStored? (k : Kind) (literal : String) : Option Value :=
  if k.name == "decimal" then some (.str literal) else Value.ofSql? literal

/-- The clause for a decimal. -/
theorem defaultClause_decimal {digits : String} (hn : (t.name == "decimal") = true)
    (hv : v ≠ .generator) (ha : t.accepts v = .ok true)
    (hs : t.serialize v = .ok (.str digits)) (name : String) (variant : Variant) :
    Sql.defaultClause t name (.data v) variant = .done (some ("DEFAULT " ++ digits)) := by
  unfold Sql.defaultClause settingValue
  split
  next h => exact absurd h hv
  next =>
    rw [storedDefault_eq_done ha hs, done_bind, hn]
    rfl

/-- The clause for a value of any other type. -/
theorem defaultClause_literal {stored : Value} {literal : String}
    (hn : (t.name == "decimal") = false) (hv : v ≠ .generator) (ha : t.accepts v = .ok true)
    (hs : t.serialize v = .ok stored) (hl : stored.sqlLiteral = .ok literal) (name : String)
    (variant : Variant) :
    Sql.defaultClause t name (.data v) variant = .done (some ("DEFAULT " ++ literal)) := by
  unfold Sql.defaultClause settingValue
  split
  next h => exact absurd h hv
  next =>
    rw [storedDefault_eq_done ha hs, done_bind, hn]
    simp only [hl]
    rfl

/-- The clause for an accepted default tells its stored form, and
denotes the default. -/
theorem defaultClause_stored (hk : t.kind.Exact) (hb : v.Bounded) (ha : t.accepts v = .ok true) :
    ∃ stored literal, t.serialize v = .ok stored ∧
      (∀ name variant, Sql.defaultClause t name (.data v) variant =
        .done (some ("DEFAULT " ++ literal))) ∧
      sqlStored? t.kind literal = some stored ∧ t.kind.Denotes Value.ofSql? literal v := by
  obtain ⟨stored, w, hs, hstored, hw, hsame⟩ := Kind.recovers hk hb ha
  have hv := hk.ne_generator ha
  by_cases hn : (t.name == "decimal") = true
  · obtain ⟨shape, hshape⟩ := hk.name_eq.mp hn
    obtain ⟨d, rfl, hd⟩ : ∃ d, v = .decimal d ∧ shape.holds d = true := by
      have ha : (Kind.decimal shape).accepts v = .ok true := hshape ▸ ha
      cases v with
      | decimal d => exact ⟨d, rfl, Except.ok.inj ha⟩
      | _ => cases ha
    cases d with
    | finite negative coefficient exponent =>
      obtain ⟨read, hread, hcases⟩ := ofSql?_decimal negative coefficient exponent
      generalize Decimal.finite negative coefficient exponent = d at *
      have hdigits : t.kind.serialize (.decimal d) = .ok (.str d.text) := by
        rw [hshape]
        rfl
      obtain rfl : stored = .str d.text := Except.ok.inj (hs.symm.trans hdigits)
      refine ⟨_, d.text, hs, defaultClause_decimal hn hv ha hs, if_pos hn, read, ?_⟩
      obtain rfl | ⟨n, rfl, hworth⟩ := hcases
      · exact ⟨w, hread, hw, hsame⟩
      · rw [hshape]
        exact ⟨.decimal (.ofInt n), hread, rfl, iff_of_true
          (by simpa [Value.same, Value.sameScalar] using hworth) trivial⟩
    | _ => cases hd
  · obtain ⟨literal, hl, hread⟩ := ofSql?_sqlLiteral hstored
    have hother : (t.name == "decimal") = false := Bool.eq_false_iff.mpr hn
    exact ⟨stored, literal, hs, defaultClause_literal hother hv ha hs hl,
      (if_neg hn).trans hread, stored, w, hread, hw, hsame⟩

/-- The clause for an accepted default denotes it, and no other value
has that clause. -/
theorem defaultClause_denotes (hk : t.kind.Exact) (hb : v.Bounded)
    (ha : t.accepts v = .ok true) :
    ∃ literal, (∀ name variant, Sql.defaultClause t name (.data v) variant =
        .done (some ("DEFAULT " ++ literal))) ∧
      t.kind.Denotes Value.ofSql? literal v ∧
      ∀ u, u.Bounded → t.accepts u = .ok true → v.same u = false → ∀ name variant,
        Sql.defaultClause t name (.data u) variant ≠ .done (some ("DEFAULT " ++ literal)) := by
  obtain ⟨stored, literal, hs, hclause, hread, hdenotes⟩ := defaultClause_stored hk hb ha
  refine ⟨literal, hclause, hdenotes, fun u hbu hau hdiffers name variant heq => ?_⟩
  obtain ⟨stored', literal', hs', hclause', hread', -⟩ := defaultClause_stored hk hbu hau
  rw [hclause' name variant] at heq
  have htext := Option.some.inj (Except.ok.inj (Noted.mk.inj heq).2)
  have hliteral : literal' = literal := by simpa [← String.toList_inj] using htext
  exact hk.literal_ne hb hbu ha hau hdiffers hs hs' hread hread' hliteral

/-! ## Prisma -/

/-- The attribute for an accepted default. -/
theorem defaultAttribute_stored (hk : t.kind.Exact) (hb : v.Bounded)
    (ha : t.accepts v = .ok true) :
    ∃ stored argument, t.serialize v = .ok stored ∧
      (∀ name, Prisma.defaultAttribute t name (.data v) =
        .done (some ("@default(" ++ argument ++ ")"))) ∧
      Value.ofJson? argument = some stored ∧ t.kind.Denotes Value.ofJson? argument v := by
  obtain ⟨stored, w, hs, hstored, hw, hsame⟩ := Kind.recovers hk hb ha
  obtain ⟨argument, hl, hread⟩ := ofJson?_attributeLiteral hstored
  refine ⟨stored, argument, hs, fun name => ?_, hread, stored, w, hread, hw, hsame⟩
  unfold Prisma.defaultAttribute settingValue
  split
  next h => exact absurd h (hk.ne_generator ha)
  next =>
    rw [storedDefault_eq_done ha hs, done_bind, hl]
    rfl

/-- The attribute for an accepted default denotes it, and no other value
has that attribute. -/
theorem defaultAttribute_denotes (hk : t.kind.Exact) (hb : v.Bounded)
    (ha : t.accepts v = .ok true) :
    ∃ argument, (∀ name, Prisma.defaultAttribute t name (.data v) =
        .done (some ("@default(" ++ argument ++ ")"))) ∧
      t.kind.Denotes Value.ofJson? argument v ∧
      ∀ u, u.Bounded → t.accepts u = .ok true → v.same u = false → ∀ name,
        Prisma.defaultAttribute t name (.data u) ≠
          .done (some ("@default(" ++ argument ++ ")")) := by
  obtain ⟨stored, argument, hs, hattribute, hread, hdenotes⟩ := defaultAttribute_stored hk hb ha
  refine ⟨argument, hattribute, hdenotes, fun u hbu hau hdiffers name heq => ?_⟩
  obtain ⟨stored', argument', hs', hattribute', hread', -⟩ := defaultAttribute_stored hk hbu hau
  rw [hattribute' name] at heq
  have htext := Option.some.inj (Except.ok.inj (Noted.mk.inj heq).2)
  have hargument : argument' = argument := by simpa [← String.toList_inj] using htext
  exact hk.literal_ne hb hbu ha hau hdiffers hs hs' hread hread' hargument

/-! ## Columns -/

theorem not_computed {c : Column} (hv : c.default = some v) : isGiven c.generatedAs = false := by
  have h := c.computed_alone
  rw [hv] at h
  simpa [computedAlone] using h

section

variable {c : Column} {clause : String} (hk : c.type.kind.Exact) (hm : c.type.modifiers = [])
  (hv : c.default = some v)
include hk hm hv

/-- A column with a default is written in SQL around the clause for it. -/
theorem around_definition (name : String) (options : Option Variant) :
    Around (Sql.definition name c options)
      (Sql.defaultClause c.resolved name (.data v) (Variant.ofOptions options)) := by
  obtain ⟨fragment, hbase⟩ := base_eq_done hk.registered .sql name options (name ++ " TEXT")
  refine ⟨fun default => " ".intercalate (fragment :: (if c.nullable then "NULL" else "NOT NULL") ::
    [if c.unique then some "UNIQUE" else none, default,
      c.mode?.bind (Sql.modeClause (Variant.ofOptions options)),
      Sql.computedClause c.generatedAs,
      Sql.commentClause (Variant.ofOptions options) c.comment].filterMap id), fun clause => ?_, ?_⟩
  · have hmem : clause ∈ fragment :: (if c.nullable then "NULL" else "NOT NULL") ::
        [if c.unique then some "UNIQUE" else none, some clause,
          c.mode?.bind (Sql.modeClause (Variant.ofOptions options)),
          Sql.computedClause c.generatedAs,
          Sql.commentClause (Variant.ofOptions options) c.comment].filterMap id :=
      List.mem_cons_of_mem _ (List.mem_cons_of_mem _
        (List.mem_filterMap.mpr ⟨some clause, by simp, rfl⟩))
    obtain ⟨before, after, hparts⟩ := List.append_of_mem hmem
    exact ⟨before, after, congrArg _ hparts⟩
  · rw [definition_eq hm, defaultClause_congr c.resolved_kind]
    unfold Sql.laidOut Sql.clauses Column.onDefault
    rw [hbase, done_bind, hv]
    simp only [map_eq_pure_bind, bind_assoc, pure_bind, Option.join_some]

/-- A column with a default that has a clause without a loss is written
in SQL with that clause, and without a loss. -/
theorem writes_definition (name : String) (options : Option Variant)
    (hclause : Sql.defaultClause c.resolved name (.data v) (Variant.ofOptions options) =
      .done (some clause)) : Writes (Sql.definition name c options) clause := by
  obtain ⟨around, haround, hdefinition⟩ := around_definition hk hm hv name options
  obtain ⟨before, after, htext⟩ := haround clause
  refine ⟨before, after, ?_⟩
  rw [hdefinition, hclause, ← htext]
  rfl

/-- A column with a default that has an attribute without a loss is
written in Prisma with that attribute, and without a loss. -/
theorem writes_prismaColumn (name : String) (options : Option Variant)
    (hclause : Prisma.defaultAttribute c.resolved name (.data v) = .done (some clause)) :
    Writes (Prisma.column c.resolved name options c.generatedAs) clause := by
  obtain ⟨fragment, hbase⟩ := base_eq_done hk.registered .prisma name options s!"{name} String"
  rw [defaultAttribute_congr c.resolved_kind] at hclause
  have hattributes : Prisma.attributes c.primary name c = .done (
      (if c.unique then ["@unique"] else []) ++ (if c.primary then ["@id"] else []) ++ [clause] ++
        if c.autoIncrement then ["@default(autoincrement())"] else []) := by
    unfold Prisma.attributes Column.onDefault
    rw [hv, not_computed hv]
    dsimp only
    rw [hclause]
    rfl
  rw [prismaColumn_eq hm]
  unfold Prisma.laidOut
  rw [hbase, done_bind]
  dsimp only
  rw [hattributes, done_bind]
  refine writes_of_mem rfl (List.mem_cons_of_mem _ (List.mem_cons_of_mem _ ?_))
  exact List.mem_append_right _ (by simp)

end

end Emit

/-- The default of a column whose type has an exact kind is written in
SQL and in Prisma without a loss. What is read from its literals is taken
back as the default, but for moments with an offset that reading does not
keep. And no default that differs is written with the same clause or
attribute. -/
theorem default_denotes {c : Column} {v : Value} (hk : c.type.kind.Exact)
    (hm : c.type.modifiers = []) (hv : c.default = some v) (hb : v.Bounded)
    (ha : c.type.accepts v = .ok true) (name : String) (options : Option Variant) :
    ∃ literal argument,
      Emit.Writes (Emit.Sql.definition name c options) ("DEFAULT " ++ literal) ∧
      Emit.Writes (Emit.Prisma.column c.resolved name options c.generatedAs)
        ("@default(" ++ argument ++ ")") ∧
      c.type.kind.Denotes Value.ofSql? literal v ∧ c.type.kind.Denotes Value.ofJson? argument v ∧
      ∀ u, u.Bounded → c.type.accepts u = .ok true → v.same u = false →
        Emit.Sql.defaultClause c.type name (.data u) (Variant.ofOptions options) ≠
          .done (some ("DEFAULT " ++ literal)) ∧
        Emit.Prisma.defaultAttribute c.type name (.data u) ≠
          .done (some ("@default(" ++ argument ++ ")")) := by
  obtain ⟨literal, hclause, hliteral, hother⟩ :=
    Emit.defaultClause_denotes (t := c.type) hk hb ha
  obtain ⟨argument, hattribute, hargument, hother'⟩ :=
    Emit.defaultAttribute_denotes (t := c.type) hk hb ha
  refine ⟨literal, argument, Emit.writes_definition hk hm hv name options ?_,
    Emit.writes_prismaColumn hk hm hv name options ?_, hliteral, hargument,
    fun u hbu hau hu => ⟨hother u hbu hau hu _ _, hother' u hbu hau hu _⟩⟩
  · rw [Emit.defaultClause_congr c.resolved_kind]
    exact hclause name _
  · rw [Emit.defaultAttribute_congr c.resolved_kind]
    exact hattribute name

/-- A column of lists of prices, by default of one price and a negative
zero. -/
def pricesColumn : Column :=
  { Column.plain (.plain (.array (.decimal (.free none)) [])) with
    default := some (.list [.decimal (.finite false 150 (-2)), .decimal (.finite true 0 3)])
    computed_alone := rfl }

theorem default_denotes_prices :
    let c := pricesColumn
    let v := Value.list [.decimal (.finite false 150 (-2)), .decimal (.finite true 0 3)]
    c.type.kind.Exact ∧ c.type.modifiers = [] ∧ c.default = some v ∧ v.Bounded ∧
      c.type.accepts v = .ok true ∧ ∃ literal argument,
        Emit.Writes (Emit.Sql.definition "prices" c none) ("DEFAULT " ++ literal) ∧
        Emit.Writes (Emit.Prisma.column c.resolved "prices" none c.generatedAs)
          ("@default(" ++ argument ++ ")") ∧
        c.type.kind.Denotes Value.ofSql? literal v ∧
        c.type.kind.Denotes Value.ofJson? argument v := by
  intro c v
  have hprice : (Decimal.finite false 150 (-2)).Bounded := by decide
  have hzero : (Decimal.finite true 0 3).Bounded := by decide
  have hb : v.Bounded := ⟨hprice, hzero, trivial⟩
  obtain ⟨literal, argument, hsql, hprisma, hliteral, hargument, -⟩ :=
    default_denotes (c := c) (v := v) trivial rfl rfl hb rfl "prices" none
  exact ⟨trivial, rfl, rfl, hb, rfl, literal, argument, hsql, hprisma, hliteral, hargument⟩

/-- A column of moments, by default one with an offset of one
microsecond. -/
def barelyOffColumn : Column :=
  { Column.plain (.plain .timestamp) with
    default := some (.timestamp barelyOff)
    computed_alone := rfl }

/-- The offset of the default is written, but not read. -/
theorem barelyOff_default_read_changed :
    let v := Value.timestamp barelyOff
    barelyOffColumn.type.accepts v = .ok true ∧
      Emit.Sql.definition "at" barelyOffColumn none =
        .done "at TIMESTAMP NOT NULL DEFAULT '2024-01-02T03:04:05+00:00:00.000001'" ∧
      ∃ stored w, Value.ofSql? "'2024-01-02T03:04:05+00:00:00.000001'" = some stored ∧
        barelyOffColumn.type.deserialize stored = .ok w ∧ w.same v = false := by
  intro v
  obtain ⟨stored, w, hs, -, hw, hsame⟩ :=
    Kind.recovers (k := .timestamp) (v := v) trivial trivial rfl
  have hstored : stored = .str "2024-01-02T03:04:05+00:00:00.000001" :=
    (Except.ok.inj hs).symm
  have hlost : ¬ Kind.timestamp.Keeps v := fun hkept =>
    absurd (hkept ⟨1, by decide⟩ rfl) (by simp [Offset.Kept])
  refine ⟨rfl, rfl, stored, w, ?_, hw, Bool.eq_false_iff.mpr fun h => hlost (hsame.mp h)⟩
  rw [hstored]
  rfl

end Polyschema
