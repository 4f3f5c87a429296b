/-
Polyschema.Proofs.Nullable — how nullability is written.

Each dialect has its own place for it: SQL says it after the fragment of
the type, Drizzle by a call there, Prisma at the end of the type token,
and Convex around the validator. The last two take the fragment apart at
the first blank or colon, which no identifier has.

* `Kind.member?_validator` — a member is a name with the validator of its
  kind, by induction on the lists.
* `Kind.spot` — a fragment in parts: the token that is marked, with what
  stands before and behind it.
* `MarksNullable` — texts that differ in that mark alone.
* `nullability_marked` — so it is with every column of a registered kind.
-/
import Polyschema.Proofs.Cut
import Polyschema.Proofs.Default

namespace Polyschema

open Polyschema.Text Polyschema.Noted

/-! ## Identifiers -/

namespace Text

theorem continuesName_of_opensName {c : Char} (h : opensName c = true) :
    continuesName c = true := by
  unfold opensName at h
  unfold continuesName Char.isAlphanum
  simp only [Bool.or_eq_true] at h ⊢
  exact h.imp_left .inl

/-- An identifier has only letters, digits, underscores and perhaps a
line feed. -/
theorem isIdentifier_chars {name : String} (h : isIdentifier name = true) {c : Char}
    (hc : c ∈ name.toList) : continuesName c = true ∨ c = '\n' := by
  unfold isIdentifier at h
  cases hname : name.toList with
  | nil => rw [hname] at hc; cases hc
  | cons first rest =>
    rw [hname] at h hc
    obtain ⟨hfirst, htail⟩ := Bool.and_eq_true_iff.mp h
    rcases List.mem_cons.mp hc with rfl | hrest
    · exact .inl (continuesName_of_opensName hfirst)
    · rw [← List.takeWhile_append_dropWhile (p := continuesName) (l := rest),
        List.mem_append] at hrest
      rcases hrest with hword | hend
      · exact .inl (List.mem_takeWhile_imp hword)
      · right
        cases hdrop : rest.dropWhile continuesName with
        | nil => rw [hdrop] at hend; cases hend
        | cons d tail =>
          rw [hdrop] at htail hend
          have hfeed : d :: tail = ['\n'] := by simpa using htail
          rw [hfeed] at hend
          exact List.mem_singleton.mp hend

theorem blank_not_mem {name : String} (h : isIdentifier name = true) : ' ' ∉ name.toList :=
  fun hc => (isIdentifier_chars h hc).elim nofun nofun

/-- A colon with a blank does not stand in an identifier. -/
theorem not_infix_of_isIdentifier {name : String} (h : isIdentifier name = true) :
    ¬ ": ".toList <:+: name.toList := fun hwithin =>
  (isIdentifier_chars h (hwithin.subset (List.mem_cons_self (a := ':')))).elim nofun nofun

end Text

/-! ## Fragments in parts -/

/-- A text in parts: a token with what stands before and behind it. -/
structure Spot where
  before : String
  token : String
  behind : String

/-- The parts put together. -/
def Spot.text (s : Spot) : String := s.before ++ s.token ++ s.behind

namespace Kind

variable {k : Kind} {name : String}

/-- The validator of a registered kind. -/
def validator : Kind → String
  | string _ | date | uuid => "v.string()"
  | integer | float | decimal _ | timestamp => "v.number()"
  | boolean => "v.boolean()"
  | json | custom _ => "v.any()"
  | enum members => literalUnion members.list
  | array element _ => "v.array(" ++ element.validator ++ ")"

/-- The fragment of a kind with the token at which a dialect writes
nullability: the type token in Prisma, the validator in Convex, and the
whole fragment in SQL and Drizzle. -/
def spot (k : Kind) (d : Dialect) (name : String) (options : Option Variant) : Spot :=
  match d with
  | .sql =>
    let v := Variant.ofOptions options
    ⟨"", name ++ " " ++ k.sqlType v ++ k.sqlCheck v name, ""⟩
  | .drizzle => ⟨"", callText k.builder (s!"'{name}'" :: k.builderOptions), ""⟩
  | .prisma => ⟨name ++ " ", k.scalarType, spaced k.nativeType⟩
  | .convex => ⟨name ++ ": ", k.validator, ""⟩

section

variable (hn : ¬ ": ".toList <:+: name.toList)
include hn

/-- The name of a member is cut off, and only the name. -/
theorem cut_memberText (validator : String) :
    cut ": " (memberText name validator) = (name, validator) :=
  cut_append_of_not_infix (show ": ".toList = ':' :: [' '] from rfl) (by decide) hn validator

theorem afterFirst_memberText (validator : String) :
    afterFirst ": " (memberText name validator) = validator :=
  afterFirst_append_of_not_infix (show ": ".toList = ':' :: [' '] from rfl) (by decide) hn validator

/-- A member is a name and a validator. In a list of lists the name of the
items is put before them and cut off again at each level. -/
theorem member?_validator (hk : k.Registered) (options : Option Variant) :
    k.member? name options = some (.ok (memberText name k.validator)) := by
  induction k with
  | custom spec => cases hk
  | array element modifiers ih =>
    rw [member?, ih hk]
    simp only [Except.map, afterFirst_memberText hn, validator]
  | _ => rfl

end

theorem blank_not_mem_scalarType (k : Kind) : ' ' ∉ k.scalarType.toList := by
  cases k <;> simp [scalarType]

/-- A native type is one attribute at most, and not an empty one. -/
theorem nativeType_cases (k : Kind) :
    k.nativeType = [] ∨ ∃ own, k.nativeType = [own] ∧ own ≠ "" := by
  unfold nativeType
  split
  · exact .inr ⟨_, rfl, fun h => nomatch (String.append_eq_empty_iff.mp h).2⟩
  · exact .inr ⟨_, rfl, fun h => nomatch (String.append_eq_empty_iff.mp h).2⟩
  · exact .inr ⟨_, rfl, by decide⟩
  · exact .inr ⟨_, rfl, by decide⟩
  · exact .inl rfl

/-- The fragment of a registered kind is that of its parts. -/
theorem fragment?_spot (hk : k.Registered) (hn : isIdentifier name = true) (d : Dialect)
    (options : Option Variant) :
    k.fragment? d name options = some (.ok (k.spot d name options).text) := by
  have hfragment : k.fragment? d name options = match d with
      | .sql => some (.ok (name ++ " " ++ k.sqlType (Variant.ofOptions options) ++
          k.sqlCheck (Variant.ofOptions options) name))
      | .drizzle => some (.ok (callText k.builder (s!"'{name}'" :: k.builderOptions)))
      | .prisma => some (.ok (" ".intercalate (name :: k.scalarType :: k.nativeType)))
      | .convex => k.member? name options := by
    cases k with
    | custom spec => cases hk
    | _ => rfl
  rw [hfragment]
  cases d with
  | sql => simp [spot, Spot.text]
  | drizzle => simp [spot, Spot.text]
  | prisma =>
    dsimp only
    rw [intercalate_cons_spaced, spaced_cons, ← String.append_assoc, ← String.append_assoc]
    rfl
  | convex =>
    dsimp only
    rw [member?_validator (not_infix_of_isIdentifier hn) hk]
    simp [spot, Spot.text, memberText]

/-- In Prisma the cuts at blanks find the parts of a fragment. -/
theorem cut_spot (hn : isIdentifier name = true) (options : Option Variant) :
    ∃ own, cut " " (k.spot .prisma name options).text =
        (name, k.scalarType ++ spaced k.nativeType) ∧
      cut " " (k.scalarType ++ spaced k.nativeType) = (k.scalarType, own) ∧
      (if own = "" then [] else [own]) = k.nativeType := by
  have hhead : (k.spot .prisma name options).text =
      name ++ " " ++ (k.scalarType ++ spaced k.nativeType) := by
    simp only [spot, Spot.text, String.append_assoc]
  rw [hhead, cut_append (c := ' ') rfl (blank_not_mem hn)]
  obtain h | ⟨own, h, hown⟩ := k.nativeType_cases
  · refine ⟨"", rfl, ?_, by rw [h]; rfl⟩
    rw [h, spaced_nil, String.append_empty]
    exact cut_of_not_mem (c := ' ') rfl k.blank_not_mem_scalarType
  · refine ⟨own, rfl, ?_, by rw [h, if_neg hown]⟩
    rw [h, spaced_cons, spaced_nil, String.append_empty, ← String.append_assoc]
    exact cut_append (c := ' ') rfl k.blank_not_mem_scalarType own

end Kind

/-! ## Marks -/

/-- A token with the mark of nullability. -/
def nullMark (d : Dialect) (nullable : Bool) (token : String) : String :=
  match d with
  | .sql => token ++ if nullable then " NULL" else " NOT NULL"
  | .drizzle => token ++ if nullable then "" else ".notNull()"
  | .prisma => token ++ if nullable then "?" else ""
  | .convex => if nullable then "v.optional(" ++ token ++ ")" else token

/-- A text in parts with its token marked. -/
def Spot.marked (s : Spot) (d : Dialect) (nullable : Bool) : String :=
  s.before ++ nullMark d nullable s.token ++ s.behind

theorem nullMark_ne (d : Dialect) (token : String) :
    nullMark d true token ≠ nullMark d false token := by
  intro h
  have hlength := congrArg String.length h
  cases d with
  | sql =>
    have hwords : " NULL".length ≠ " NOT NULL".length := by decide
    simp [nullMark, String.length_append, hwords] at hlength
  | drizzle =>
    have hcall : ".notNull()".length = 10 := by decide
    simp [nullMark, String.length_append, hcall] at hlength
  | prisma =>
    simp [nullMark, String.length_append] at hlength
  | convex =>
    have hcall : "v.optional(".length = 11 := by decide
    simp only [nullMark, if_true, Bool.false_eq_true, if_false, String.length_append,
      hcall] at hlength
    omega

/-- The mark tells whether a column is nullable. -/
theorem Spot.marked_ne (s : Spot) (d : Dialect) : s.marked d true ≠ s.marked d false := by
  unfold Spot.marked
  rw [ne_eq, String.append_left_inj, String.append_right_inj]
  exact nullMark_ne d s.token

/-- The column with its nullability set. -/
def Column.withNullable (c : Column) (nullable : Bool) : Column := { c with nullable := nullable }

namespace Emit

/-- Texts for a column that is nullable and one that is not, which differ
in the mark at a token alone: what follows is the same, and so is what is
lost on the way. -/
structure MarksNullable (d : Dialect) (s : Spot) (written : Bool → Emission String) : Prop where
  notes : (written true).notes = (written false).notes
  outcome : ∃ after : Except Fault String, ∀ nullable,
    (written nullable).outcome = (s.marked d nullable ++ ·) <$> after

/-- It is so where the same work is done for what follows. -/
theorem MarksNullable.of_map {d : Dialect} {s : Spot} {written : Bool → Emission String}
    (rest : Emission String)
    (h : ∀ nullable, written nullable = (s.marked d nullable ++ ·) <$> rest) :
    MarksNullable d s written where
  notes := by rw [h, h, notes_map, notes_map]
  outcome := ⟨rest.outcome, fun nullable => by rw [h, outcome_map]⟩

/-- The text of a column with its own flags. -/
def ownText (d : Dialect) (options : Option Variant) (name : String) (c : Column) :
    Emission String :=
  match d with
  | .sql => Sql.definition name c options
  | .drizzle => Drizzle.column c.resolved name options c.generatedAs
  | .prisma => Prisma.column c.resolved name options c.generatedAs
  | .convex => Convex.column c.resolved name options c.generatedAs

variable {c : Column} {name : String} (hc : c.Registered) (hn : isIdentifier name = true)
  (options : Option Variant)
include hc hn

theorem base_spot (d : Dialect) (fallback : String) :
    base c.type d name options fallback = .done (c.type.kind.spot d name options).text := by
  unfold base
  rw [Kind.fragment?_spot hc.kind hn]
  rfl

theorem marksNullable_sql :
    MarksNullable .sql (c.type.kind.spot .sql name options) fun nullable =>
      Sql.laidOut name (c.withNullable nullable) options := by
  refine .of_map (spaced <$> Sql.clauses name c options) fun nullable => ?_
  have hclauses : Sql.clauses name (c.withNullable nullable) options =
      Sql.clauses name c options := rfl
  have hbase := base_spot hc hn options .sql (name ++ " TEXT")
  unfold Sql.laidOut
  rw [hclauses, Column.withNullable, hbase, done_bind, map_eq_pure_bind, map_eq_pure_bind,
    bind_assoc]
  refine bind_congr fun clauses => congrArg pure ?_
  rw [intercalate_cons_spaced, spaced_cons]
  cases nullable <;> simp [Spot.marked, Spot.text, Kind.spot, nullMark, String.append_assoc]

theorem marksNullable_drizzle (inline : Bool) :
    MarksNullable .drizzle (c.type.kind.spot .drizzle name options) fun nullable =>
      Drizzle.laidOut inline name (c.withNullable nullable) options := by
  refine .of_map (Drizzle.calls inline name c) fun nullable => ?_
  have hcalls : Drizzle.calls inline name (c.withNullable nullable) =
      Drizzle.calls inline name c := rfl
  have hbase := base_spot hc hn options .drizzle s!"text('{name}')"
  unfold Drizzle.laidOut
  rw [hcalls, Column.withNullable, hbase, done_bind, map_eq_pure_bind]
  refine bind_congr fun calls => congrArg pure ?_
  cases nullable <;> simp [Spot.marked, Spot.text, Kind.spot, nullMark]

theorem marksNullable_prisma (inline : Bool) :
    MarksNullable .prisma (c.type.kind.spot .prisma name options) fun nullable =>
      Prisma.laidOut inline name (c.withNullable nullable) options := by
  refine .of_map (spaced <$> Prisma.attributes inline name c) fun nullable => ?_
  have hattributes : Prisma.attributes inline name (c.withNullable nullable) =
      Prisma.attributes inline name c := rfl
  have hbase := base_spot hc hn options .prisma s!"{name} String"
  obtain ⟨own, hhead, htype, hown⟩ := c.type.kind.cut_spot hn options
  unfold Prisma.laidOut
  rw [hattributes, Column.withNullable, hbase, done_bind, map_eq_pure_bind, map_eq_pure_bind,
    bind_assoc]
  simp only [hhead, htype, hown]
  refine bind_congr fun attributes => congrArg pure ?_
  rw [intercalate_cons_spaced, spaced_cons, spaced_append]
  cases nullable <;> simp [Spot.marked, Kind.spot, nullMark, String.append_assoc]

theorem marksNullable_convex :
    MarksNullable .convex (c.type.kind.spot .convex name options) fun nullable =>
      Convex.laidOut name (c.withNullable nullable) options := by
  refine .of_map ((fun _ => "") <$> (⟨Convex.losses name c, .ok ()⟩ : Emission Unit))
    fun nullable => ?_
  have hlosses : Convex.losses name (c.withNullable nullable) = Convex.losses name c := rfl
  have hbase := base_spot hc hn options .convex s!"{name}: v.string()"
  have hcut : cut ": " (c.type.kind.spot .convex name options).text =
      (name, c.type.kind.validator) := by
    have htext : (c.type.kind.spot .convex name options).text =
        name ++ ": " ++ c.type.kind.validator := by simp [Spot.text, Kind.spot]
    rw [htext]
    exact Kind.cut_memberText (not_infix_of_isIdentifier hn) _
  unfold Convex.laidOut
  rw [hlosses, Column.withNullable, hbase, done_bind, map_eq_pure_bind, map_eq_pure_bind,
    bind_assoc]
  simp only [hcut]
  refine bind_congr fun _ => ?_
  rw [pure_bind]
  refine congrArg pure ?_
  cases nullable <;> simp [Spot.marked, Kind.spot, nullMark, String.append_assoc] <;> rfl

theorem marksNullable (d : Dialect) :
    MarksNullable d (c.type.kind.spot d name options) fun nullable =>
      ownText d options name (c.withNullable nullable) := by
  have hbare (nullable : Bool) : (c.withNullable nullable).type.modifiers = [] := hc.bare
  unfold ownText
  cases d with
  | sql =>
    simp only [definition_eq (hbare _)]
    exact marksNullable_sql hc hn options
  | drizzle =>
    simp only [drizzleColumn_eq (hbare _)]
    exact marksNullable_drizzle hc hn options c.primary
  | prisma =>
    simp only [prismaColumn_eq (hbare _)]
    exact marksNullable_prisma hc hn options c.primary
  | convex =>
    simp only [convexColumn_eq (hbare _)]
    exact marksNullable_convex hc hn options

/-- A column of a registered kind, as a table has it with any key or by
itself, is written nullable and not nullable with one difference: the
mark at a spot in the fragment of its kind. What stands before and after
is the same, and so are the losses. So every dialect tells whether a
column is nullable, and all tell it of the same columns. -/
theorem nullability_marked (d : Dialect) :
    c.type.kind.fragment? d name options =
        some (.ok (c.type.kind.spot d name options).text) ∧
      (c.type.kind.spot d name options).marked d true ≠
        (c.type.kind.spot d name options).marked d false ∧
      (∀ key, MarksNullable d (c.type.kind.spot d name options) fun nullable =>
        columnIn d key options name (c.withNullable nullable)) ∧
      MarksNullable d (c.type.kind.spot d name options) fun nullable =>
        columnText (c.withNullable nullable).resolved d name options := by
  refine ⟨Kind.fragment?_spot hc.kind hn d options, Spot.marked_ne _ d, fun key => ?_, ?_⟩
  · -- beside SQL the key of the table stands in for the flag
    cases d with
    | sql => exact marksNullable hc hn options .sql
    | drizzle =>
      exact marksNullable (c := c.withPrimary (key == [name])) ⟨hc.kind, hc.bare⟩ hn options
        .drizzle
    | prisma =>
      exact marksNullable (c := c.withPrimary (key == [name])) ⟨hc.kind, hc.bare⟩ hn options .prisma
    | convex =>
      exact marksNullable (c := c.withPrimary (key == [name])) ⟨hc.kind, hc.bare⟩ hn options .convex
  · -- by itself a column type has neither an expression nor a comment
    have hbare : ({ c with generatedAs := none, comment := none, computed_alone := rfl } :
        Column).Registered := ⟨hc.kind, hc.bare⟩
    have hmarks := marksNullable hbare hn options d
    cases d <;> exact hmarks

end Emit

/-- A column for lists of lists of labels. -/
def labelsColumn : Column :=
  { Column.plain (.plain (.array (.array (.string (some 5)) []) [])) with
    unique := true, default := some (.list []) }

theorem nullability_marked_labels :
    labelsColumn.Registered ∧ isIdentifier "labels" = true ∧
      Emit.MarksNullable .sql ⟨"", "labels JSONB", ""⟩ (fun nullable =>
        Emit.columnIn .sql ["id"] none "labels" (labelsColumn.withNullable nullable)) ∧
      Emit.MarksNullable .convex ⟨"labels: ", "v.array(v.array(v.string()))", ""⟩ fun nullable =>
        Emit.columnIn .convex ["id"] none "labels" (labelsColumn.withNullable nullable) := by
  have hc : labelsColumn.Registered := ⟨trivial, rfl⟩
  have hn : isIdentifier "labels" = true := by decide
  exact ⟨hc, hn, (Emit.nullability_marked hc hn none .sql).2.2.1 ["id"],
    (Emit.nullability_marked hc hn none .convex).2.2.1 ["id"]⟩

end Polyschema
