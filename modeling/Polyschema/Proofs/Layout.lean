/-
Polyschema.Proofs.Layout — the text of a column, part by part.

A column whose type has no modifiers of its own is written as the
fragment of its type with a mark for each of its flags, and after them
what stands for its values: its default, its identity, its expression.

* `Column.flags`, `lastSetting?_resolved` — the modifiers that the flags
  become, and what each kind of them is set to.
* `each_resolved` — work on these modifiers.
* `spaced` — texts with blanks before them.
* `Sql.laidOut`, `Drizzle.laidOut`, `Prisma.laidOut`, `Convex.laidOut` —
  the marks with what stands between them.
* `definition_eq`, `drizzleColumn_eq`, `prismaColumn_eq`,
  `convexColumn_eq` — a column is written so.
-/
import Polyschema.Proofs.Table

namespace Polyschema

open Polyschema.Text Polyschema.Noted

/-! ## Flags as modifiers -/

namespace Column

variable {c : Column}

/-- The modifiers that the flags of a column set on its type. -/
def flags (c : Column) : List Modifier :=
  ⟨.nullable, .flag c.nullable⟩ ::
    ((if c.unique then [⟨.unique, .flag true⟩] else []) ++
    (if c.primary then [⟨.primaryKey, .flag true⟩] else []) ++
    (c.default.map fun v => ⟨.default, .data v⟩).toList ++
    if c.autoIncrement then [⟨.autoIncrement, .identity (c.generated.getD .byDefault)⟩] else [])

/-- The modifiers of a column are its flags, where its type has none of its
own. -/
theorem resolved_modifiers (hc : c.type.modifiers = []) :
    c.resolved.modifiers = c.flags := by
  unfold Column.resolved flags
  cases c.unique <;> cases c.primary <;> cases c.default <;> cases c.autoIncrement <;>
    simp [hc, ColumnType.withNullable, ColumnType.withUnique, ColumnType.withPrimaryKey,
      ColumnType.withDefault, ColumnType.withAutoIncrement, ColumnType.withModifier,
      setModifier]

/-- The mode of an identity column. -/
def mode? (c : Column) : Option Generation :=
  if c.autoIncrement then some (c.generated.getD .byDefault) else none

/-- What a column sets the modifiers of a kind to. -/
def setting? (c : Column) : ModifierKind → Option Setting
  | .nullable => some (.flag c.nullable)
  | .unique => if c.unique then some (.flag true) else none
  | .primaryKey => if c.primary then some (.flag true) else none
  | .default => c.default.map .data
  | .autoIncrement => c.mode?.map .identity

/-- The modifiers that flags become are set as the flags say. -/
theorem lastSetting?_resolved (hc : c.type.modifiers = []) (kind : ModifierKind) :
    Emit.lastSetting? kind c.resolved.modifiers = c.setting? kind := by
  rw [resolved_modifiers hc, flags]
  unfold setting? mode?
  cases kind <;> cases c.unique <;> cases c.primary <;> cases c.default <;>
    cases c.autoIncrement <;> rfl

/-- Work on the default of a column, if it has one. -/
def onDefault {β : Type} (c : Column) (f : Setting → Emission β) : Emission (Option β) :=
  match c.default with
  | some v => some <$> f (.data v)
  | none => pure none

/-- Only the work on the default can fail or leave notes, where the work
on the other modifiers does not. -/
theorem each_resolved (hc : c.type.modifiers = []) {β : Type} {f : Modifier → Emission β}
    (ofNullable : Bool → β) (ofUnique ofKey : β) (ofMode : Generation → β)
    (hn : ∀ b, f ⟨.nullable, .flag b⟩ = pure (ofNullable b))
    (hu : f ⟨.unique, .flag true⟩ = pure ofUnique)
    (hk : f ⟨.primaryKey, .flag true⟩ = pure ofKey)
    (hm : ∀ g, f ⟨.autoIncrement, .identity g⟩ = pure (ofMode g)) :
    each f c.resolved.modifiers = (do
      let default ← c.onDefault fun setting => f ⟨.default, setting⟩
      pure (ofNullable c.nullable :: ((if c.unique then [ofUnique] else []) ++
        (if c.primary then [ofKey] else []) ++ default.toList ++
        (c.mode?.map ofMode).toList))) := by
  have hunique : each f (if c.unique then [⟨.unique, .flag true⟩] else []) =
      pure (if c.unique then [ofUnique] else []) := by
    cases c.unique <;> simp [each_singleton, hu]
  have hkey : each f (if c.primary then [⟨.primaryKey, .flag true⟩] else []) =
      pure (if c.primary then [ofKey] else []) := by
    cases c.primary <;> simp [each_singleton, hk]
  have hdefault : each f (c.default.map fun v => (⟨.default, .data v⟩ : Modifier)).toList =
      Option.toList <$> c.onDefault fun setting => f ⟨.default, setting⟩ := by
    unfold onDefault
    cases c.default <;> simp [each_singleton]
  have hmode : each f (if c.autoIncrement then
        [⟨.autoIncrement, .identity (c.generated.getD .byDefault)⟩] else []) =
      pure (c.mode?.map ofMode).toList := by
    unfold mode?
    cases c.autoIncrement <;> simp [each_singleton, hm]
  rw [resolved_modifiers hc, flags, each_cons, hn, each_append, each_append, each_append, hunique,
    hkey, hdefault, hmode]
  simp only [pure_bind, bind_assoc, bind_map_left, List.append_assoc]

end Column

/-! ## Texts in a row -/

namespace Text

theorem join_toList (s : Option String) : String.join s.toList = s.getD "" := by
  cases s <;> simp [String.join_cons, String.join_nil]

/-- Texts with a blank before each of them. -/
def spaced (texts : List String) : String := String.join (texts.map (" " ++ ·))

@[simp] theorem spaced_nil : spaced [] = "" := rfl

@[simp] theorem spaced_cons (s : String) (texts : List String) :
    spaced (s :: texts) = " " ++ s ++ spaced texts := by
  rw [spaced, List.map_cons, String.join_cons, spaced]

theorem spaced_append (texts texts' : List String) :
    spaced (texts ++ texts') = spaced texts ++ spaced texts' := by
  rw [spaced, List.map_append, String.join_append, spaced, spaced]

theorem intercalate_cons_spaced (s : String) (texts : List String) :
    " ".intercalate (s :: texts) = s ++ spaced texts := by
  induction texts generalizing s with
  | nil => simp
  | cons t texts ih =>
    rw [String.intercalate_cons_cons, ih, spaced_cons]
    simp only [String.append_assoc]

end Text

namespace Emit

/-- What does not look at the modifiers of a type is the same for types of
one kind. -/
theorem eq_of_kind {α : Type} {f : ColumnType → α} (hf : ∀ t, f t = f t.base)
    {t t' : ColumnType} (h : t.kind = t'.kind) : f t = f t' := by
  rw [hf t, hf t', ColumnType.base, h, ColumnType.base]

theorem base_congr {t t' : ColumnType} (h : t.kind = t'.kind) : base t = base t' :=
  eq_of_kind (fun _ => rfl) h

theorem defaultClause_congr {t t' : ColumnType} (h : t.kind = t'.kind) :
    Sql.defaultClause t = Sql.defaultClause t' := eq_of_kind (fun _ => rfl) h

theorem defaultAttribute_congr {t t' : ColumnType} (h : t.kind = t'.kind) :
    Prisma.defaultAttribute t = Prisma.defaultAttribute t' := eq_of_kind (fun _ => rfl) h

theorem defaultCall_congr {t t' : ColumnType} (h : t.kind = t'.kind) :
    Drizzle.defaultCall t = Drizzle.defaultCall t' := eq_of_kind (fun _ => rfl) h

variable {c : Column} (hc : c.type.modifiers = []) (name : String) (options : Option Variant)
include hc

/-! ## SQL -/

/-- The clause for the mode of an identity column. -/
def Sql.modeClause (v : Variant) (mode : Generation) : Option String :=
  match v, mode with
  | .mysql, _ => some "AUTO_INCREMENT"
  | .sqlite, _ => none
  | .postgres, .always => some "GENERATED ALWAYS AS IDENTITY"
  | .postgres, .byDefault => some "GENERATED BY DEFAULT AS IDENTITY"

/-- The clauses of a column after its nullability. -/
def Sql.clauses (name : String) (c : Column) (options : Option Variant) :
    Emission (List String) := do
  let v := Variant.ofOptions options
  let default ← c.onDefault fun setting => defaultClause c.type name setting v
  pure ([if c.unique then some "UNIQUE" else none, default.join, c.mode?.bind (modeClause v),
    computedClause c.generatedAs, commentClause v c.comment].filterMap id)

/-- A column: its fragment, its nullability and its clauses. Whether it
is a key does not matter. -/
def Sql.laidOut (name : String) (c : Column) (options : Option Variant) : Emission String := do
  let fragment ← base c.type .sql name options (name ++ " TEXT")
  let clauses ← clauses name c options
  pure (" ".intercalate (fragment :: (if c.nullable then "NULL" else "NOT NULL") :: clauses))

theorem definition_eq : Sql.definition name c options = Sql.laidOut name c options := by
  have hdefault : Sql.defaultPart c.resolved name (Variant.ofOptions options) =
      Option.join <$> c.onDefault fun setting =>
        Sql.defaultClause c.type name setting (Variant.ofOptions options) := by
    unfold Sql.defaultPart Column.onDefault
    rw [Column.lastSetting?_resolved hc, Column.setting?, defaultClause_congr c.resolved_kind]
    cases c.default <;> simp
  have hidentity : Sql.identityPart c.resolved (Variant.ofOptions options) =
      pure (c.mode?.bind (Sql.modeClause (Variant.ofOptions options))) := by
    unfold Sql.identityPart
    rw [Column.lastSetting?_resolved hc, Column.setting?]
    cases c.mode? with
    | none => rfl
    | some mode => cases Variant.ofOptions options <;> cases mode <;> rfl
  have hnull : Sql.nullClause c.resolved.modifiers =
      some (if c.nullable then "NULL" else "NOT NULL") := by
    unfold Sql.nullClause
    rw [Column.lastSetting?_resolved hc, Column.setting?]
    rfl
  have hunique : Sql.uniqueClause c.resolved.modifiers =
      if c.unique then some "UNIQUE" else none := by
    unfold Sql.uniqueClause
    rw [Column.lastSetting?_resolved hc, Column.setting?]
    cases c.unique <;> rfl
  unfold Sql.definition Sql.column Sql.columnParts Sql.laidOut Sql.clauses
  simp only [hdefault, hidentity, hnull, hunique, base_congr c.resolved_kind, pure_bind,
    bind_assoc, bind_map_left]
  rfl

/-! ## Drizzle -/

/-- The method calls of a column after its nullability, perhaps with the
mark of a key. -/
def Drizzle.calls (inline : Bool) (name : String) (c : Column) : Emission String := do
  let default ← c.onDefault fun setting => defaultCall c.type name setting
  pure ((if c.unique then ".unique()" else "") ++ (if inline then ".primaryKey()" else "") ++
    default.getD "" ++ (c.mode?.map identityCall).getD "" ++ computedCall c.generatedAs)

/-- A column: its builder call, its nullability and its method calls. -/
def Drizzle.laidOut (inline : Bool) (name : String) (c : Column) (options : Option Variant) :
    Emission String := do
  let call ← base c.type .drizzle name options s!"text('{name}')"
  let calls ← calls inline name c
  pure (call ++ (if c.nullable then "" else ".notNull()") ++ calls)

theorem drizzleColumn_eq : Drizzle.column c.resolved name options c.generatedAs =
    Drizzle.laidOut c.primary name c options := by
  have hcalls : each (Drizzle.modifierCall c.resolved name) c.resolved.modifiers = (do
      let default ← c.onDefault fun setting => Drizzle.defaultCall c.type name setting
      pure ((if c.nullable then "" else ".notNull()") ::
        ((if c.unique then [".unique()"] else []) ++
          (if c.primary then [".primaryKey()"] else []) ++ default.toList ++
          (c.mode?.map Drizzle.identityCall).toList))) := by
    rw [← defaultCall_congr c.resolved_kind]
    exact Column.each_resolved hc (fun b => if b then "" else ".notNull()") ".unique()"
      ".primaryKey()" Drizzle.identityCall (fun b => rfl) rfl rfl fun g => rfl
  unfold Drizzle.column Drizzle.laidOut Drizzle.calls
  rw [hcalls]
  simp only [base_congr c.resolved_kind, pure_bind, bind_assoc, String.join_cons,
    String.join_append, apply_ite String.join, join_toList, String.join_nil, String.append_assoc,
    String.append_empty]

/-! ## Prisma -/

/-- The attributes of a field, perhaps with the mark of a key. -/
def Prisma.attributes (inline : Bool) (name : String) (c : Column) : Emission (List String) := do
  let default ← c.onDefault fun setting => defaultAttribute c.type name setting
  .noteWhen (isGiven c.generatedAs) (.computed name .prisma)
  pure ((if c.unique then ["@unique"] else []) ++ (if inline then ["@id"] else []) ++
    default.join.toList ++ if c.autoIncrement then ["@default(autoincrement())"] else [])

/-- A column as a field: its name, its type with its nullability, and its
attributes after those of the type. -/
def Prisma.laidOut (inline : Bool) (name : String) (c : Column) (options : Option Variant) :
    Emission String := do
  let fragment ← base c.type .prisma name options s!"{name} String"
  let (head, rest) := cut " " fragment
  let (type, own) := cut " " rest
  let attributes ← attributes inline name c
  pure (" ".intercalate (head :: (type ++ if c.nullable then "?" else "") ::
    ((if own = "" then [] else [own]) ++ attributes)))

theorem prismaColumn_eq : Prisma.column c.resolved name options c.generatedAs =
    Prisma.laidOut c.primary name c options := by
  have hattributes : each (Prisma.modifierAttribute c.resolved name) c.resolved.modifiers = (do
      let default ← c.onDefault fun setting => Prisma.defaultAttribute c.type name setting
      pure (none :: ((if c.unique then [some "@unique"] else []) ++
        (if c.primary then [some "@id"] else []) ++ default.toList ++
          (c.mode?.map fun _ => some "@default(autoincrement())").toList))) := by
    rw [← defaultAttribute_congr c.resolved_kind]
    exact Column.each_resolved hc (fun _ => none) (some "@unique") (some "@id")
      (fun _ => some "@default(autoincrement())") (fun _ => rfl) rfl rfl fun _ => rfl
  have hoptional : Prisma.optionalMark c.resolved.modifiers = if c.nullable then "?" else "" := by
    unfold Prisma.optionalMark
    rw [Column.lastSetting?_resolved hc, Column.setting?]
    rfl
  unfold Prisma.column Prisma.field Prisma.laidOut Prisma.attributes
  rw [hattributes, hoptional]
  simp only [base_congr c.resolved_kind, pure_bind, bind_assoc]
  refine bind_congr fun fragment => bind_congr fun default => bind_congr fun _ => congrArg pure ?_
  unfold Prisma.Field.text Column.mode?
  cases c.unique <;> cases c.primary <;> rcases default with _ | _ | _ <;>
    cases c.autoIncrement <;> rfl

/-! ## Convex -/

/-- What Convex loses of a column beside its type. -/
def Convex.losses (name : String) (c : Column) : List Loss :=
  (if c.unique then [.modifier .unique name] else []) ++
    (if c.default.isSome then [.modifier .default name] else []) ++
    if isGiven c.generatedAs then [.computed name .convex] else []

/-- A column as a member: its name, and its validator with its
nullability. -/
def Convex.laidOut (name : String) (c : Column) (options : Option Variant) :
    Emission String := do
  let fragment ← base c.type .convex name options s!"{name}: v.string()"
  let (key, validator) := cut ": " fragment
  (⟨losses name c, .ok ()⟩ : Emission Unit)
  let marked := if c.nullable then s!"v.optional({validator})" else validator
  pure s!"{key}: {marked}"

theorem convexColumn_eq : Convex.column c.resolved name options c.generatedAs =
    Convex.laidOut name c options := by
  have hlosses : Convex.columnLosses c.resolved name c.generatedAs = Convex.losses name c := by
    unfold Convex.columnLosses Convex.losses
    rw [Column.resolved_modifiers hc, Column.flags]
    cases c.unique <;> cases c.primary <;> cases c.default <;> cases c.autoIncrement <;> rfl
  have hvalidator (validator : String) : c.resolved.modifiers.foldl Convex.applyModifier validator =
      if c.nullable then s!"v.optional({validator})" else validator := by
    rw [Column.resolved_modifiers hc, Column.flags]
    cases c.unique <;> cases c.primary <;> cases c.default <;> cases c.autoIncrement <;>
      cases c.nullable <;> rfl
  unfold Convex.column Convex.laidOut
  simp only [hlosses, hvalidator, base_congr c.resolved_kind]
  rfl

end Emit

end Polyschema
