/-
Polyschema.Proofs.WrittenKey — where the key of a table is written.

Drizzle and Prisma write a key of one column at that column and a longer
one in a clause of the table. SQL has the clause in either case and knows
of no key at a column.

* `inline_columns` — the columns that are a key by themselves.
* `filter_extras`, `filter_blockLines`, `filter_entries` — the clauses for
  the key among what a table has beside its columns.
* `drizzleTable_eq`, `prismaModel_outcome`, `createTable_eq` — a table
  from the texts of its columns.
* `MarksKey` — texts of a column that differ in the mark of a key.
* `resolveKey_written` — a key that resolves is written once, at a column
  or in a clause.
-/
import Mathlib.Data.List.Nodup
import Polyschema.Proofs.Check
import Polyschema.Proofs.Layout

namespace Polyschema

open Polyschema.Text Polyschema.Noted

namespace Noted

variable {ν α β γ : Type}

/-- Work on each item in which only the result of other work is changed,
by the item. -/
theorem each_eq_zip {f : α → Noted ν γ} {g : α → β → γ} {k : α → Noted ν β} {l : List α}
    (h : ∀ a ∈ l, f a = g a <$> k a) : each f l = List.zipWith g l <$> each k l := by
  induction l with
  | nil => rfl
  | cons a rest ih =>
    obtain ⟨ha, hrest⟩ := List.forall_mem_cons.mp h
    rw [each_cons, ha, ih hrest, each_cons]
    simp only [map_eq_pure_bind, bind_assoc, pure_bind, List.zipWith_cons_cons]

end Noted

/-! ## The columns of a key -/

/-- The columns that are the key by themselves: the one of a key of one
column, and none for a longer key. -/
theorem Table.inline_columns {t : Table} {key : List String}
    (h : ∀ n ∈ key, t.columns.has n = true) :
    (t.columns.entries.filter fun e => key == [e.1]).map Prod.fst =
      if key.length = 1 then key else [] := by
  have hnames : (t.columns.entries.filter fun e => key == [e.1]).map Prod.fst =
      t.columns.names.filter fun n => key == [n] :=
    (List.filter_map (f := Prod.fst) (p := fun n => key == [n])).symm
  rw [hnames]
  split
  next hlone =>
    obtain ⟨n, rfl⟩ := List.length_eq_one_iff.mp hlone
    have hmem : n ∈ t.columns.names := List.contains_iff_mem.mp (h n (List.mem_singleton_self n))
    have hequal : (t.columns.names.filter fun m => [n] == [m]) = t.columns.names.filter (· == n) :=
      List.filter_congr fun m _ => by
        rw [Bool.eq_iff_iff, beq_iff_eq, beq_iff_eq, List.singleton_inj]
        exact eq_comm
    have hcount : t.columns.names.count n = 1 := List.count_eq_one_of_mem t.columns.distinct hmem
    rw [hequal, List.filter_beq, hcount]
    rfl
  next hlong =>
    refine List.filter_eq_nil_iff.mpr fun n _ heq => hlong ?_
    rw [eq_of_beq heq]
    rfl

/-! ## Clauses -/

/-- Whether a text begins with an opening. -/
def Text.opens (opening s : String) : Bool := opening.toList.isPrefixOf s.toList

/-- A text does not begin with an opening from which it differs at once. -/
theorem Text.opens_append_eq_false {opening first : String} (h : opens opening first = false)
    (h' : opens first opening = false) (rest : String) : opens opening (first ++ rest) = false := by
  unfold opens at *
  rw [String.toList_append]
  refine Bool.eq_false_iff.mpr fun hp => ?_
  rcases List.prefix_or_prefix_of_prefix (List.isPrefixOf_iff_prefix.mp hp)
    (List.prefix_append first.toList rest.toList) with hp | hp
  · rw [List.isPrefixOf_iff_prefix.mpr hp] at h
    cases h
  · rw [List.isPrefixOf_iff_prefix.mpr hp] at h'
    cases h'

theorem Text.opens_append_self (opening rest : String) :
    opens opening (opening ++ rest) = true := by
  unfold opens
  rw [String.toList_append]
  exact List.isPrefixOf_iff_prefix.mpr (List.prefix_append _ _)

/-- Of texts that begin otherwise none begins with the opening. -/
theorem Text.filter_opens_eq_nil {α : Type} {opening : String} {text : α → String}
    (h : ∀ a, opens opening (text a) = false) (as : List α) :
    (as.map text).filter (opens opening) = [] := by
  rw [List.filter_map, List.map_eq_nil_iff, List.filter_eq_nil_iff]
  exact fun a _ ha => Bool.false_ne_true ((h a).symm.trans ha)

/-- The texts in front are those that begin with the opening, where all of
them do and none of the rest does. -/
theorem Text.filter_opens_front {opening : String} {front rest : List String}
    (hfront : ∀ s ∈ front, opens opening s = true) (hrest : rest.filter (opens opening) = []) :
    (front ++ rest).filter (opens opening) = front := by
  rw [List.filter_append, List.filter_eq_self.mpr hfront, hrest, List.append_nil]

namespace Emit

/-! ## Drizzle -/

theorem Drizzle.indexText_opening (i : Index) :
    ∃ rest, indexText i = (if i.unique then "uniqueIndex" else "index") ++ rest := by
  unfold indexText
  cases i.method <;> cases i.predicate <;> dsimp only
  all_goals try split
  all_goals exact ⟨_, by simp only [String.append_assoc]; rfl⟩

/-- Of what follows the columns in Drizzle, the clauses for the key. -/
theorem Drizzle.filter_extras (t : Table) (key : List String) (indexes : List Index) :
    (extras t key indexes).filter (opens "primaryKey(") = keyTexts key := by
  have hkey : ∀ s ∈ keyTexts key, opens "primaryKey(" s = true := by
    intro s hs
    unfold keyTexts at hs
    split at hs
    next =>
      obtain rfl := List.mem_singleton.mp hs
      have htext : s!"primaryKey(\x7b columns: [{members key}] \x7d)" =
          "primaryKey(" ++ ("\x7b columns: [" ++ (members key ++ "] \x7d)")) := by
        rw [← String.append_assoc, ← String.append_assoc]
        rfl
      rw [htext]
      exact opens_append_self _ _
    next => cases hs
  have hunique (columns : List String) :
      opens "primaryKey(" (uniqueText t.name columns) = false := by
    unfold uniqueText
    simp only [String.append_assoc]
    exact opens_append_eq_false (by decide) (by decide) _
  have hcheck (c : Check) : opens "primaryKey(" (checkText c) = false := by
    unfold checkText
    simp only [String.append_assoc]
    exact opens_append_eq_false (by decide) (by decide) _
  have hindex (i : Index) : opens "primaryKey(" (indexText i) = false := by
    obtain ⟨rest, h⟩ := indexText_opening i
    rw [h]
    cases i.unique <;> exact opens_append_eq_false (by decide) (by decide) _
  unfold extras
  rw [List.append_assoc, List.append_assoc]
  refine filter_opens_front hkey ?_
  rw [List.filter_append, List.filter_append, filter_opens_eq_nil hunique,
    filter_opens_eq_nil hcheck, filter_opens_eq_nil hindex]
  rfl

/-- The lines of a column from its text. -/
def Drizzle.columnBlock (e : String × Column) (text : String) : List String :=
  ((e.2.comment.filter (· != "")).toList.map fun s => s!"  // {s}") ++ [s!"  {e.1}: {text},"]

/-- A table from the texts of its columns and what follows them. -/
def Drizzle.page (t : Table) (extras columns : List String) : String :=
  lines (((t.comment.filter (· != "")).toList.map fun s => s!"// {s}") ++
    s!"export const {exportName t} = pgTable('{t.name}', \x7b" ::
      (List.zipWith columnBlock t.columns.entries columns).flatten ++ closingLines extras)

section

variable {t : Table} (ht : ∀ e ∈ t.columns.entries, e.2.type.modifiers = [])
  {key : List String} (hk : t.resolveKey = .ok key) (options : Option Variant)
  (indexes : List Index)
include ht hk

theorem drizzleTable_eq :
    Drizzle.table t options indexes = Drizzle.page t (Drizzle.extras t key indexes) <$>
      each (fun e => Drizzle.laidOut (key == [e.1]) e.1 e.2 options) t.columns.entries := by
  have hcolumns : each (fun e => Drizzle.columnLines key options e.1 e.2) t.columns.entries =
      List.zipWith Drizzle.columnBlock t.columns.entries <$>
        each (fun e => Drizzle.laidOut (key == [e.1]) e.1 e.2 options) t.columns.entries := by
    refine each_eq_zip fun e he => ?_
    have hcolumn := drizzleColumn_eq (c := e.2.withPrimary (key == [e.1])) (ht e he) e.1 options
    have hlines : Drizzle.columnLines key options e.1 e.2 = Drizzle.columnBlock e <$>
        Drizzle.column (keyedType e.1 e.2 key) e.1 options e.2.generatedAs :=
      (map_eq_pure_bind _ _).symm
    rw [hlines]
    exact congrArg _ hcolumn
  unfold Drizzle.table
  rw [hk]
  show (each (fun e => Drizzle.columnLines key options e.1 e.2) t.columns.entries >>= _) = _
  rw [hcolumns, bind_map_left, map_eq_pure_bind]
  rfl

end

/-! ## Prisma -/

/-- The clauses for a key of several columns. -/
def Prisma.keyTexts (key : List String) : List String :=
  if 1 < key.length then [s!"@@id([{commas key}])"] else []

/-- Of the block attributes of a model, the clauses for the key. -/
theorem Prisma.filter_blockLines {t : Table} {key block : List String} {indexes : List Index}
    (h : (blockLines t key indexes).outcome = .ok block) :
    block.filter (opens "@@id(") = keyTexts key := by
  obtain ⟨indexLines, hindexLines, h⟩ := outcome_bind_ok.mp h
  obtain ⟨checks, hchecks, h⟩ := outcome_bind_ok.mp h
  cases h
  have hkey : ∀ s ∈ keyTexts key, opens "@@id(" s = true := by
    intro s hs
    unfold keyTexts at hs
    split at hs
    next =>
      obtain rfl := List.mem_singleton.mp hs
      have htext : s!"@@id([{commas key}])" = "@@id(" ++ ("[" ++ (commas key ++ "])")) := by
        rw [← String.append_assoc, ← String.append_assoc]
        rfl
      rw [htext]
      exact opens_append_self _ _
    next => cases hs
  have hunique (columns : List String) :
      opens "@@id(" s!"@@unique([{commas columns}])" = false := by
    simp only [String.append_assoc]
    exact opens_append_eq_false (by decide) (by decide) _
  have hindex : indexLines.filter (opens "@@id(") = [] := by
    refine List.filter_eq_nil_iff.mpr fun s hs => Bool.not_eq_true _ ▸ ?_
    obtain ⟨i, -, hi⟩ := exists_of_mem_forall₂ (outcome_each_iff.mp hindexLines) hs
    obtain ⟨_, -, hi⟩ := outcome_bind_ok.mp hi
    cases hi
    simp only [String.append_assoc]
    cases i.unique <;> exact opens_append_eq_false (by decide) (by decide) _
  have hcheck : checks.filter (opens "@@id(") = [] := by
    refine List.filter_eq_nil_iff.mpr fun s hs => Bool.not_eq_true _ ▸ ?_
    obtain ⟨c, -, hc⟩ := exists_of_mem_forall₂ (outcome_each_iff.mp hchecks) hs
    cases hc
    simp only [String.append_assoc]
    exact opens_append_eq_false (by decide) (by decide) _
  have hname (name : String) : opens "@@id(" s!"@@map(\x22{name}\x22)" = false := by
    simp only [String.append_assoc]
    exact opens_append_eq_false (by decide) (by decide) _
  have hmap : [s!"@@map(\x22{t.name}\x22)"].filter (opens "@@id(") = [] :=
    filter_opens_eq_nil hname [t.name]
  rw [List.append_assoc, List.append_assoc, List.append_assoc]
  refine filter_opens_front hkey ?_
  rw [List.filter_append, List.filter_append, List.filter_append, filter_opens_eq_nil hunique,
    hindex, hcheck, hmap]
  rfl

/-- The lines of a field from its text. -/
def Prisma.fieldBlock (e : String × Column) (text : String) : List String :=
  ((e.2.comment.filter (· != "")).toList.map fun s => s!"  /// {s}") ++ [s!"  {text}"]

/-- A model from the texts of its fields and its block attributes. -/
def Prisma.page (t : Table) (modelName : Option String) (block fields : List String) : String :=
  let name := match modelName with
    | some name => if name = "" then pascal t.name else name
    | none => pascal t.name
  lines (((t.comment.filter (· != "")).toList.map fun s => s!"/// {s}") ++
    s!"model {name} \x7b" :: (List.zipWith fieldBlock t.columns.entries fields).flatten ++
    "" :: block.map ("  " ++ ·) ++ ["\x7d"])

section

variable {t : Table} (ht : ∀ e ∈ t.columns.entries, e.2.type.modifiers = [])
  {key : List String} (hk : t.resolveKey = .ok key) (options : Option Variant)
  (indexes : List Index)
include ht hk

theorem prismaModel_outcome (modelName : Option String) {block : List String}
    (hblock : (Prisma.blockLines t key indexes).outcome = .ok block) :
    (Prisma.model t options indexes modelName).outcome = Prisma.page t modelName block <$>
      (each (fun e => Prisma.laidOut (key == [e.1]) e.1 e.2 options)
        t.columns.entries).outcome := by
  have hfields : each (fun e => Prisma.fieldLines key options e.1 e.2) t.columns.entries =
      List.zipWith Prisma.fieldBlock t.columns.entries <$>
        each (fun e => Prisma.laidOut (key == [e.1]) e.1 e.2 options) t.columns.entries := by
    refine each_eq_zip fun e he => ?_
    have hcolumn := prismaColumn_eq (c := e.2.withPrimary (key == [e.1])) (ht e he) e.1 options
    have hlines : Prisma.fieldLines key options e.1 e.2 = Prisma.fieldBlock e <$>
        Prisma.column (keyedType e.1 e.2 key) e.1 options e.2.generatedAs :=
      (map_eq_pure_bind _ _).symm
    rw [hlines]
    exact congrArg _ hcolumn
  unfold Prisma.model
  rw [hk]
  show (each (fun e : String × Column => Prisma.fieldLines key options e.1 e.2)
    t.columns.entries >>= _).outcome = _
  rw [hfields, bind_map_left, outcome_bind]
  cases (each (fun e => Prisma.laidOut (key == [e.1]) e.1 e.2 options)
    t.columns.entries).outcome with
  | error f => rfl
  | ok fields =>
    show (Prisma.blockLines t key indexes >>= _).outcome = _
    rw [outcome_bind, hblock]
    rfl

end

/-! ## SQL -/

/-- The statement for a table from the texts of its columns. -/
def Sql.statement (t : Table) (options : Option Variant) (columns : List String) : CreateTable where
  name := t.name
  before := (givenWhen (Variant.ofOptions options == .sqlite) t.comment).toList.map
    fun c => s!"-- {c}"
  entries := List.zipWith (fun e text => .column
      (givenWhen (Variant.ofOptions options == .sqlite) e.2.comment) text)
    t.columns.entries columns ++ .primaryKey t.primaryKey ::
      (t.uniques.map .unique ++ t.checks.map .check)
  closing := closingLine (Variant.ofOptions options) t.comment
  after := if Variant.ofOptions options = .postgres then commentStatements t else []

/-- Whether an entry is a clause for a key. -/
def Sql.Entry.isKey : Entry → Bool
  | primaryKey _ => true
  | _ => false

/-- Of the entries of a statement, the clauses for the key. -/
theorem Sql.filter_entries (t : Table) (options : Option Variant) (columns : List String) :
    (statement t options columns).entries.filter Entry.isKey = [.primaryKey t.primaryKey] := by
  have hcolumns : (statement t options columns).entries = List.zipWith (fun e text => .column
      (givenWhen (Variant.ofOptions options == .sqlite) e.2.comment) text)
    t.columns.entries columns ++ .primaryKey t.primaryKey ::
      (t.uniques.map .unique ++ t.checks.map .check) := rfl
  rw [hcolumns, List.filter_append, List.filter_cons, List.filter_append, List.filter_map,
    List.filter_map, ← List.map_uncurry_zip_eq_zipWith, List.filter_map]
  simp [Function.comp_def, Entry.isKey]

theorem createTable_eq {t : Table} (ht : ∀ e ∈ t.columns.entries, e.2.type.modifiers = [])
    {key : List String} (hk : t.resolveKey = .ok key) (hp : t.primaryKey ≠ [])
    (options : Option Variant) :
    Sql.createTable t options = Sql.statement t options <$>
      each (fun e => Sql.laidOut e.1 e.2 options) t.columns.entries := by
  have hcolumns : each (fun e => Sql.columnEntry options e.1 e.2) t.columns.entries =
      List.zipWith (fun e text => .column
          (Sql.givenWhen (Variant.ofOptions options == .sqlite) e.2.comment) text)
        t.columns.entries <$> each (fun e => Sql.laidOut e.1 e.2 options) t.columns.entries := by
    refine each_eq_zip fun e he => ?_
    rw [← definition_eq (ht e he), map_eq_pure_bind]
    rfl
  rw [createTable_of_declared hp, hk]
  show (each (fun e => Sql.columnEntry options e.1 e.2) t.columns.entries >>= _) = _
  rw [hcolumns, bind_map_left, map_eq_pure_bind]
  rfl

/-! ## Marks -/

/-- Texts for a column that is a key and one that is not, which differ in a
mark alone: what stands before and after it is the same, and so is what is
lost on the way. -/
def MarksKey (mark : String) (written : Bool → Emission String) : Prop :=
  ∃ parts : Emission (String × String), ∀ inline,
    written inline = (fun p => p.1 ++ (if inline then mark else "") ++ p.2) <$> parts

theorem marksKey_drizzle (name : String) (c : Column) (options : Option Variant) :
    MarksKey ".primaryKey()" fun inline => Drizzle.laidOut inline name c options := by
  refine ⟨do
    let call ← base c.type .drizzle name options s!"text('{name}')"
    let default ← c.onDefault fun setting => Drizzle.defaultCall c.type name setting
    pure (call ++ (if c.nullable then "" else ".notNull()") ++
      (if c.unique then ".unique()" else ""),
      default.getD "" ++ (c.mode?.map Drizzle.identityCall).getD "" ++
        Drizzle.computedCall c.generatedAs), fun inline => ?_⟩
  unfold Drizzle.laidOut Drizzle.calls
  simp only [map_eq_pure_bind, bind_assoc, pure_bind, String.append_assoc]

theorem marksKey_prisma (name : String) (c : Column) (options : Option Variant) :
    MarksKey " @id" fun inline => Prisma.laidOut inline name c options := by
  refine ⟨do
    let fragment ← base c.type .prisma name options s!"{name} String"
    let rest := cut " " (cut " " fragment).2
    let default ← c.onDefault fun setting => Prisma.defaultAttribute c.type name setting
    .noteWhen (isGiven c.generatedAs) (.computed name .prisma)
    pure ((cut " " fragment).1 ++ spaced ((rest.1 ++ if c.nullable then "?" else "") ::
        ((if rest.2 = "" then [] else [rest.2]) ++ if c.unique then ["@unique"] else [])),
      spaced (default.join.toList ++
        if c.autoIncrement then ["@default(autoincrement())"] else [])), fun inline => ?_⟩
  unfold Prisma.laidOut Prisma.attributes
  simp only [map_eq_pure_bind, bind_assoc, pure_bind]
  refine bind_congr fun fragment => bind_congr fun default => bind_congr fun _ => congrArg pure ?_
  have hkey : spaced (if inline then ["@id"] else []) = if inline then " @id" else "" := by
    cases inline <;> rfl
  simp only [intercalate_cons_spaced, spaced_cons, spaced_append, hkey, String.append_assoc]

/-! ## The key of a table -/

/-- Where the key of a table is written. -/
structure WritesKey (t : Table) (key : List String) (options : Option Variant)
    (indexes : List Index) (modelName : Option String) : Prop where
  /-- The key is the declared one, or the one column that is flagged. -/
  stated : key = if t.primaryKey = [] then t.flagged else t.primaryKey
  some_column : key ≠ []
  /-- A key of several columns is in the order in which it is declared. -/
  declared : 1 < key.length → key = t.primaryKey
  /-- Only the column of a key of one column is the key by itself. -/
  inline : (t.columns.entries.filter fun e => key == [e.1]).map Prod.fst =
    if key.length = 1 then key else []
  /-- In Drizzle that column alone has the call for a key, and only a
  longer key has a clause. -/
  drizzleColumn : ∀ e ∈ t.columns.entries,
    MarksKey ".primaryKey()" fun inline => Drizzle.laidOut inline e.1 e.2 options
  drizzle : ∃ extras, (tableWith t .drizzle options indexes modelName).outcome =
      Drizzle.page t extras <$>
        (each (fun e => Drizzle.laidOut (key == [e.1]) e.1 e.2 options) t.columns.entries).outcome ∧
    extras.filter (opens "primaryKey(") =
      if 1 < key.length then [s!"primaryKey(\x7b columns: [{Drizzle.members key}] \x7d)"] else []
  /-- In Prisma that column alone has the attribute for a key, and only a
  longer key has a clause. -/
  prismaColumn : ∀ e ∈ t.columns.entries,
    MarksKey " @id" fun inline => Prisma.laidOut inline e.1 e.2 options
  prisma : ∃ block, (tableWith t .prisma options indexes modelName).outcome =
      Prisma.page t modelName block <$>
        (each (fun e => Prisma.laidOut (key == [e.1]) e.1 e.2 options) t.columns.entries).outcome ∧
    block.filter (opens "@@id(") = if 1 < key.length then [s!"@@id([{commas key}])"] else []
  /-- In SQL no column shows whether it is a key, and every key has a
  clause; but it has to be declared. -/
  sqlColumn : ∀ e ∈ t.columns.entries, ∀ primary,
    Sql.definition e.1 (e.2.withPrimary primary) options = Sql.definition e.1 e.2 options
  sql : t.primaryKey ≠ [] → key = t.primaryKey ∧
    (tableWith t .sql options indexes modelName).outcome =
      (fun columns => (Sql.statement t options columns).text) <$>
        (each (fun e => Sql.laidOut e.1 e.2 options) t.columns.entries).outcome ∧
    ∀ columns, (Sql.statement t options columns).entries.filter Sql.Entry.isKey = [.primaryKey key]
  undeclared : t.primaryKey = [] →
    (tableWith t .sql options indexes modelName).Stops (.noTableKey t.name)

/-- A key that resolves is written once, however it is stated: a key of
one column at that column in Drizzle and Prisma, a longer one in a clause
there, and every key in a clause in SQL. -/
theorem resolveKey_written {t : Table} (ht : ∀ e ∈ t.columns.entries, e.2.type.modifiers = [])
    {key : List String} (hk : t.resolveKey = .ok key) (options : Option Variant)
    (indexes : List Index) (modelName : Option String) :
    WritesKey t key options indexes modelName := by
  obtain ⟨hkeyable, hstated⟩ := Table.resolveKey_eq_ok_iff.mp hk
  have hnames : ∀ n ∈ key, t.columns.has n = true := hstated ▸ hkeyable.statedKey_spec.2.1
  have hdeclared (hp : t.primaryKey ≠ []) : key = t.primaryKey := hstated.trans (if_neg hp)
  obtain ⟨block, hblock⟩ := returns_blockLines t key indexes
  exact {
    stated := hstated
    some_column := hstated ▸ hkeyable.statedKey_spec.1
    declared := fun hlong => hdeclared fun hp => by
      obtain ⟨n, hn⟩ := hkeyable.lone hp
      rw [hstated, Table.statedKey, if_pos hp, hn] at hlong
      exact absurd hlong (Nat.lt_irrefl 1)
    inline := Table.inline_columns hnames
    drizzleColumn := fun e _ => marksKey_drizzle e.1 e.2 options
    drizzle := by
      refine ⟨_, ?_, Drizzle.filter_extras t key indexes⟩
      rw [tableWith, drizzleTable_eq ht hk, outcome_map]
    prismaColumn := fun e _ => marksKey_prisma e.1 e.2 options
    prisma :=
      ⟨block, prismaModel_outcome ht hk options indexes modelName hblock,
        Prisma.filter_blockLines hblock⟩
    sqlColumn := fun e he primary => by
      rw [definition_eq (ht e he), definition_eq (c := e.2.withPrimary primary) (ht e he)]
      rfl
    sql := fun hp => by
      refine ⟨hdeclared hp, ?_, fun columns => ?_⟩
      · rw [tableWith_sql_eq, createTable_eq ht hk hp, ← comp_map, outcome_map]
        rfl
      · rw [Sql.filter_entries, hdeclared hp]
    undeclared := fun hp => by
      refine (fails_tableWith_iff t .sql options indexes modelName _).mpr (.inl ⟨_, ?_, rfl⟩)
      exact Table.defectIn?_sql_of_empty hp }

end Emit

/-- Bookings of a room for a day, both of them flagged. -/
def bookingsTable : Table where
  name := "bookings"
  columns := ((Keyed.empty.put "day" { Column.plain (.plain .date) with primary := true }).put
    "room" { Column.plain (.plain .integer) with primary := true }).put
    "guest" (.plain (.plain (.string none)))
  primaryKey := ["room", "day"]
  uniques := []
  checks := []
  comment := none

theorem resolveKey_written_bookings :
    (∀ e ∈ bookingsTable.columns.entries, e.2.type.modifiers = []) ∧
      bookingsTable.resolveKey = .ok ["room", "day"] ∧
      Emit.WritesKey bookingsTable ["room", "day"] (some .mysql) [] none := by
  have ht : ∀ e ∈ bookingsTable.columns.entries, e.2.type.modifiers = [] := by decide
  have hk : bookingsTable.resolveKey = .ok ["room", "day"] := rfl
  exact ⟨ht, hk, Emit.resolveKey_written ht hk (some .mysql) [] none⟩

end Polyschema
