/-
Polyschema.Proofs.Edit — calls to a builder of entities as edits.

What a call says of an entity does not depend on what was said before. So
each call comes to one edit, which it makes to every entity in the making:
something is replaced, or a list grows at its end.

* `Edit`, `EntityBuilder.edited` — what a call replaces and what it adds.
* `MethodCall.edit`, `after_eq` — the edit that a call makes, by a look at
  each of the methods.
* `run_replaced`, `run_added`, `run_columns` — what a run makes of the parts
  of an entity, by induction on the calls.
* `run_moved` — a call that replaces something comes to the same past calls
  of other methods.
-/
import Mathlib.Data.List.Induction
import Polyschema.Proofs.MethodCall

namespace Polyschema

open Polyschema.Noted

/-! ## Edits -/

/-- What is replaced in an entity in the making, and what is added. -/
structure Edit where
  version : Option String := none
  description : Option Part := none
  tableName : Option Part := none
  tableComment : Option Part := none
  primaryKey : Option (List Part) := none
  columns : Fields := []
  fields : Fields := []
  uniques : List (List Part) := []
  checks : List Check := []
  indexes : List Fields := []
  constraints : List Fields := []
  relationships : List Part := []

/-- No edit. -/
def Edit.nothing : Edit := {}

/-- The entity in the making with an edit. -/
def EntityBuilder.edited (b : EntityBuilder) (x : Edit) : EntityBuilder where
  id := b.id
  name := b.name
  version := x.version.getD b.version
  description := x.description.getD b.description
  tableName := x.tableName.getD b.tableName
  tableComment := x.tableComment.getD b.tableComment
  primaryKey := x.primaryKey.getD b.primaryKey
  columns := putAll x.columns b.columns
  fields := putAll x.fields b.fields
  uniques := b.uniques ++ x.uniques
  checks := b.checks ++ x.checks
  indexes := b.indexes ++ x.indexes
  constraints := b.constraints ++ x.constraints
  relationships := b.relationships ++ x.relationships

@[simp]
theorem EntityBuilder.edited_nothing (b : EntityBuilder) : b.edited .nothing = b := by
  simp [edited, Edit.nothing, putAll]

/-- An entity in the making of which nothing was said. -/
def EntityBuilder.blank : EntityBuilder where
  id := .null
  name := ⟨"", "", none, none⟩
  version := ""
  description := .null
  tableName := .null
  tableComment := .null
  primaryKey := []
  columns := []
  fields := []
  uniques := []
  checks := []
  indexes := []
  constraints := []
  relationships := []

namespace MethodCall

/-- What a call gives, if it is a call of a method and fits its
parameters. -/
def gives {α : Type} (c : MethodCall) (method : String) (given : Except Fault α) : Option α :=
  if c.method = method then given.toOption else none

variable (c : MethodCall)

/-- The check that a call gives. -/
def givenCheck : Except Fault Check := do
  let given ← c.arguments.parts 2 ["name", "expression"]
  (Check.ofFields [(.str "name", orNull (given 0)), (.str "expression", orNull (given 1))]).orFault

/-- What a call gives for an index, the table apart. -/
def givenIndex : Except Fault Fields := do
  let given ← c.arguments.parts 2 ["name", "columns", "unique", "where", "index_type"]
  let columns ← EntityBuilder.itemsOf (orNull (given 1))
  let method ← EntityBuilder.methodOf (orNull (given 4))
  pure [(.str "name", orNull (given 0)), (.str "columns", .tuple columns),
    (.str "unique", orNo (given 2)), (.str "where", orNull (given 3)), (.str "index_type", method)]

/-- What a call gives for a constraint, the table apart. -/
def givenConstraint : Except Fault Fields := do
  let given ← c.arguments.parts 3 ["name", "constraint_type", "definition"]
  pure [(.str "name", orNull (given 0)), (.str "constraint_type", orNull (given 1)),
    (.str "definition", orNull (given 2))]

/-- The relationship that a call gives, or has built. -/
def givenRelationship : Except Fault Part := do
  let bound ← c.arguments.bind 1 ["relationship"]
  match EntityBuilder.nothingGiven (bound[0]?.getD none) with
  | .builder (.relationship r) => do pure (.relationship (← r.build))
  | g => pure g.asPart

/-- The edit that a call makes. Many methods add columns, some of them
several, so these are what the call puts into an entity without any. -/
def edit : Edit where
  version := c.gives "version" ((·.asValue.text) <$> c.arguments.only "version")
  description := c.gives "description" (c.arguments.only "description")
  tableName := c.gives "table_name" (c.arguments.only "name")
  tableComment := c.gives "table_comment" (c.arguments.only "comment")
  primaryKey := c.gives "primary_key" c.arguments.every
  columns := (EntityBuilder.blank.after c).columns
  fields := (EntityBuilder.blank.after c).fields
  uniques := (c.gives "unique" c.arguments.every).toList
  checks := (c.gives "check" c.givenCheck).toList
  indexes := (c.gives "index" c.givenIndex).toList
  constraints := (c.gives "constraint" c.givenConstraint).toList
  relationships := (c.gives "relationship" c.givenRelationship).toList

end MethodCall

/-- The methods for the usual columns. -/
def columnMethods : List String := [
  "id_field", "string_field", "number_field", "boolean_field", "email_field", "url_field",
  "timestamps"]

/-- The methods that replace something. -/
def replacingMethods : List String := [
  "description", "version", "table_name", "table_comment", "primary_key"]

/-- The methods that tell something of the entity. -/
def detailMethods : List String :=
  replacingMethods ++ ["unique", "check", "index", "constraint"]

/-- An edit is one for a call: it has what the call gives, no two columns of
one name, and none where the call tells something of the entity. -/
structure Edit.For (c : MethodCall) (x : Edit) : Prop where
  parts : { x with columns := [], fields := [] } = { c.edit with columns := [], fields := [] }
  columns : entriesOf x.columns = x.columns
  fields : entriesOf x.fields = x.fields
  none : c.method ∈ detailMethods → x.columns = [] ∧ x.fields = []

/-- There is only one edit for a call that the call makes to every entity in
the making: its columns are those that come of it where there were none. -/
theorem Edit.For.eq_edit {x : Edit} {c : MethodCall} (hx : Edit.For c x)
    (h : ∀ b : EntityBuilder, b.after c = b.edited x) : x = c.edit := by
  have columns : x.columns = c.edit.columns := by
    rw [← hx.columns]
    exact congrArg EntityBuilder.columns (h .blank).symm
  have fields : x.fields = c.edit.fields := by
    rw [← hx.fields]
    exact congrArg EntityBuilder.fields (h .blank).symm
  have parts := hx.parts
  cases x
  simp_all only [Edit.mk.injEq]

/-! ## Methods -/

/-- What a call does fails on all entities in the making, or makes the one
edit to all of them. -/
def Edits (c : MethodCall) (f : EntityBuilder → Except Fault EntityBuilder) : Prop :=
  ∃ r : Except Fault Edit, Edit.For c (r.toOption.getD .nothing) ∧ ∀ b, f b = b.edited <$> r

namespace Edits

variable {c : MethodCall} {f : EntityBuilder → Except Fault EntityBuilder}

theorem edit {x : Edit} (hx : Edit.For c x) (h : ∀ b, f b = .ok (b.edited x)) : Edits c f :=
  ⟨.ok x, hx, h⟩

theorem error {fault : Fault} (hnone : Edit.For c .nothing) (h : ∀ b, f b = .error fault) :
    Edits c f :=
  ⟨.error fault, hnone, h⟩

/-- Arguments are read first, without a look at the entity. -/
theorem bind {α : Type} {r : Except Fault α} {g : α → EntityBuilder → Except Fault EntityBuilder}
    (hnone : Edit.For c .nothing) (h : ∀ a, Edits c (g a)) :
    Edits c fun b => r >>= fun a => g a b := by
  cases r with
  | error fault => exact .error hnone fun _ => rfl
  | ok a => exact h a

/-- What is given is put in. -/
theorem giving {α : Type} {r : Except Fault α} (put : α → EntityBuilder → EntityBuilder)
    (x : Option α → Edit) (hx : Edit.For c (x r.toOption)) (hnone : x none = .nothing)
    (h : ∀ a b, put a b = b.edited (x (some a))) :
    Edits c fun b => r >>= fun a => pure (put a b) := by
  cases r with
  | error fault => exact .error (hnone ▸ hx) fun _ => rfl
  | ok a => exact .edit hx fun b => congrArg Except.ok (h a b)

end Edits

section

variable {name note : Part} (hkey : name.asValue.hashable = true) (hnote : note.isNull = false)
include hkey hnote

theorem EntityBuilder.column_noted (column : Part) (b : EntityBuilder) :
    b.column name column note = .ok (b.edited {
      columns := [(name.asValue, column)], fields := [(name.asValue, note)] }) := by
  simp [EntityBuilder.column, hkey, hnote, edited, putAll]

theorem EntityBuilder.built_noted {builder : ColumnBuilder} {column : Column}
    (hbuild : builder.build = .ok column) (b : EntityBuilder) :
    b.built name builder note = .ok (b.edited {
      columns := [(name.asValue, .column column)], fields := [(name.asValue, note)] }) := by
  rw [built, hbuild]
  exact column_noted hkey hnote _ b

end

section

variable {c : MethodCall} (hd : c.method ∉ detailMethods) (hr : c.method ≠ "relationship")
include hd hr

/-- A call of another method gives columns with their notes, or nothing. -/
theorem Edit.for_columns (columns fields : Fields) (hc : entriesOf columns = columns)
    (hf : entriesOf fields = fields) : Edit.For c { columns, fields } := by
  refine ⟨?_, hc, hf, fun h => absurd h hd⟩
  simp only [detailMethods, replacingMethods, List.cons_append, List.nil_append, List.mem_cons,
    List.not_mem_nil, or_false, not_or] at hd
  simp [MethodCall.edit, MethodCall.gives, *]

theorem Edit.for_nothing : Edit.For c .nothing :=
  Edit.for_columns hd hr [] [] rfl rfl

/-- A column is put in under its name, with a note if there is one. -/
theorem EntityBuilder.edits_column (name column note : Part) :
    Edits c (EntityBuilder.column name column note) := by
  by_cases hkey : name.asValue.hashable = true
  · by_cases hnote : note.isNull = true
    · refine .edit (Edit.for_columns hd hr [(name.asValue, column)] [] rfl rfl) fun b => ?_
      simp [EntityBuilder.column, hkey, hnote, edited, putAll]
    · exact .edit (Edit.for_columns hd hr _ _ rfl rfl)
        (column_noted hkey (Bool.eq_false_iff.mpr hnote) column)
  · have hfails (b : EntityBuilder) : b.column name column note = .error (.misuse .wrongKind) := by
      simp [EntityBuilder.column, hkey]
    exact .error (Edit.for_nothing hd hr) hfails

theorem EntityBuilder.edits_built (name : Part) (column : ColumnBuilder) (note : Part) :
    Edits c (EntityBuilder.built name column note) :=
  .bind (Edit.for_nothing hd hr) fun _ => edits_column hd hr name _ note

/-- A column is put in as it is given, or as its builder builds it. -/
theorem EntityBuilder.edits_givenColumn (name : Part) (column : Given) (note : Part) :
    Edits c (givenColumn name column note) :=
  match column with
  | .builder (.column column) => edits_built hd hr name column note
  | .builder (.entity _) | .builder (.relationship _) | .part _ => edits_column hd hr name _ note

/-- Two columns of different names are put in by one edit. -/
theorem EntityBuilder.edits_timestamps : Edits c EntityBuilder.timestamps := by
  obtain ⟨created, hcreated⟩ : ∃ created,
      ((ofKind .timestamp).set "default" (.data .generator)).build = .ok created := ⟨_, rfl⟩
  obtain ⟨updated, hupdated⟩ : ∃ updated,
      ((ofKind .timestamp).flag "nullable" none).build = .ok updated := ⟨_, rfl⟩
  let note := noteOf [("js_type", .str "date"), ("editable", .bool false)]
  -- the two names are told apart by evaluation
  have hputs (first second : Part) : putAll [((.str "createdAt" : Value), first),
      (.str "updatedAt", second)] [] = [(.str "createdAt", first), (.str "updatedAt", second)] :=
    rfl
  refine .edit (Edit.for_columns hd hr _ _ (hputs (.column created) (.column updated))
    (hputs note note)) fun b => ?_
  refine bind_eq_ok.mpr ⟨_, built_noted rfl rfl hcreated b,
    (built_noted rfl rfl hupdated _).trans ?_⟩
  simp [edited, putAll, Part.str, Part.asValue, note]

end

namespace EntityBuilder

/-- Each method for usual columns reads its arguments and puts in what they
ask for. -/
theorem usualColumn?_edits {c : MethodCall} (hm : c.method ∈ columnMethods) :
    ∃ f, Edits c f ∧ ∀ b, usualColumn? b c.method c.arguments = some (f b) := by
  obtain ⟨hd, hr⟩ : c.method ∉ detailMethods ∧ c.method ≠ "relationship" := by
    revert hm
    generalize c.method = method
    revert method
    decide
  have hnone : Edit.For c .nothing := Edit.for_nothing hd hr
  obtain ⟨method, arguments⟩ := c
  simp only [columnMethods, List.mem_cons, List.not_mem_nil, or_false] at hm
  obtain rfl | rfl | rfl | rfl | rfl | rfl | rfl := hm
  case inl =>
    exact ⟨_, .bind hnone fun _ => .bind hnone fun _ => edits_built hd hr _ _ _, fun b => rfl⟩
  case inr.inl =>
    exact ⟨_, .bind hnone fun _ => .bind hnone fun _ => edits_built hd hr _ _ _, fun b => rfl⟩
  case inr.inr.inr.inr.inr.inr =>
    exact ⟨_, .bind hnone fun _ => edits_timestamps hd hr, fun b => rfl⟩
  all_goals exact ⟨_, .bind hnone fun _ => edits_built hd hr _ _ _, fun b => rfl⟩

theorem usualColumn?_eq_none {method : String} (h : method ∉ columnMethods) (b : EntityBuilder)
    (c : Call) : usualColumn? b method c = none := by
  unfold usualColumn?
  split <;> first | rfl | exact absurd (by decide) h

/-- Each method that tells something of the entity puts in what it is given,
in place of something or at the end of a list. -/
theorem detail?_edits {c : MethodCall} (hm : c.method ∈ detailMethods) :
    ∃ f, Edits c f ∧ ∀ b, detail? b c.method c.arguments = some (f b) := by
  obtain ⟨method, arguments⟩ := c
  simp only [detailMethods, replacingMethods, List.cons_append, List.nil_append, List.mem_cons,
    List.not_mem_nil, or_false] at hm
  obtain rfl | rfl | rfl | rfl | rfl | rfl | rfl | rfl | rfl := hm
  case inl =>
    exact ⟨_, .giving _ (fun p => { description := p }) ⟨rfl, rfl, rfl, fun _ => ⟨rfl, rfl⟩⟩ rfl
      fun p b => by simp [edited, putAll], fun b => rfl⟩
  case inr.inl =>
    have hversion : ((arguments.only "version").toOption.map (·.asValue.text)) =
        ((·.asValue.text) <$> arguments.only "version").toOption := by
      cases arguments.only "version" <;> rfl
    refine ⟨_, .giving _ (fun p => { version := p.map (·.asValue.text) })
      ⟨?_, rfl, rfl, fun _ => ⟨rfl, rfl⟩⟩ rfl
      fun p b => by simp [edited, putAll, withVersion], fun b => rfl⟩
    rw [hversion]
    rfl
  case inr.inr.inl =>
    exact ⟨_, .giving _ (fun p => { tableName := p }) ⟨rfl, rfl, rfl, fun _ => ⟨rfl, rfl⟩⟩ rfl
      fun p b => by simp [edited, putAll], fun b => rfl⟩
  case inr.inr.inr.inl =>
    exact ⟨_, .giving _ (fun p => { tableComment := p }) ⟨rfl, rfl, rfl, fun _ => ⟨rfl, rfl⟩⟩ rfl
      fun p b => by simp [edited, putAll], fun b => rfl⟩
  case inr.inr.inr.inr.inl =>
    exact ⟨_, .giving _ (fun ps => { primaryKey := ps }) ⟨rfl, rfl, rfl, fun _ => ⟨rfl, rfl⟩⟩ rfl
      fun p b => by simp [edited, putAll], fun b => rfl⟩
  case inr.inr.inr.inr.inr.inl =>
    exact ⟨_, .giving _ (fun group => { uniques := group.toList })
      ⟨rfl, rfl, rfl, fun _ => ⟨rfl, rfl⟩⟩ rfl fun p b => by simp [edited, putAll], fun b => rfl⟩
  case inr.inr.inr.inr.inr.inr.inl =>
    exact ⟨_, .giving (r := MethodCall.givenCheck ⟨"check", arguments⟩)
      (fun check b => { b with checks := b.checks ++ [check] })
      (fun check => { checks := check.toList })
      ⟨rfl, rfl, rfl, fun _ => ⟨rfl, rfl⟩⟩ rfl fun p b => by simp [edited, putAll],
      fun b => congrArg some (by simp only [MethodCall.givenCheck, bind_assoc]; rfl)⟩
  case inr.inr.inr.inr.inr.inr.inr.inl =>
    exact ⟨_, .giving (r := MethodCall.givenIndex ⟨"index", arguments⟩)
      (fun fields b => { b with indexes := b.indexes ++ [fields] })
      (fun fields => { indexes := fields.toList })
      ⟨rfl, rfl, rfl, fun _ => ⟨rfl, rfl⟩⟩ rfl fun p b => by simp [edited, putAll],
      fun b => congrArg some (by simp only [MethodCall.givenIndex, bind_assoc, pure_bind]; rfl)⟩
  case inr.inr.inr.inr.inr.inr.inr.inr =>
    exact ⟨_, .giving (r := MethodCall.givenConstraint ⟨"constraint", arguments⟩)
      (fun fields b => { b with constraints := b.constraints ++ [fields] })
      (fun fields => { constraints := fields.toList })
      ⟨rfl, rfl, rfl, fun _ => ⟨rfl, rfl⟩⟩ rfl fun p b => by simp [edited, putAll],
      fun b => congrArg some (by
        simp only [MethodCall.givenConstraint, bind_assoc, pure_bind]; rfl)⟩

theorem detail?_eq_none {method : String} (h : method ∉ detailMethods) (b : EntityBuilder)
    (c : Call) : detail? b method c = none := by
  unfold detail?
  split <;> first | rfl | exact absurd (by decide) h

/-- A method that makes one edit to all entities in the making, or fails on
all of them, comes to that edit or to none. -/
theorem exists_edit_of_edits {c : MethodCall} {f : EntityBuilder → Except Fault EntityBuilder}
    (hf : Edits c f) (hcall : ∀ b : EntityBuilder,
      b.call c.method c.arguments = f b >>= fun b => pure (.changed (.entity b))) :
    ∃ x, Edit.For c x ∧ ∀ b : EntityBuilder, b.after c = b.edited x := by
  obtain ⟨r, hr, hf⟩ := hf
  refine ⟨_, hr, fun b => ?_⟩
  rw [after, hcall, hf]
  cases r with
  | error fault => exact (edited_nothing b).symm
  | ok x => rfl

/-- A method that only gives a result changes nothing. -/
theorem after_of_result {b : EntityBuilder} {c : MethodCall} {r : Except Fault Part}
    (h : b.call c.method c.arguments = r >>= fun p => pure (.result p)) : b.after c = b := by
  rw [after, h]
  cases r <;> rfl

/-- A relationship is added as it is given, or as its builder builds it. -/
theorem call_relationship {c : MethodCall} (hc : c.method = "relationship") (b : EntityBuilder) :
    b.call c.method c.arguments =
      (c.givenRelationship >>= fun r => pure (b.relationship r)) >>= fun b =>
        pure (.changed (.entity b)) := by
  rw [hc, MethodCall.givenRelationship]
  simp only [bind_assoc]
  show (c.arguments.bind 1 ["relationship"] >>= fun bound => _) = _
  congr
  funext bound
  generalize nothingGiven (bound[0]?.getD none) = given
  match given with
  | .builder (.relationship r) => cases h : r.build <;> simp [givenRelationship, h]
  | .builder (.column _) | .builder (.entity _) | .part _ => rfl

/-- Whatever a call says, it says the same of every entity in the making. -/
theorem exists_edit (c : MethodCall) :
    ∃ x, Edit.For c x ∧ ∀ b : EntityBuilder, b.after c = b.edited x := by
  by_cases husual : c.method ∈ columnMethods
  · obtain ⟨f, hf, husual⟩ := usualColumn?_edits husual
    exact exists_edit_of_edits hf fun b => by simp only [call, husual]
  have husual := usualColumn?_eq_none husual
  by_cases hd : c.method ∈ detailMethods
  · obtain ⟨f, hf, hdetail⟩ := detail?_edits hd
    exact exists_edit_of_edits hf fun b => by simp only [call, husual, hdetail]
  have hdetail := detail?_eq_none hd
  by_cases hr : c.method = "relationship"
  · refine exists_edit_of_edits (.giving _ (fun r => { relationships := r.toList })
      ⟨?_, rfl, rfl, fun h => absurd h hd⟩ rfl fun r b => ?_) (call_relationship hr)
    · simp [MethodCall.edit, MethodCall.gives, hr]
    · simp [edited, putAll, relationship]
  have hnone : Edit.For c .nothing := Edit.for_nothing hd hr
  by_cases hcolumn : c.method = "column"
  · let given (bound : List (Option Given)) (n : Nat) : Given :=
      nothingGiven (bound[n]?.getD none)
    refine exists_edit_of_edits (.bind (r := c.arguments.bind 2 ["name", "column", "field"]) hnone
      fun bound => edits_givenColumn hd hr (given bound 0).asPart (given bound 1)
        (given bound 2).asPart) fun b => ?_
    rw [bind_assoc, hcolumn]
    rfl
  refine ⟨.nothing, Edit.for_nothing hd hr, fun b => ?_⟩
  rw [edited_nothing]
  by_cases htable : c.method = "build_table"
  · refine after_of_result (r := do c.arguments.nothing; pure (.table (← b.table))) ?_
    simp only [bind_assoc, pure_bind]
    rw [htable]
    rfl
  by_cases hbuild : c.method = "build"
  · refine after_of_result (r := do c.arguments.nothing; pure (.entity (← b.build))) ?_
    simp only [bind_assoc, pure_bind]
    rw [hbuild]
    rfl
  refine after_of_result (r := throw (.misuse .noPart)) ?_
  simp only [call, husual, hdetail]
  rfl

theorem after_eq (b : EntityBuilder) (c : MethodCall) : b.after c = b.edited c.edit := by
  obtain ⟨x, hx, h⟩ := exists_edit c
  rw [h, hx.eq_edit h]

theorem edit_for (c : MethodCall) : Edit.For c c.edit := by
  obtain ⟨x, hx, h⟩ := exists_edit c
  rwa [← hx.eq_edit h]

/-! ## Runs -/

section

variable {α : Type}

/-- What calls replace is in the end what was given last, or what it was. -/
theorem run_replaced {part : EntityBuilder → α} {given : MethodCall → Option α}
    (h : ∀ b c, part (after b c) = (given c).getD (part b)) (b : EntityBuilder)
    (calls : List MethodCall) :
    part (b.run calls) = (calls.filterMap given).getLast?.getD (part b) := by
  induction calls using List.reverseRecOn with
  | nil => rfl
  | append_singleton calls c ih =>
    rw [run_concat, h, ih, List.filterMap_append]
    cases hc : given c <;> simp [hc]

/-- What calls add stands in the order of the calls. -/
theorem run_added {part : EntityBuilder → List α} {given : MethodCall → List α}
    (h : ∀ b c, part (after b c) = part b ++ given c) (b : EntityBuilder)
    (calls : List MethodCall) : part (b.run calls) = part b ++ calls.flatMap given := by
  induction calls using List.reverseRecOn with
  | nil => simp [run]
  | append_singleton calls c ih =>
    rw [run_concat, h, ih, List.append_assoc, List.flatMap_append, List.flatMap_singleton]

end

variable (b : EntityBuilder) (calls : List MethodCall)

theorem run_name : (b.run calls).name = b.name := by
  induction calls using List.reverseRecOn with
  | nil => rfl
  | append_singleton calls c ih =>
    rw [run_concat, after_eq]
    exact ih

theorem run_tableName :
    (b.run calls).tableName = (calls.filterMap (·.edit.tableName)).getLast?.getD b.tableName :=
  run_replaced (fun b c => by rw [after_eq]; rfl) b calls

theorem run_uniques : (b.run calls).uniques = b.uniques ++ calls.flatMap (·.edit.uniques) :=
  run_added (fun b c => by rw [after_eq]; rfl) b calls

theorem run_checks : (b.run calls).checks = b.checks ++ calls.flatMap (·.edit.checks) :=
  run_added (fun b c => by rw [after_eq]; rfl) b calls

theorem run_indexes : (b.run calls).indexes = b.indexes ++ calls.flatMap (·.edit.indexes) :=
  run_added (fun b c => by rw [after_eq]; rfl) b calls

theorem run_constraints :
    (b.run calls).constraints = b.constraints ++ calls.flatMap (·.edit.constraints) :=
  run_added (fun b c => by rw [after_eq]; rfl) b calls

theorem run_relationships :
    (b.run calls).relationships = b.relationships ++ calls.flatMap (·.edit.relationships) :=
  run_added (fun b c => by rw [after_eq]; rfl) b calls

/-- Columns are put in one after another, those of the first call first. -/
theorem run_columns :
    (b.run calls).columns = putAll (calls.flatMap (·.edit.columns)) b.columns := by
  induction calls using List.reverseRecOn with
  | nil => rfl
  | append_singleton calls c ih =>
    rw [run_concat, after_eq, List.flatMap_append, List.flatMap_singleton, putAll_append, ← ih]
    rfl

/-! ## Calls in another order -/

/-- What only one of two calls gives replaces something in either order. -/
theorem gives_comm {α : Type} {c d : MethodCall} (h : d.method ≠ c.method) (method : String)
    (forC forD : Except Fault α) (a : α) :
    (d.gives method forD).getD ((c.gives method forC).getD a) =
      (c.gives method forC).getD ((d.gives method forD).getD a) := by
  by_cases hc : c.method = method
  · have hd : d.gives method forD = none := if_neg fun hd => h (hd.trans hc.symm)
    rw [hd]
    rfl
  · rw [MethodCall.gives, MethodCall.gives, if_neg hc]
    rfl

/-- A call that replaces something and a call of another method change
different parts of an entity. -/
theorem after_comm {c d : MethodCall} (hc : c.method ∈ replacingMethods)
    (hd : d.method ≠ c.method) : (b.after c).after d = (b.after d).after c := by
  have hdetail : c.method ∈ detailMethods := List.mem_append_left _ hc
  obtain ⟨hcolumns, hfields⟩ := (edit_for c).none hdetail
  have hother (method : String) (hm : method ∉ replacingMethods) : c.method ≠ method :=
    fun h => hm (h ▸ hc)
  have huniques : c.edit.uniques = [] := by
    simp [MethodCall.edit, MethodCall.gives, hother "unique" (by decide)]
  have hchecks : c.edit.checks = [] := by
    simp [MethodCall.edit, MethodCall.gives, hother "check" (by decide)]
  have hindexes : c.edit.indexes = [] := by
    simp [MethodCall.edit, MethodCall.gives, hother "index" (by decide)]
  have hconstraints : c.edit.constraints = [] := by
    simp [MethodCall.edit, MethodCall.gives, hother "constraint" (by decide)]
  have hrelationships : c.edit.relationships = [] := by
    simp [MethodCall.edit, MethodCall.gives, hother "relationship" (by decide)]
  simp only [after_eq, edited, EntityBuilder.mk.injEq, hcolumns, hfields, huniques, hchecks,
    hindexes, hconstraints, hrelationships, List.append_nil, true_and, and_true]
  exact ⟨gives_comm hd .., gives_comm hd .., gives_comm hd .., gives_comm hd ..,
    gives_comm hd .., rfl, rfl⟩

/-- Such a call may as well come after calls of other methods. -/
theorem run_after_comm {c : MethodCall} (hc : c.method ∈ replacingMethods)
    (hd : ∀ d ∈ calls, d.method ≠ c.method) : (b.after c).run calls = (b.run calls).after c := by
  induction calls generalizing b with
  | nil => rfl
  | cons d calls ih =>
    obtain ⟨hd, hcalls⟩ := List.forall_mem_cons.mp hd
    show ((b.after c).after d).run calls = ((b.after d).run calls).after c
    rw [after_comm b hc hd, ih (b.after d) hcalls]

theorem run_moved {c : MethodCall} (hc : c.method ∈ replacingMethods)
    (hd : ∀ d ∈ calls, d.method ≠ c.method) (first last : List MethodCall) :
    b.run (first ++ c :: (calls ++ last)) = b.run (first ++ (calls ++ c :: last)) := by
  simp only [run_append]
  show (((b.run first).after c).run (calls ++ last)) = ((b.run first).run calls).run (c :: last)
  rw [run_append, run_after_comm (b.run first) calls hc hd]
  rfl

end EntityBuilder

end Polyschema
