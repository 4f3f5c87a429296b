/-
Polyschema.Proofs.DocumentFault — how raw data can be turned down.

Raw data of any shape is read as a document or turned down, with one of a
few faults. All of these blame the document, so a run whose document cannot
be loaded ends by itself, with the code for it.

* `Fault.OfDocument` — the faults of raw data.
* `failsIn_columnType`, `failsIn_typedDefault` — what a type and a default
  can be turned down with.
* `read_document_or_fault` — raw data is read or turned down, and a run on a
  document that cannot be loaded ends with the code for it or with what the
  reader of its format raised.
-/
import Polyschema.Proofs.Run
import Polyschema.Yaml.Read

namespace Polyschema

open Polyschema.Noted Polyschema.Text

/-! ## Parts of raw data -/

section

variable {ε α β : Type} {P : ε → Prop}

theorem failsIn_optionMapM {f : α → Except ε β} {o : Option α}
    (hf : ∀ a, FailsIn P (f a)) : FailsIn P (o.mapM f) := by
  cases o with
  | none => exact failsIn_ok none
  | some a => exact (hf a).map some

theorem failsIn_mapEntries {f : String → α → Except ε β} {k : Keyed α}
    (hf : ∀ name a, FailsIn P (f name a)) : FailsIn P (k.mapEntries f) := by
  refine FailsIn.map (failsIn_mapM fun e he => ?_) _
  exact (hf e.1 e.2).bind fun b _ => failsIn_pure _

end

/-! ## The faults of raw data -/

/-- A fault that raw data can be turned down with: it has not the form of a
document, an entity is repeated or has a piece that cannot be made, a column
has no type, or the text of a default does not write a value. -/
inductive Fault.OfDocument : Fault → Prop
  | badForm (ps : List Problem) : OfDocument (.refused (.badDocument ps))
  | repeated (entity : String) : OfDocument (.refused (.repeatedEntity entity))
  | badPiece (entity model : String) (ps : List Problem) :
    OfDocument (.refused (.badEntity entity model ps))
  | badType (d : Defect) (h : d.kind = .invalidType) : OfDocument (.defect d)
  | badDecimal (v : Value) : OfDocument (.refused (.notDecimal v))
  | badText : OfDocument (.misuse .badContent)

/-- Each of these faults blames the document. -/
theorem Fault.OfDocument.blames {f : Fault} (h : f.OfDocument) :
    CommandLine.blamesDocument f = true := by
  cases h <;> rfl

/-! ## Types -/

/-- A fault of the parameters of a type. -/
def Fault.IsBadType (f : Fault) : Prop := ∃ d : Defect, f = .defect d ∧ d.kind = .invalidType

@[simp] theorem Fault.isBadType_defect {d : Defect} :
    (Fault.defect d).IsBadType ↔ d.kind = .invalidType := by
  simp [IsBadType]

theorem Fault.IsBadType.ofDocument {f : Fault} (h : f.IsBadType) : f.OfDocument := by
  obtain ⟨d, rfl, hd⟩ := h
  exact .badType d hd

theorem failsIn_lengthOf (a : Option Argument) : FailsIn Fault.IsBadType (lengthOf a) := by
  unfold lengthOf
  split
  · simp
  · simp
  · split <;> simp [Defect.kind]
  · simp [Defect.kind]

theorem failsIn_precisionOf (a : Option Argument) : FailsIn Fault.IsBadType (precisionOf a) := by
  unfold precisionOf
  split
  · simp
  · simp
  · split <;> simp [Defect.kind]
  · simp [Defect.kind]

theorem failsIn_scaleOf (a : Option Argument) : FailsIn Fault.IsBadType (scaleOf a) := by
  unfold scaleOf
  split
  · simp
  · simp
  · split <;> simp [Defect.kind]
  · simp [Defect.kind]

theorem failsIn_shapeOf (precision : Option {n : Nat // 0 < n}) (scale : Option Nat) :
    FailsIn Fault.IsBadType (shapeOf precision scale) := by
  unfold shapeOf
  split
  · simp
  · dsimp only
    split <;> simp [Defect.kind]

theorem failsIn_membersOf (given : Value) (items : List Value) :
    FailsIn Fault.IsBadType (membersOf given items) := by
  unfold membersOf
  dsimp only
  split
  · split
    · split <;> simp [Defect.kind]
    · simp [Defect.kind]
  · simp [Defect.kind]

@[simp] theorem Tag.isBadType_misfit (tag : Tag) : tag.misfit.IsBadType := by
  simp [misfit, Defect.kind]

theorem failsIn_makeNamed (name : String) : FailsIn Fault.IsBadType (makeNamed name) := by
  unfold makeNamed
  split
  · simp [Defect.kind]
  · simp
  · simp
  · split <;> simp

theorem failsIn_elementOf (a : Argument) : FailsIn Fault.IsBadType (elementOf a) := by
  unfold elementOf
  split
  · simp
  · exact failsIn_makeNamed _
  · simp [Defect.kind]

/-- A registered kind is turned down for its parameters only. -/
theorem failsIn_makeTag {tag : Tag} (hc : tag ≠ .custom) (bound : List (Option Argument)) :
    FailsIn Fault.IsBadType (makeTag tag bound) := by
  unfold makeTag
  split
  case h_1 => exact (failsIn_lengthOf _).bind fun _ _ => failsIn_pure _
  case h_2 =>
    refine (failsIn_precisionOf _).bind fun precision _ => ?_
    refine (failsIn_scaleOf _).bind fun scale _ => ?_
    exact (failsIn_shapeOf precision scale).bind fun _ _ => failsIn_pure _
  case h_3 => exact (failsIn_elementOf _).bind fun _ _ => failsIn_pure _
  case h_4 =>
    split
    · exact (failsIn_membersOf _ _).bind fun _ _ => failsIn_pure _
    · simp
  case h_5 => exact absurd rfl hc
  case h_6 => split <;> simp

/-- The type of a column is turned down for its name or its parameters. A
kind of the caller's own lacks its parameters in any case. -/
theorem failsIn_columnType (c : ColumnDraft) : FailsIn Fault.IsBadType c.columnType := by
  unfold ColumnDraft.columnType makeType
  dsimp only
  split
  · simp [Defect.kind]
  next tag htag =>
    split
    · simp
    next bound hbound =>
      by_cases hc : tag = .custom
      · subst hc
        have hnone : c.arguments (lower (trim c.type)) = [] :=
          arguments_of_not_mem fun hm => ofText?_argumentKinds _ hm htag
        rw [hnone] at hbound
        cases hbound
        exact failsIn_error.mpr (Tag.isBadType_misfit .custom)
      · exact failsIn_makeTag hc bound

/-! ## Defaults -/

theorem failsIn_readStored {α : Type} {P : Fault → Prop} {read : String → Option α} {m : Misuse}
    (hm : P (.misuse m)) (s : String) : FailsIn P (readStored read m (.str s)) := by
  unfold readStored
  dsimp only
  split
  · simp
  · exact failsIn_error.mpr hm

/-- A registered kind with the name of one of which documents write values
as text turns a text down for what it says. -/
theorem failsIn_deserialize {t : ColumnType} (ht : t.kind.Registered)
    (hname : t.name ∈ ColumnDraft.textKinds) (s : String) :
    FailsIn Fault.OfDocument (t.deserialize (.str s)) := by
  obtain ⟨kind, modifiers⟩ := t
  cases kind with
  | decimal shape =>
    refine FailsIn.map ?_ _
    unfold toDecimal
    dsimp only
    split
    · simp
    · exact failsIn_error.mpr (.badDecimal _)
  | date => exact (failsIn_readStored .badText s).map _
  | timestamp => exact (failsIn_readStored .badText s).map _
  | custom spec => cases ht
  | _ => simp [ColumnType.name, Kind.name, ColumnDraft.textKinds] at hname

theorem failsIn_typedDefault (c : ColumnDraft) {t : ColumnType} (ht : t.kind.Registered) :
    FailsIn Fault.OfDocument (c.typedDefault t) := by
  unfold ColumnDraft.typedDefault
  split
  · simp
  · split
    · split
      next hname => exact failsIn_deserialize ht hname _
      next => simp
    · split <;> simp
    · simp

/-! ## Entities -/

theorem failsIn_piece {α : Type} (entity model : String) (r : Reading α) :
    FailsIn Fault.OfDocument (EntityDraft.piece entity model r) := by
  cases r with
  | done a => exact failsIn_ok a
  | failed ps => exact failsIn_error.mpr (.badPiece entity model ps)

theorem failsIn_column (entity : String) (c : ColumnDraft) :
    FailsIn Fault.OfDocument (c.column entity) := by
  refine FailsIn.bind ?_ fun t ht => ?_
  · exact (failsIn_columnType c).mono fun _ => Fault.IsBadType.ofDocument
  · refine (failsIn_typedDefault c (columnType_registered ht).kind).bind fun default _ => ?_
    exact failsIn_piece entity "Column" _

theorem failsIn_table (e : EntityDraft) : FailsIn Fault.OfDocument e.table := by
  refine (failsIn_mapEntries fun _ c => failsIn_column e.id c).bind fun columns _ => ?_
  refine (failsIn_mapM fun c _ => failsIn_piece e.id "CheckConstraint" _).bind fun checks _ => ?_
  exact failsIn_pure _

theorem failsIn_relationship (entity home : String) (side : String → Side)
    (r : RelationshipDraft) : FailsIn Fault.OfDocument (r.relationship entity home side) := by
  have hjunction (j : JunctionDraft) :
      FailsIn Fault.OfDocument (RelationshipDraft.junctionOf entity j) :=
    (failsIn_mapEntries fun _ c => failsIn_column entity c).bind fun extras _ =>
      failsIn_piece entity "JunctionTableSpec" _
  refine (failsIn_optionMapM hjunction).bind fun junction _ => ?_
  refine FailsIn.bind (failsIn_piece entity "ForeignKeySpec" _) fun foreignKey _ => ?_
  exact failsIn_piece entity "Relationship" _

theorem failsIn_entity (tables : List Table) (e : EntityDraft) (table : Table) :
    FailsIn Fault.OfDocument (e.entity tables table) := by
  refine (failsIn_mapM fun r _ => failsIn_relationship _ _ _ r).bind fun links _ => ?_
  refine (failsIn_mapM fun i _ => failsIn_piece e.id "Index" _).bind fun indexes _ => ?_
  refine (failsIn_mapM fun c _ => failsIn_piece e.id "Constraint" _).bind fun constraints _ => ?_
  exact failsIn_pure _

theorem failsIn_withTables (seen : List String) (es : List EntityDraft) :
    FailsIn Fault.OfDocument (Document.withTables seen es) := by
  induction es generalizing seen with
  | nil => exact failsIn_ok []
  | cons e rest ih =>
    have hrest : FailsIn Fault.OfDocument (do
        let table ← e.table
        pure ((e, table) :: (← Document.withTables (e.id :: seen) rest))) :=
      (failsIn_table e).bind fun table _ => (ih (e.id :: seen)).bind fun ps _ => failsIn_pure _
    unfold Document.withTables
    dsimp only
    split
    · exact failsIn_error.mpr (.repeated e.id)
    · exact hrest

/-- Raw data of any shape is read or turned down. -/
theorem failsIn_read (raw : Part) : FailsIn Fault.OfDocument (Document.read raw).outcome := by
  have hbuild (d : Document) : FailsIn Fault.OfDocument d.build :=
    (failsIn_withTables [] d.entities).bind fun drafts _ =>
      failsIn_mapM fun p _ => failsIn_entity _ p.1 p.2
  unfold Document.read
  rw [outcome_bind]
  refine FailsIn.bind ?_ fun document _ => ?_
  · cases Document.ofPart raw with
    | done d => exact failsIn_ok d
    | failed ps => exact failsIn_error.mpr (.badForm ps)
  · rw [outcome_bind]
    exact (hbuild document).bind fun entities _ => failsIn_ok _

/-! ## Files -/

/-- A fault that blames the document, or one that a reader raises at a
text. -/
def CommandLine.BlamesOrRaised (reader : Reader) (text : String) (f : Fault) : Prop :=
  blamesDocument f = true ∨ reader text = .error (.other f)

variable {reader : Reader}

theorem failsIn_mapping (path text : String) (format : Format) :
    FailsIn (CommandLine.BlamesOrRaised reader text) (format.mapping reader path text) := by
  have hvalue : FailsIn (CommandLine.BlamesOrRaised reader text)
      (format.value reader path text) := by
    cases format with
    | json =>
      unfold Format.value
      dsimp only
      split
      · exact failsIn_ok _
      · exact failsIn_error.mpr (.inl rfl)
    | yaml =>
      unfold Format.value
      dsimp only
      split
      · exact failsIn_ok _
      · exact failsIn_error.mpr (.inl rfl)
      next f hf => exact failsIn_error.mpr (.inr hf)
  unfold Format.mapping
  refine hvalue.bind fun v _ => ?_
  split
  · exact failsIn_ok _
  · exact failsIn_error.mpr (.inl rfl)

/-- A text holds raw data, is to blame, or makes the reader raise something
else. -/
theorem failsIn_data (path extension text : String) :
    FailsIn (CommandLine.BlamesOrRaised reader text)
      (Document.data reader path extension text).outcome := by
  unfold Document.data
  split
  · exact failsIn_mapping path _ _
  · rw [outcome_bind]
    refine FailsIn.bind (failsIn_ok ()) fun _ _ => ?_
    split
    · exact failsIn_ok _
    · exact failsIn_mapping path _ .yaml

/-- Whatever stands at a path, a document is loaded from it, it is to blame,
or it is a text that makes the reader raise something else. -/
theorem failsIn_load (reader : Reader) (path extension : String) (found : FileStatus) :
    FailsIn (fun f => CommandLine.blamesDocument f = true ∨
        ∃ text, found = .file text ∧ reader text = .error (.other f))
      (Document.load reader path extension found).outcome := by
  unfold Document.load
  rw [outcome_bind]
  refine FailsIn.bind ?_ fun raw _ =>
    (failsIn_read (.data raw)).mono fun _ h => .inl h.blames
  cases found with
  | absent => exact failsIn_error.mpr (.inl rfl)
  | folder => exact failsIn_error.mpr (.inl rfl)
  | file text =>
    exact (failsIn_data path extension text).mono fun _ =>
      Or.imp_right fun h => ⟨text, rfl, h⟩

/-! ## Runs -/

namespace CommandLine

/-- A fault on the way to a document is turned into no document where it
blames the document. -/
theorem outcome_load_of_fails {p : Path} {found : FileStatus} {f : Fault}
    (h : (Document.load reader p.text p.extension found).outcome = .error f) :
    (load reader p found).outcome = if blamesDocument f then .ok none else .error f := by
  have hevents : (Plan.ofEvents (Document.load reader p.text p.extension found)).outcome =
    .error f := h
  simp only [load, hevents]
  split <;> rfl

/-- How a run ends whose document cannot be loaded because of a fault. -/
def endAfter (f : Fault) : Except Fault Ending :=
  if blamesDocument f then .ok .noInput else .error f

/-- A run on a text that cannot be loaded ends there. Nothing is printed and
no file is written. -/
theorem plan_of_not_loaded (o : Options) (home : List String) (now : Calendar.Timestamp)
    {p : Path} {text : String} {f : Fault}
    (h : (Document.load reader p.text p.extension (.file text)).outcome = .error f) :
    Alike (plan reader o home now p (.file text)) ⟨[], endAfter f⟩ := by
  have hquiet : outputs (load reader p (.file text)) = [] := (load_cases _ _).1
  have hload := outcome_load_of_fails h
  have hafter (k : Option (List Entity × Config) → Plan Ending) (hk : k none = pure .noInput) :
      Alike (load reader p (.file text) >>= k) ⟨[], endAfter f⟩ := by
    unfold endAfter
    cases hblames : blamesDocument f with
    | true =>
      rw [hblames] at hload
      have hnone := alike_bind_ok (k := k) hquiet hload
      rwa [hk] at hnone
    | false =>
      rw [hblames] at hload
      exact alike_bind_error hquiet hload
  refine (plan_file reader o home now p text).trans ?_
  -- both modes begin with the document
  split
  · exact (alike_bind_ok rfl rfl).trans (hafter _ rfl)
  · exact hafter _ rfl

theorem canWrite_of_outputs {f : Folder} {effects : List Effect}
    (h : effects.filter Effect.isOutput = []) : CanWrite f effects := by
  induction effects with
  | nil => trivial
  | cons e rest ih =>
    cases e with
    | log e => exact ih h
    | report s => exact ih h
    | print s => cases h
    | write p text => cases h

/-- So a run on such a text ends there and leaves everything as it is. -/
theorem runIn_of_not_loaded {f : Folder} {home : List String} (now : Calendar.Timestamp)
    {o : Options} {text : String} {fault : Fault}
    (hfound : f.status home ((Path.ofText o.schema).resolved home) = .ok (.file text))
    (hload : (Document.load reader ((Path.ofText o.schema).resolved home).text
      ((Path.ofText o.schema).resolved home).extension (.file text)).outcome = .error fault) :
    (runIn reader f home now o).ending = endAfter fault ∧
    (runIn reader f home now o).printed = "" ∧ (runIn reader f home now o).folder = f := by
  obtain ⟨hout, houtcome⟩ := plan_of_not_loaded o home now hload
  obtain ⟨hend, -, hprinted, hfolder⟩ := runIn_ok hfound (canWrite_of_outputs hout)
  rw [hout] at hprinted hfolder
  exact ⟨hend.trans houtcome, hprinted, hfolder⟩

/-- Raw data is read, or it is turned down with a fault that blames the
document. So a run whose document cannot be loaded ends with the code for
that, unless the reader raises a fault at its text that does not blame the
document: with this fault the run ends. In both cases everything is left as
it is. -/
theorem read_document_or_fault (raw : Part) (reader : Reader) (f : Folder)
    (home : List String) (now : Calendar.Timestamp) (o : Options) (found : FileStatus) :
    ((∃ loaded, (Document.read raw).outcome = .ok loaded) ∨
      ∃ fault, (Document.read raw).outcome = .error fault ∧ fault.OfDocument ∧
        blamesDocument fault = true) ∧
    (let p := (Path.ofText o.schema).resolved home
      let a := runIn reader f home now o
      f.status home p = .ok found →
      (∃ loaded, (Document.load reader p.text p.extension found).outcome = .ok loaded) ∨
      (a.printed = "" ∧ a.folder = f ∧
        ((∃ ending, a.ending = .ok ending ∧ ending.code = 4) ∨
          ∃ text fault, found = .file text ∧ reader text = .error (.other fault) ∧
            blamesDocument fault = false ∧ a.ending = .error fault))) := by
  refine ⟨?_, fun hfound => ?_⟩
  · obtain hloaded | ⟨fault, hfault, hof⟩ := (failsIn_read raw).ok_or_error
    · exact .inl hloaded
    · exact .inr ⟨fault, hfault, hof, hof.blames⟩
  let p := (Path.ofText o.schema).resolved home
  obtain hloaded | ⟨fault, hfault, hwhy⟩ :=
    (failsIn_load reader p.text p.extension found).ok_or_error
  · exact .inl hloaded
  refine .inr ?_
  cases found with
  | file text =>
    obtain ⟨hend, hprinted, hfolder⟩ := runIn_of_not_loaded now hfound hfault
    refine ⟨hprinted, hfolder, ?_⟩
    rw [hend, endAfter]
    cases hblames : blamesDocument fault with
    | true => exact .inl ⟨.noInput, rfl, rfl⟩
    | false =>
      obtain hblames' | ⟨_, ⟨⟩, hraised⟩ := hwhy
      · rw [hblames] at hblames'
        cases hblames'
      · exact .inr ⟨text, fault, rfl, hraised, hblames, rfl⟩
  -- where no text stands, no document is looked for
  | absent | folder =>
    obtain ⟨hend, -, hprinted, hfolder⟩ := runIn_ok hfound (canWrite_of_outputs rfl)
    exact ⟨hprinted, hfolder, .inl ⟨.noInput, hend, rfl⟩⟩

/-- A document that asks for a kind of its own, which documents cannot
have. -/
def ownKindText : String :=
  "\x7b\x22entities\x22: [\x7b\x22id\x22: \x22item\x22, \x22columns\x22: " ++
    "\x7b\x22id\x22: \x7b\x22type\x22: \x22custom\x22\x7d\x7d\x7d]\x7d"

theorem read_document_or_fault_ownKind :
    let f := Folder.ofNames ["shop"] [("shop.json", ownKindText)]
    let o := { Options.blank with schema := "shop.json", validateOnly := true }
    let p := (Path.ofText o.schema).resolved ["shop"]
    f.status ["shop"] p = .ok (.file ownKindText) ∧
      ∃ ending, (runIn Value.ofYaml f ["shop"] newYear o).ending = .ok ending ∧
        ending.code = 4 := by
  intro f o p
  have hfound : f.status ["shop"] p = .ok (.file ownKindText) := by decide +kernel
  have hends : ((runIn Value.ofYaml f ["shop"] newYear o).ending.toOption).isSome = true := by
    decide +kernel
  have hfails : ((Document.load Value.ofYaml p.text p.extension
      (.file ownKindText)).outcome.toOption).isNone = true := by decide +kernel
  refine ⟨hfound, ?_⟩
  obtain ⟨loaded, hloaded⟩ | ⟨-, -, hend | ⟨_, _, _, _, _, hraised⟩⟩ :=
    (read_document_or_fault (.data .null) Value.ofYaml f ["shop"] newYear o _).2 hfound
  · rw [hloaded] at hfails
    cases hfails
  · exact hend
  · rw [hraised] at hends
    cases hends

/-- A document that asks for a character far beyond all that there are. -/
def farCharacterText : String := "entities: \x22\\UFFFFFFFF\x22\n"

/-- The reader turns the text down, but not for its form. What it raises is
not seen as a fault of the document, and it ends the run. -/
theorem far_character_escapes :
    let f := Folder.ofNames ["shop"] [("shop.yaml", farCharacterText)]
    let o := { Options.blank with schema := "shop.yaml" }
    Value.ofYaml farCharacterText = .error (.other (.misuse .outOfRange)) ∧
      (runIn Value.ofYaml f ["shop"] newYear o).ending = .error (.misuse .outOfRange) ∧
      ¬ ∃ ending, (runIn Value.ofYaml f ["shop"] newYear o).ending = .ok ending ∧
        ending.code = 4 := by
  intro f o
  let p := (Path.ofText o.schema).resolved ["shop"]
  have hread : Value.ofYaml farCharacterText = .error (.other (.misuse .outOfRange)) := rfl
  have hfound : f.status ["shop"] p = .ok (.file farCharacterText) := by decide +kernel
  have hformat : Format.ofExtension? p.extension = some .yaml := by decide +kernel
  have hload : (Document.load Value.ofYaml p.text p.extension
      (.file farCharacterText)).outcome = .error (.misuse .outOfRange) := by
    rw [Document.load, outcome_bind, Document.dataAt, Document.data, hformat]
    simp only [Format.mapping, Format.value, hread]
    rfl
  obtain ⟨hend, -, -⟩ := runIn_of_not_loaded newYear hfound hload
  refine ⟨hread, hend, ?_⟩
  rintro ⟨ending, hok, -⟩
  rw [hend] at hok
  cases hok

end CommandLine

end Polyschema
