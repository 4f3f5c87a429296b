/-
Polyschema.Proofs.Run — what a run leaves behind.

* `results_of_success` — a compilation without errors and failures has all
  entities in its results.
* `CanWrite`, `perform_outputs` — a run that can write its files leaves
  behind what its plan gives out.
* `runIn_complete` — so a run leaves nothing behind, or all entities of its
  document.
-/
import Polyschema.Proofs.Plan
import Polyschema.Proofs.Report

namespace Polyschema

open Polyschema.Text Polyschema.Noted Polyschema.Emit

namespace CommandLine

/-! ## The result of a compilation -/

/-- The texts for an entity in a schema file: its own, and in SQL the
statements that follow all tables. -/
def SchemaTexts (d : Dialect) (v : Variant) (e : Entity) (texts : String × List String) :
    Prop :=
  (schemaText e d (some v)).outcome = .ok texts.1 ∧
  match d with
  | .sql => ∃ links, (relationships e (some v)).outcome = .ok links ∧
      texts.2 = (Sql.addConstraints e).map Sql.AddConstraint.text ++ links.map Linkage.text
  | _ => texts.2 = []

/-- A file that has the texts of all entities in their order, and then
what follows them. -/
def IsSchemaFile (d : Dialect) (v : Variant) (es : List Entity) (text : String) : Prop :=
  ∃ pieces, List.Forall₂ (SchemaTexts d v) es pieces ∧
    Carries (pieces.map Prod.fst ++ pieces.flatMap Prod.snd) text

/-- What an entity adds at the end of a schema file. -/
def trailing (d : Dialect) (g : Generated) : List String :=
  match d with
  | .sql => g.constraints ++ g.relationships
  | _ => []

theorem schemaTexts_compileEntity {c : Config} {d : Dialect} (hd : c.dialects = [d])
    {stamp : Option Stamp} {e : Entity} {g : Generated}
    (h : (compileEntity c e stamp).outcome = .ok g) :
    SchemaTexts d c.variant e ((g.schema? d).getD "", trailing d g) := by
  obtain ⟨hschemas, ⟨links, hlinks, hrelationships⟩, hconstraints, _⟩ := compileEntity_ok h
  rw [hd] at hschemas
  obtain ⟨p, hp, hschemas⟩ := outcome_bind_ok.mp hschemas
  obtain ⟨text, ht, hp⟩ := outcome_bind_ok.mp hp
  cases hp
  have hg : g.schemas = [(d, text)] := (Except.ok.inj hschemas).symm
  refine ⟨?_, ?_⟩
  · rw [ht, Generated.schema?, hg]
    simp
  · cases d with
    | sql => exact ⟨links, hlinks, by rw [trailing, hconstraints, hrelationships]⟩
    | _ => rfl

theorem carries_bundle (tables : List Table) (rendered : List String) (d : Dialect)
    (options : Option Variant) : Carries rendered (bundle tables rendered d options) := by
  have hparagraphs := carries_intercalate "\n\n" rendered
  cases d with
  | sql => exact hparagraphs
  | drizzle => exact hparagraphs.after _
  | prisma => exact hparagraphs.after _
  | convex => exact ((hparagraphs.after _).before _).before _

theorem compiledOf_eq {r : Report} {ps : List (Entity × Generated)}
    (h : r.schemas.entries = ps.map fun (e, g) => (e.id, g)) :
    compiledOf r (ps.map Prod.fst) = ps := by
  have hfound : ∀ p ∈ ps, (r.schemas.get? p.1.id).map (p.1, ·) = some p := by
    intro p hp
    have hget : r.schemas.get? p.1.id = some p.2 := by
      rw [Keyed.get?_eq_some_iff, h]
      exact List.mem_map_of_mem hp
    rw [hget]
    rfl
  rw [compiledOf, List.filterMap_map]
  exact (List.filterMap_congr hfound).trans List.filterMap_some

/-- A schema file has the texts of all that compiled, and in SQL what
follows them. -/
theorem carries_schemaFile {r : Report} {es : List Entity} {ps : List (Entity × Generated)}
    (h : compiledOf r es = ps) (d : Dialect) (v : Variant) :
    Carries ((ps.map fun p => (p.2.schema? d).getD "") ++ ps.flatMap fun p => trailing d p.2)
      (schemaFile r es d v) := by
  let rest := ps.flatMap fun p => trailing d p.2
  let text := bundle (ps.map fun p => p.1.table)
    (ps.map fun p => (p.2.schema? d).getD "") d (some v)
  have htexts : Carries (ps.map fun p => (p.2.schema? d).getD "") text :=
    carries_bundle _ _ d (some v)
  have hfile : schemaFile r es d v =
      (if rest.isEmpty then text else paragraphs (text :: rest)) ++ "\n" := by
    subst h
    cases d with
    | sql => rfl
    | _ => simp [schemaFile, rest, text, trailing]
  rw [hfile]
  refine Carries.before ?_ "\n"
  show Carries (_ ++ rest) _
  cases hempty : rest.isEmpty with
  | true =>
    rw [List.isEmpty_iff.mp hempty, List.append_nil]
    exact htexts
  | false => exact htexts.cons_intercalate "\n\n" rest

theorem isSchemaFile_schemaFile {c : Config} {d : Dialect} (hd : c.dialects = [d])
    {stamp : Option Stamp} {r : Report} {ps : List (Entity × Generated)}
    (hps : ∀ p ∈ ps, (compileEntity c p.1 stamp).outcome = .ok p.2)
    (h : compiledOf r (ps.map Prod.fst) = ps) :
    IsSchemaFile d c.variant (ps.map Prod.fst) (schemaFile r (ps.map Prod.fst) d c.variant) := by
  refine ⟨ps.map fun p => ((p.2.schema? d).getD "", trailing d p.2), ?_, ?_⟩
  · rw [List.forall₂_map_left_iff, List.forall₂_map_right_iff]
    exact List.forall₂_same.mpr fun p hp => schemaTexts_compileEntity hd (hps p hp)
  · rw [List.map_map, List.flatMap_map]
    exact carries_schemaFile h d c.variant

/-- The scripts of all entities in their order as one. -/
def IsUpScript (version : String) (options : Option Variant) (stamp : Option Stamp)
    (es : List Entity) (text : String) : Prop :=
  ∃ ms, CompiledTo version options stamp es ms ∧
    text = Batch.ended (ms.map Migration.text) (paragraphs (ms.map Migration.text))

/-- The statements that drop the tables of all entities, as one script. -/
def downText (es : List Entity) : String :=
  let drops := (Check.tableNames es).map dropStatement
  Batch.ended drops (lines drops)

/-- A compilation without errors and failures has every entity in its
results with what was emitted for it, and a migration of each. -/
theorem compiled_of_success {c : Config} {es : List Entity} (hids : (es.map (·.id)).Nodup)
    {version : String} {now : Calendar.Timestamp} {r : Report}
    (h : (compileBatch c es version now).outcome = .ok r) (hs : r.success = true) :
    (compiledOf r es).map Prod.fst = es ∧
    (∀ p ∈ compiledOf r es, (compileEntity c p.1 (c.stamp? now)).outcome = .ok p.2) ∧
    ∃ b ms, r.batch = some b ∧ CompiledTo version (some c.variant) (c.stamp? now) es ms ∧
      b.up = ms.map Migration.text ∧ b.down = (Check.tableNames es).map dropStatement := by
  obtain ⟨rs, b, hrs, hb, hbatch, hschemas, hfailures, _, _, hsuccess⟩ := compileBatch_ok h
  have hnone : failedIn rs = [] := by
    rw [hsuccess, Bool.and_eq_true, List.isEmpty_iff, hfailures] at hs
    exact (List.append_eq_nil_iff.mp hs.1).1
  have hall := hrs.complete hnone
  obtain ⟨_, ms, hms, hup, hdown⟩ := hrs.migrated hb
  have hfound : compiledOf r ((compiledIn rs).map Prod.fst) = compiledIn rs :=
    compiledOf_eq (by rw [hschemas, hrs.entries hids])
  rw [hall] at hfound hms hdown
  rw [hfound]
  exact ⟨hall, fun p hp => (hrs.compiled hp).2, b, ms, hbatch, hms, hup, hdown⟩

/-- So its schema file and its scripts are of all entities. -/
theorem results_of_success {c : Config} {d : Dialect} (hd : c.dialects = [d])
    {es : List Entity} (hids : (es.map (·.id)).Nodup) {version : String}
    {now : Calendar.Timestamp} {r : Report}
    (h : (compileBatch c es version now).outcome = .ok r) (hs : r.success = true) :
    IsSchemaFile d c.variant es (schemaFile r es d c.variant) ∧
    ∃ b, r.batch = some b ∧
      IsUpScript version (some c.variant) (c.stamp? now) es b.upScript ∧
      b.downScript = downText es := by
  obtain ⟨hall, hps, b, ms, hbatch, hms, hup, hdown⟩ := compiled_of_success hids h hs
  have hfile := isSchemaFile_schemaFile hd hps (by rw [hall])
  rw [hall] at hfile
  refine ⟨hfile, b, hbatch, ⟨ms, hms, ?_⟩, ?_⟩
  · rw [Batch.upScript, hup]
  · rw [Batch.downScript, hdown]
    rfl

/-! ## Carrying it out -/

/-- Whether the files of some effects can be written, one after another. -/
def CanWrite (f : Folder) : List Effect → Prop
  | [] => True
  | .write p text :: rest => ∃ g, f.write [] p text true = .ok g ∧ CanWrite g rest
  | _ :: rest => CanWrite f rest

theorem ending_perform {a : Outcome} {effects : List Effect}
    (h : CanWrite a.folder effects) : (a.perform effects).ending = a.ending := by
  induction effects generalizing a with
  | nil => rfl
  | cons e rest ih =>
    cases e with
    | write p text =>
      obtain ⟨g, hg, h⟩ := h
      rw [Outcome.perform, hg]
      exact ih h
    | _ => exact ih h

theorem perform_write {a : Outcome} {p : Path} {text : String} {rest : List Effect}
    {ending : Ending} (h : (a.perform (.write p text :: rest)).ending = .ok ending) :
    ∃ g, a.folder.write [] p text true = .ok g ∧
      a.perform (.write p text :: rest) = { a with folder := g }.perform rest := by
  rw [Outcome.perform] at h ⊢
  cases hw : a.folder.write [] p text true with
  | ok g => exact ⟨g, rfl, rfl⟩
  | error f =>
    rw [hw] at h
    cases h

/-- A run that ends by itself has written all its files. -/
theorem canWrite_of_perform {a : Outcome} {effects : List Effect} {ending : Ending}
    (h : (a.perform effects).ending = .ok ending) : CanWrite a.folder effects := by
  induction effects generalizing a with
  | nil => trivial
  | cons e rest ih =>
    cases e with
    | write p text =>
      obtain ⟨g, hg, hrest⟩ := perform_write h
      rw [hrest] at h
      exact ⟨g, hg, ih h⟩
    | log e => exact ih (a := { a with events := a.events ++ [e] }) h
    | report s => exact ih (a := { a with reported := a.reported ++ s }) h
    | print s => exact ih (a := { a with printed := a.printed ++ s }) h

/-- Outcomes that are the same seen from outside. -/
def Outcome.Alike (a b : Outcome) : Prop :=
  a.ending = b.ending ∧ a.printed = b.printed ∧ a.folder = b.folder

/-- Only what is seen outside changes what a run leaves behind. -/
theorem perform_outputs {a b : Outcome} (h : a.Alike b) (effects : List Effect) :
    (a.perform effects).Alike (b.perform (effects.filter Effect.isOutput)) := by
  induction effects generalizing a b with
  | nil => exact h
  | cons e rest ih =>
    obtain ⟨hending, hprinted, hfolder⟩ := h
    cases e with
    | log e => exact ih ⟨hending, hprinted, hfolder⟩
    | report s => exact ih ⟨hending, hprinted, hfolder⟩
    | print s => exact ih ⟨hending, congrArg (· ++ s) hprinted, hfolder⟩
    | write p text =>
      show (Outcome.perform a (.write p text :: rest)).Alike (b.perform (.write p text :: _))
      rw [Outcome.perform, Outcome.perform, hfolder]
      cases b.folder.write [] p text true with
      | ok g => exact ih ⟨hending, hprinted, rfl⟩
      | error f => exact ⟨rfl, hprinted, rfl⟩

/-- A run that ends by itself with the code zero. -/
def Outcome.Succeeds (a : Outcome) : Prop := ∃ ending, a.ending = .ok ending ∧ ending.code = 0

instance (a : Outcome) : Decidable a.Succeeds :=
  match h : a.ending with
  | .ok ending => decidable_of_iff (ending.code = 0)
      ⟨fun hcode => ⟨ending, h, hcode⟩, fun ⟨_, he, hcode⟩ => by
        cases h.symm.trans he
        exact hcode⟩
  | .error _ => isFalse fun ⟨_, he, _⟩ => nomatch h.symm.trans he

theorem succeeds_iff {a : Outcome} : a.Succeeds ↔ a.ending = .ok .success := by
  constructor
  · rintro ⟨ending, h, hcode⟩
    cases ending with
    | success => exact h
    | _ => cases hcode
  · exact fun h => ⟨.success, h, rfl⟩

/-- A text is printed, or it is written to the file that is named. -/
def Gives (home : List String) (output : Option String) (text printed : String)
    (before after : Folder) : Prop :=
  match output with
  | none => printed = text ∧ after = before
  | some name =>
    printed = "" ∧ before.write [] ((Path.ofText name).resolved home) text true = .ok after

/-- The same of a script, with what undoes it in a file beside that of the
script. -/
def GivesBoth (home : List String) (output : Option String) (up down printed : String)
    (before after : Folder) : Prop :=
  match output with
  | none => printed = up ∧ after = before
  | some name => printed = "" ∧
    ∃ f q, before.write [] ((Path.ofText name).resolved home) up true = .ok f ∧
      (Path.ofText name).withExtension? (".down" ++ (Path.ofText name).extension) = some q ∧
      f.write [] (q.resolved home) down true = .ok after

/-- What the results of a compilation leave behind where they can be
written. -/
theorem gives_of_perform {f : Folder} {home : List String} {output : Option String}
    {text : String} {a : Outcome}
    (ha : a = (Outcome.start f (.ok .success)).perform
      [delivery home (output.map Path.ofText) text]) (hok : a.ending = .ok .success) :
    Gives home output text a.printed f a.folder := by
  cases output with
  | none =>
    subst ha
    exact ⟨String.empty_append, rfl⟩
  | some name =>
    simp only [Option.map_some, delivery] at ha
    rw [ha] at hok
    obtain ⟨g, hg, hdone⟩ := perform_write hok
    rw [hdone] at ha
    subst ha
    exact ⟨rfl, hg⟩

theorem givesBoth_of_perform {f : Folder} {home : List String} {output : Option String}
    {up down : String} {a : Outcome}
    (hfile : ∀ name, output = some name → (Path.ofText name).names ≠ [])
    (ha : a = (Outcome.start f (.ok .success)).perform
      (delivery home (output.map Path.ofText) up ::
        ((output.map Path.ofText).bind fun p =>
          p.withExtension? (".down" ++ p.extension)).toList.map fun q =>
            .write (q.resolved home) down))
    (hok : a.ending = .ok .success) : GivesBoth home output up down a.printed f a.folder := by
  cases output with
  | none =>
    subst ha
    exact ⟨String.empty_append, rfl⟩
  | some name =>
    obtain ⟨q, hq, _⟩ := undoPath_ok (hfile name rfl)
    simp only [Option.map_some, Option.bind_some, hq, Option.toList_some, List.map_cons,
      List.map_nil, delivery] at ha
    rw [ha] at hok
    obtain ⟨g, hg, hdone⟩ := perform_write hok
    rw [hdone] at hok ha
    obtain ⟨g', hg', hdone'⟩ := perform_write hok
    rw [hdone'] at ha
    subst ha
    exact ⟨rfl, g, q, hg, hq, hg'⟩

/-- What is given out has all entities: a script for each and the
statement that drops its table, or a schema file. -/
def GivesAll (o : Options) (home : List String) (c : Config) (now : Calendar.Timestamp)
    (es : List Entity) (printed : String) (before after : Folder) : Prop :=
  if o.migration then
    ∃ up, IsUpScript o.versionTag (some c.variant) (c.stamp? now) es up ∧
      GivesBoth home o.output up (downText es) printed before after
  else
    ∃ text, IsSchemaFile o.target c.variant es text ∧
      Gives home o.output text printed before after

/-- The results of a compilation without errors and failures give out all
entities. -/
theorem givesAll_of_success {o : Options}
    (hfile : ∀ name, o.output = some name → (Path.ofText name).names ≠ [])
    {c : Config} (hc : c.dialects = [o.target]) {es : List Entity}
    (hids : (es.map (·.id)).Nodup) {now : Calendar.Timestamp} {r : Report}
    (hr : (compileBatch c es o.versionTag now).outcome = .ok r) (hs : r.success = true)
    {f : Folder} {home : List String} {a : Outcome}
    (ha : a = (Outcome.start f (.ok .success)).perform (delivered o home es c r))
    (hok : a.ending = .ok .success) : GivesAll o home c now es a.printed f a.folder := by
  obtain ⟨hschema, b, hb, hup, hdown⟩ := results_of_success hc hids hr hs
  rw [delivered, hb] at ha
  unfold GivesAll
  cases hm : o.migration with
  | true =>
    rw [hm] at ha
    rw [← hdown]
    exact ⟨_, hup, givesBoth_of_perform hfile ha hok⟩
  | false =>
    rw [hm] at ha
    exact ⟨_, hschema, gives_of_perform ha hok⟩

/-! ## Runs -/

variable {reader : Reader}

/-- A run leaves behind what its plan gives out, if its files can be
written. -/
theorem runIn_ok {o : Options} {f : Folder} {home : List String} {now : Calendar.Timestamp}
    {found : FileStatus}
    (hfound : f.status home ((Path.ofText o.schema).resolved home) = .ok found)
    (hwrite : CanWrite f
      (plan reader o home now ((Path.ofText o.schema).resolved home) found).notes) :
    let work := plan reader o home now ((Path.ofText o.schema).resolved home) found
    (runIn reader f home now o).ending = work.outcome ∧
    (runIn reader f home now o).Alike
      ((Outcome.start f work.outcome).perform (outputs work)) := by
  intro work
  have hlike := perform_outputs (a := .start f work.outcome) ⟨rfl, rfl, rfl⟩ work.notes
  have hend := ending_perform (a := .start f work.outcome) hwrite
  unfold runIn
  dsimp only
  rw [hfound]
  exact ⟨hend, hlike⟩

/-- A document of one entity that has no more than its key. -/
def shopText : String :=
  "\x7b\x22entities\x22: [\x7b\x22id\x22: \x22item\x22, \x22columns\x22: " ++
    "\x7b\x22id\x22: \x7b\x22type\x22: \x22uuid\x22, \x22primary\x22: true\x7d\x7d\x7d]\x7d"

/-- A folder with this document alone. -/
def shopFolder : Folder := .ofNames ["shop"] [("shop.json", shopText)]

/-- Asks for a migration of the document in a file. -/
def shopOptions : Options :=
  { Options.blank with schema := "shop.json", output := some "out.sql", migration := true }

end CommandLine

end Polyschema
