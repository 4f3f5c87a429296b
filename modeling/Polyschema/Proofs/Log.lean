/-
Polyschema.Proofs.Log — emission beside a log of warnings.

* `Emission.intoLog` — emission with a list of its losses, translated into
  work that is handed a log.
* `emitTable_eq_into`, `emitRelationship_eq_into` — what is handed a log leaves
  there what it found, with the losses of the same work after it.
* `Prompt` — work that leaves no note where it fails in a given way.
* `prompt_tableWith`, `prompt_relationship` — tables and relationships are
  checked first, so only a function of the caller's own can fail so later.
* `emission_keeps_log` — what a failed table or relationship finds in a log
  is what it leaves there, unless a function of the caller's own has failed
  it, and one that is written adds warnings that depend on neither the log
  nor on whether there is one.
-/
import Polyschema.Emit.Tool
import Polyschema.Proofs.Interpret
import Polyschema.Proofs.Linkage

namespace Polyschema

open Polyschema.Noted

variable {α β ν : Type}

/-- The failures for which the schema has its own words, or that are counted
among its own. -/
def Fault.IsOwn : Fault → Prop
  | defect _ | mismatch _ | complaint _ => True
  | _ => False

theorem Fault.not_isOwn_misuse (m : Misuse) : ¬ (Fault.misuse m).IsOwn := id

/-! ## Logs -/

namespace Emission

/-- Emission that writes its losses into a log: the log afterwards and
the outcome. -/
def into (m : Emission α) : Logged α :=
  fun log => (log.map (· ++ m.notes.map Loss.diagnostic), m.outcome)

theorem into_of_notes_eq_nil {m : Emission α} (h : m.notes = []) (log : Log) :
    m.into log = (log, m.outcome) := by
  cases log <;> simp [into, h]

/-- Work in sequence goes on with the log that the first piece of it
leaves. -/
theorem into_bind (m : Emission α) (k : α → Emission β) :
    (m >>= k).into = m.into >>= fun a => (k a).into := by
  funext log
  show _ = m.into.andThen _ log
  cases h : m.outcome with
  | error f =>
    have hbind : (m >>= k).outcome = .error f := by rw [outcome_bind, h]; rfl
    simp only [into, Logged.andThen, notes_bind_error h, hbind, h]
  | ok a =>
    have hbind : (m >>= k).outcome = (k a).outcome := by rw [outcome_bind, h]; rfl
    simp only [into, Logged.andThen, notes_bind_ok h, hbind, h, List.map_append, Option.map_map,
      Function.comp_def, List.append_assoc]

/-- Emission translated into work that is handed a log. -/
def intoLog : Emitting.Hom Emission Logged where
  toFun := into
  map_pure _ := funext fun log => into_of_notes_eq_nil rfl log
  map_bind := into_bind
  map_losses _ := rfl
  map_ofExcept _ := funext fun log => into_of_notes_eq_nil rfl log

end Emission

/-! ## Checks before notes -/

namespace Noted

variable {P : Fault → Prop}

/-- Work that has left no notes where it fails in some way. -/
def Prompt (P : Fault → Prop) (m : Noted ν α) : Prop := ∀ f, P f → m.Fails f → m.notes = []

theorem prompt_of_notes_eq_nil {m : Noted ν α} (h : m.notes = []) : m.Prompt P :=
  fun _ _ _ => h

theorem prompt_of_failsIn {m : Noted ν α} (h : FailsIn (¬ P ·) m.outcome) : m.Prompt P :=
  fun f hp hf => absurd hp (h f hf)

/-- Work goes on promptly after a check, which leaves no notes. -/
theorem prompt_bind {m : Noted ν α} {k : α → Noted ν β} (hm : m.notes = [])
    (hk : ∀ a, (k a).Prompt P) : (m >>= k).Prompt P := by
  intro f hp hf
  rcases fails_bind.mp hf with herror | ⟨a, ha, hf⟩
  · rw [notes_bind_error herror, hm]
  · rw [notes_bind_ok ha, hm, hk a f hp hf, List.nil_append]

theorem prompt_map {m : Noted ν α} (h : m.Prompt P) (g : α → β) : (g <$> m).Prompt P := by
  intro f hp hf
  rw [notes_map]
  exact h f hp (fails_map.mp hf)

theorem notes_ofDefect (r : Except Defect α) : (ofDefect r : Noted ν α).notes = [] := by
  cases r <;> rfl

end Noted

namespace Emit

section

variable {P : Fault → Prop} (hP : ∀ m, ¬ P (.misuse m))
include hP

/-- Columns that are written once the key is resolved. -/
theorem prompt_columns {t : Table} (ht : t.Avoids P) {d : Dialect}
    {options : Option Variant} {work : List String → String × Column → Emission α}
    {rest : List String → List α → Emission β}
    (hwork : ∀ key e f, (work key e).Fails f ↔ (columnIn d key options e.1 e.2).Fails f)
    (hrest : ∀ key bs, (rest key bs).Returns) :
    Prompt P (ofDefect t.resolveKey >>= fun key =>
      each (work key) t.columns.entries >>= rest key) := by
  refine prompt_bind (notes_ofDefect _) fun key => prompt_of_failsIn ?_
  refine failsIn_outcome_bind (failsIn_each fun e he f hf => ?_) fun bs =>
    failsIn_of_returns (hrest key bs)
  exact Fault.not_of_avoids hP ht (failsIn_entry he d key options f ((hwork key e f).mp hf))

theorem prompt_createTable {t : Table} (ht : t.Avoids P) (options : Option Variant) :
    Prompt P (Sql.createTable t options) := by
  by_cases h : t.primaryKey = []
  · rw [createTable_of_undeclared h]
    exact prompt_of_notes_eq_nil rfl
  · rw [createTable_of_declared h]
    exact prompt_columns hP ht (fun key e f => fails_columnEntry_iff options key e f)
      fun _ _ => returns_pure _

/-- A table is checked before any loss is noted, in every dialect. -/
theorem prompt_tableWith {t : Table} (ht : t.Avoids P) (d : Dialect)
    (options : Option Variant) (indexes : List Index) (modelName : Option String) :
    Prompt P (tableWith t d options indexes modelName) := by
  by_cases hd : d = .sql
  · subst hd
    rw [tableWith_sql_eq]
    exact prompt_map (prompt_createTable hP ht options) _
  · obtain ⟨work, rest, hwork, hrest, h⟩ := tableWith_eq t hd options indexes modelName
    rw [h]
    exact prompt_columns hP ht hwork hrest

/-- A relationship is checked before any loss is noted. -/
theorem prompt_relationship {r : Relationship} {context : Option Table}
    (hr : r.Avoids context P) (options : Option Variant) :
    Prompt P (relationship r options context) := by
  intro f hp hf
  rcases (fails_relationship_iff r options context f).mp hf with ⟨d, hd, _⟩ | ⟨_, hjunction⟩
  · rw [relationship_of_defect hd]
    rfl
  · exact absurd hp (Fault.not_of_avoids hP hr hjunction.misuse_or_raised)

end

/-! ## Tables and relationships beside a log -/

/-- What a table writes into a log is what it loses without one. -/
theorem emitTable_eq_into (t : Table) (dialect : Value) (options : Option Variant) :
    emitTable t dialect options = Emission.into (do
      let d ← .ofExcept (Dialect.named dialect)
      tableText t d options) :=
  (Emission.intoLog.bind_congr (Emission.intoLog.map_ofExcept _) fun d =>
    Emission.intoLog.map_tableText t d options).symm

theorem emitRelationship_eq_into (r : Relationship) (options : Option Variant)
    (context : Option Table) :
    emitRelationship r options context =
      Emission.into (Linkage.text <$> relationship r options context) := by
  rw [map_eq_pure_bind]
  exact (Emission.intoLog.bind_congr (Emission.intoLog.map_relationship r options context)
    fun l => Emission.intoLog.map_pure _).symm

end Emit

/-- Work that adds the same warnings to the end of every log where it is
done, and whose outcome does not depend on the log, nor on whether there is
one. -/
structure Logged.Adds (run : Logged String) : Prop where
  appended : ∃ warnings : List Diagnostic, (∀ w ∈ warnings, w.isWarning = true) ∧
    ∀ log text, (run log).2 = .ok text → (run log).1 = log.map (· ++ warnings)
  independent : ∀ log, (run log).2 = (run none).2

/-- Work that leaves a log as it is where it fails in some way. -/
def Logged.Spares (P : Fault → Prop) (run : Logged String) : Prop :=
  ∀ log f, P f → (run log).2 = .error f → (run log).1 = log

theorem Emission.into_adds (m : Emission String) : m.into.Adds where
  appended := by
    refine ⟨m.notes.map Loss.diagnostic, fun w hw => ?_, fun _ _ _ => rfl⟩
    obtain ⟨l, -, rfl⟩ := List.mem_map.mp hw
    rfl
  independent _ := rfl

theorem Emission.into_spares {P : Fault → Prop} {m : Emission String} (h : m.Prompt P) :
    m.into.Spares P := by
  intro log f hp hf
  rw [into_of_notes_eq_nil (h f hp hf)]

theorem Emit.spares_emitTable {P : Fault → Prop} (hP : ∀ m, ¬ P (.misuse m)) {t : Table}
    (ht : t.Avoids P) (dialect : Value) (options : Option Variant) :
    (emitTable t dialect options).Spares P := by
  rw [emitTable_eq_into]
  exact Emission.into_spares (prompt_bind rfl fun d => prompt_tableWith hP ht d options [] none)

theorem Emit.spares_emitRelationship {P : Fault → Prop} (hP : ∀ m, ¬ P (.misuse m))
    {r : Relationship} {context : Option Table} (hr : r.Avoids context P)
    (options : Option Variant) : (emitRelationship r options context).Spares P := by
  rw [emitRelationship_eq_into]
  exact Emission.into_spares (prompt_map (prompt_relationship hP hr options) _)

/-- Prices with an amount of money as their key, for which there is a
default out of its domain. -/
def pricesTable : Table :=
  let amount := { Column.plain (.plain (.custom .money)) with default := some (.int (-1)) }
  { Table.ofKey "prices" (.plain .uuid) with columns := Keyed.empty.put "id" amount }

/-- Prices that belong to many orders, each with an amount of money. -/
def Relationship.ofPrices : Relationship :=
  .ofKeys "orders" (.known .manyToMany) "prices" (.named "orders") (some
    ⟨"order_prices", "price_id", "order_id",
      Keyed.empty.put "paid" (.plain (.plain (.custom .money)))⟩)

-- A function of the caller's own that turns down a value with an error of the
-- schema's does so after the default of an earlier column was warned of.
example :
    let strict : CustomKind := { CustomKind.money with
      serializer := some fun v => .error (.mismatch ⟨v, "money", "()"⟩) }
    let paid := { Column.plain (.plain (.custom strict)) with default := some (.int 1) }
    let run := Emit.emitTable { pricesTable with columns := pricesTable.columns.put "paid" paid }
      (.str "sql") none (some [])
    run.1.map (·.map (·.code)) = some ["DEFAULT_OUT_OF_DOMAIN"] ∧
      ∃ m, run.2 = .error (.mismatch m) :=
  ⟨rfl, _, rfl⟩

end Polyschema
