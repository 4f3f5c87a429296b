/-
Polyschema.Proofs.Plan — what a plan gives out.

* `outputs` — the effects of a plan that are seen outside: what it prints
  and the files that it writes.
* `Alike` — plans that are the same seen from outside; work that is not
  seen may come before and after.
* `delivered`, `plan_outputs` — a plan gives out the results of compiling
  its document and ends well, or it gives out nothing.
-/
import Polyschema.CommandLine.Run
import Polyschema.Proofs.Noted

namespace Polyschema

open Polyschema.Noted

namespace CommandLine

variable {α β : Type} {reader : Reader}

/-! ## Effects that are seen outside -/

/-- Whether an effect prints a text or writes a file. -/
def Effect.isOutput : Effect → Bool
  | .print _ | .write _ _ => true
  | .log _ | .report _ => false

/-- The effects of a plan that are seen outside. -/
def outputs (m : Plan α) : List Effect := m.notes.filter Effect.isOutput

/-- Plans that are the same seen from outside. -/
def Alike (m n : Plan α) : Prop := outputs m = outputs n ∧ m.outcome = n.outcome

theorem Alike.refl (m : Plan α) : Alike m m := ⟨rfl, rfl⟩

theorem Alike.trans {l m n : Plan α} (h : Alike l m) (h' : Alike m n) : Alike l n :=
  ⟨h.1.trans h'.1, h.2.trans h'.2⟩

theorem outputs_bind_ok {m : Plan α} {k : α → Plan β} {a : α} (h : m.outcome = .ok a) :
    outputs (m >>= k) = outputs m ++ outputs (k a) := by
  show (andThen m k).notes.filter _ = _
  rw [andThen, h]
  exact List.filter_append ..

theorem outputs_bind_error {m : Plan α} {k : α → Plan β} {f : Fault} (h : m.Fails f) :
    outputs (m >>= k) = outputs m := by
  show (andThen m k).notes.filter _ = _
  rw [andThen, h]
  rfl

/-- Work that is not seen goes over to what follows. -/
theorem alike_bind_ok {m : Plan α} {k : α → Plan β} {a : α} (hm : outputs m = [])
    (h : m.outcome = .ok a) : Alike (m >>= k) (k a) := by
  refine ⟨?_, ?_⟩
  · rw [outputs_bind_ok h, hm, List.nil_append]
  · rw [outcome_bind, h]
    rfl

theorem alike_bind_error {m : Plan α} {k : α → Plan β} {f : Fault} (hm : outputs m = [])
    (h : m.Fails f) : Alike (m >>= k) (.fail f) := by
  refine ⟨?_, ?_⟩
  · rw [outputs_bind_error h, hm]
    rfl
  · rw [outcome_bind, h]
    rfl

/-- What is not seen may follow. -/
theorem alike_bind_pure {m : Plan α} {k : α → Plan α} (hk : ∀ a, Alike (k a) (pure a)) :
    Alike (m >>= k) m := by
  rcases returns_or_fails m with ⟨a, h⟩ | ⟨f, h⟩
  · refine ⟨?_, ?_⟩
    · rw [outputs_bind_ok h, (hk a).1]
      exact List.append_nil _
    · rw [outcome_bind, h]
      exact (hk a).2
  · refine ⟨outputs_bind_error h, ?_⟩
    rw [outcome_bind, h]
    rfl

/-! ## Plans -/

theorem outputs_ofEvents (m : Noted Event α) : outputs (Plan.ofEvents m) = [] := by
  refine List.filter_eq_nil_iff.mpr fun x hx => ?_
  obtain ⟨e, _, hx⟩ := List.mem_flatMap.mp hx
  obtain rfl := List.mem_singleton.mp hx
  simp [Effect.isOutput]

theorem outputs_noteWhen_report (b : Bool) (text : String) :
    outputs (noteWhen b (.report text)) = [] := by
  cases b <;> rfl

theorem outcome_noteWhen (b : Bool) (e : Effect) : (noteWhen b e).outcome = .ok () := by
  cases b <;> rfl

/-- A document is loaded unseen, or it is not loaded. -/
theorem load_cases (p : Path) (found : FileStatus) :
    outputs (load reader p found) = [] ∧
    ((∃ f, (load reader p found).Fails f) ∨ (load reader p found).outcome = .ok none ∨
      ∃ es own, (Document.load reader p.text p.extension found).outcome = .ok (es, own) ∧
        (load reader p found).outcome = .ok (some (es, own))) := by
  have hread := outputs_ofEvents (Document.load reader p.text p.extension found)
  have hsame : (Plan.ofEvents (Document.load reader p.text p.extension found)).outcome =
    (Document.load reader p.text p.extension found).outcome := rfl
  unfold load
  rw [← hsame]
  generalize Plan.ofEvents (Document.load reader p.text p.extension found) = work at hread ⊢
  obtain ⟨notes, outcome⟩ := work
  cases outcome with
  | ok loaded => exact ⟨hread, .inr (.inr ⟨loaded.1, loaded.2, rfl, rfl⟩)⟩
  | error f =>
    dsimp only
    split
    · refine ⟨?_, .inr (.inl rfl)⟩
      show (notes ++ _).filter _ = []
      rw [List.filter_append, show notes.filter Effect.isOutput = [] from hread]
      rfl
    · exact ⟨hread, .inl ⟨f, rfl⟩⟩

/-- A plan compiles the document and gives out the result, or it ends in
another way and gives out nothing. -/
theorem compilePlan_cases (o : Options) (home : List String) (now : Calendar.Timestamp)
    (p : Path) (found : FileStatus) :
    (∃ ending, ending ≠ .ok .success ∧
      Alike (compilePlan reader o home now p found) ⟨[], ending⟩) ∨
    ∃ es own r, (Document.load reader p.text p.extension found).outcome = .ok (es, own) ∧
      (compileBatch (o.configured own) es o.versionTag now).outcome = .ok r ∧
      r.success = true ∧
      Alike (compilePlan reader o home now p found)
        (deliverAll o home es (o.configured own) r >>= fun _ => pure .success) := by
  obtain ⟨hquiet, ⟨f, hf⟩ | hnone | ⟨es, own, hload, hsome⟩⟩ := load_cases p found
  · exact .inl ⟨.error f, nofun, alike_bind_error hquiet hf⟩
  · exact .inl ⟨.ok .noInput, nofun, alike_bind_ok hquiet hnone⟩
  · have hloaded : Alike (compilePlan reader o home now p found) (do
        let r ← Plan.ofEvents (compileBatch (o.configured own) es o.versionTag now)
        Noted.noteWhen (!o.quiet) (.report (r.summary ++ "\n"))
        if !r.errors.isEmpty then pure .invalid
        else if !r.success then pure .notCompiled
        else do
          deliverAll o home es (o.configured own) r
          pure .success) := alike_bind_ok hquiet hsome
    cases hr : (compileBatch (o.configured own) es o.versionTag now).outcome with
    | error f =>
      exact .inl ⟨.error f, nofun, hloaded.trans (alike_bind_error (outputs_ofEvents _) hr)⟩
    | ok r =>
      have hreported := hloaded.trans ((alike_bind_ok (outputs_ofEvents _) hr).trans
        (alike_bind_ok (outputs_noteWhen_report _ _) (outcome_noteWhen _ _)))
      cases he : r.errors.isEmpty with
      | false =>
        rw [he] at hreported
        exact .inl ⟨.ok .invalid, nofun, hreported⟩
      | true =>
        cases hs : r.success with
        | false =>
          rw [he, hs] at hreported
          exact .inl ⟨.ok .notCompiled, nofun, hreported⟩
        | true =>
          rw [he, hs] at hreported
          exact .inr ⟨es, own, r, hload, hr, hs, hreported⟩

/-- The plan of a run on a text looks at it or compiles it. -/
theorem plan_file (reader : Reader) (o : Options) (home : List String)
    (now : Calendar.Timestamp) (p : Path) (text : String) :
    Alike (plan reader o home now p (.file text))
      (if o.validateOnly then checkPlan reader o p (.file text)
      else compilePlan reader o home now p (.file text)) := by
  unfold plan
  dsimp only
  by_cases hmode : o.validateOnly = true
  · rw [if_pos hmode, if_pos hmode]
    exact Alike.refl _
  · rw [if_neg hmode, if_neg hmode]
    exact (alike_bind_ok rfl rfl).trans <| (alike_bind_ok rfl rfl).trans <|
      (alike_bind_ok rfl rfl).trans <| alike_bind_pure fun ending => ⟨rfl, rfl⟩

/-- The plan of a run that compiles is that of its compilation. -/
theorem plan_cases {o : Options} (hmode : o.validateOnly = false) (home : List String)
    (now : Calendar.Timestamp) (p : Path) (found : FileStatus) :
    Alike (plan reader o home now p found) (pure .noInput) ∨
      Alike (plan reader o home now p found) (compilePlan reader o home now p found) := by
  cases found with
  | absent => exact .inl ⟨rfl, rfl⟩
  | folder => exact .inl ⟨rfl, rfl⟩
  | file text =>
    have hfile := plan_file reader o home now p text
    rw [hmode] at hfile
    exact .inr hfile

/-! ## What is given out -/

/-- A result as an effect. -/
def delivery (home : List String) (output : Option Path) (text : String) : Effect :=
  match output with
  | none => .print text
  | some p => .write (p.resolved home) text

theorem deliver_spec (home : List String) (output : Option Path) (text : String) :
    outputs (deliver home output text) = [delivery home output text] ∧
      (deliver home output text).outcome = .ok () := by
  cases output <;> exact ⟨rfl, rfl⟩

/-- The results of a compilation as effects. -/
def delivered (o : Options) (home : List String) (es : List Entity) (c : Config)
    (r : Report) : List Effect :=
  let output := o.output.map Path.ofText
  match if o.migration then r.batch else none with
  | some b => delivery home output b.upScript ::
      (output.bind fun p => p.withExtension? (".down" ++ p.extension)).toList.map fun q =>
        .write (q.resolved home) b.downScript
  | none => [delivery home output (schemaFile r es o.target c.variant)]

theorem undoPath_ok {p : Path} (h : p.names ≠ []) :
    ∃ q, p.withExtension? (".down" ++ p.extension) = some q ∧ undoPath p = pure q := by
  have hne : p.names.isEmpty = false := by simpa using h
  unfold undoPath Path.withExtension?
  rw [hne]
  exact ⟨_, rfl, rfl⟩

theorem deliverAll_spec {o : Options}
    (hfile : ∀ name, o.output = some name → (Path.ofText name).names ≠ [])
    (home : List String) (es : List Entity) (c : Config) (r : Report) :
    outputs (deliverAll o home es c r) = delivered o home es c r ∧
      (deliverAll o home es c r).outcome = .ok () := by
  unfold deliverAll delivered
  dsimp only
  cases (if o.migration then r.batch else none) with
  | none => exact deliver_spec home (o.output.map Path.ofText) _
  | some b =>
    obtain ⟨hup, hdone⟩ := deliver_spec home (o.output.map Path.ofText) b.upScript
    dsimp only
    rw [outputs_bind_ok hdone, outcome_bind, hdone, hup]
    cases ho : o.output with
    | none => exact ⟨rfl, rfl⟩
    | some name =>
      obtain ⟨q, hq, hundo⟩ := undoPath_ok (hfile name ho)
      simp only [Option.map_some, Option.bind_some, hq, hundo]
      exact ⟨rfl, rfl⟩

/-- A plan ends well and gives out the results of compiling its document,
or it gives out nothing. -/
theorem plan_outputs {o : Options} (hmode : o.validateOnly = false)
    (hfile : ∀ name, o.output = some name → (Path.ofText name).names ≠ [])
    (home : List String) (now : Calendar.Timestamp) (p : Path) (found : FileStatus) :
    (outputs (plan reader o home now p found) = [] ∧
      (plan reader o home now p found).outcome ≠ .ok .success) ∨
    ∃ es own r, (Document.load reader p.text p.extension found).outcome = .ok (es, own) ∧
      (compileBatch (o.configured own) es o.versionTag now).outcome = .ok r ∧
      r.success = true ∧
      outputs (plan reader o home now p found) = delivered o home es (o.configured own) r ∧
      (plan reader o home now p found).outcome = .ok .success := by
  rcases plan_cases hmode home now p found with ⟨hout, hend⟩ | hplan
  · exact .inl ⟨hout, by rw [hend]; nofun⟩
  rcases compilePlan_cases o home now p found with
    ⟨ending, hne, hnothing⟩ | ⟨es, own, r, hload, hr, hs, hcompiled⟩
  · obtain ⟨hout, hend⟩ := hplan.trans hnothing
    exact .inl ⟨hout, by rwa [hend]⟩
  · obtain ⟨hout, hend⟩ := hplan.trans hcompiled
    obtain ⟨hall, hdone⟩ := deliverAll_spec hfile home es (o.configured own) r
    refine .inr ⟨es, own, r, hload, hr, hs, ?_, ?_⟩
    · rw [hout, outputs_bind_ok hdone, hall]
      exact List.append_nil _
    · rw [hend, outcome_bind, hdone]
      rfl

end CommandLine

end Polyschema
