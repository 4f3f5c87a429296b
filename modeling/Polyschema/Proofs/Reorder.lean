/-
Polyschema.Proofs.Reorder — a batch checked in another order.

What is found on a batch is put together from what is found on each
entity, from counts of names and from a graph of names. None of these
depends on the order of the entities, and of the graph the cycles are
found in the order of their names.

* `counted_perm`, `sortedSet_perm` — names counted or put in order.
* `Check.Graph.cycles_perm` — a graph with its edges in another order has
  the same cycles, written in the same order.
* `batch_perm` — a batch in another order has the same findings.
-/
import Polyschema.Proofs.Created
import Polyschema.Proofs.Cycle
import Polyschema.Proofs.ForeignKey

namespace Polyschema

open Polyschema.Text

/-! ## Names -/

/-- Induction on names of which each is struck out of those after it. -/
@[elab_as_elim]
theorem struckInduction {motive : List String → Prop} (nil : motive [])
    (cons : ∀ name rest, motive (rest.filter fun m => !m == name) → motive (name :: rest))
    (names : List String) : motive names := by
  induction hn : names.length using Nat.strongRecOn generalizing names with
  | _ n ih =>
    cases names with
    | nil => exact nil
    | cons name rest =>
      have hle := List.length_filter_le (fun m => !m == name) rest
      have hless : (rest.filter fun m => !m == name).length < n := by
        rw [List.length_cons] at hn
        omega
      exact cons name rest (ih _ hless _ rfl)

theorem nodup_eraseDups (names : List String) : names.eraseDups.Nodup := by
  induction names using struckInduction with
  | nil => exact List.nodup_nil
  | cons name rest ih =>
    rw [List.eraseDups_cons, List.nodup_cons]
    exact ⟨by simp, ih⟩

theorem eraseDups_sublist (names : List String) : names.eraseDups.Sublist names := by
  induction names using struckInduction with
  | nil => exact .slnil
  | cons name rest ih =>
    rw [List.eraseDups_cons]
    exact (ih.trans List.filter_sublist).cons_cons name

/-- Names put in order, each once, ascend. -/
theorem pairwise_sortedSet (names : List String) : (sortedSet names).Pairwise (· < ·) := by
  have hle : (sorted names).Pairwise (· ≤ ·) := List.pairwise_mergeSort' (· ≤ ·) names
  have hne := nodup_eraseDups (sorted names)
  exact (hle.sublist (eraseDups_sublist _)).imp₂ (fun _ _ h h' => lt_of_le_of_ne h h') hne

/-- Names counted in another order. -/
theorem counted_perm {a b : List String} (h : a.Perm b) : (counted a).Perm (counted b) := by
  have hcount : (fun n => (n, a.count n)) = fun n => (n, b.count n) := by
    funext n
    rw [h.count_eq]
  unfold counted
  rw [hcount]
  refine List.Perm.map _ ?_
  rw [List.perm_ext_iff_of_nodup (nodup_eraseDups a) (nodup_eraseDups b)]
  intro n
  rw [List.mem_eraseDups, List.mem_eraseDups]
  exact h.mem_iff

theorem sortedSet_perm {a b : List String} (h : a.Perm b) : sortedSet a = sortedSet b := by
  rw [sortedSet, sorted_eq_iff.mpr h, sortedSet]

/-! ## Cycles -/

namespace Check.Graph

variable {g g' : Graph}

theorem sources_perm (h : g.Perm g') : g.sources = g'.sources :=
  sortedSet_perm (h.map Prod.fst)

theorem targets_perm (h : g.Perm g') (node : String) : g.targets node = g'.targets node :=
  sortedSet_perm ((h.filter _).map Prod.snd)

/-- The search goes the same way whatever the order of the edges: each
step looks only at the targets of a node, in the order of their names. -/
theorem cyclesFrom_perm (h : g.Perm g') (start : String) (depth : Nat) (path : List String) :
    g.cyclesFrom start depth path = g'.cyclesFrom start depth path := by
  induction depth generalizing path with
  | zero => rfl
  | succ depth ih => simp only [cyclesFrom, targets_perm h, ih]

/-- The cycles of a graph and their order do not depend on the order of
its edges. -/
theorem cycles_perm (h : g.Perm g') : g.cycles = g'.cycles := by
  simp only [cycles, sources_perm h, h.length_eq, cyclesFrom_perm h]

end Check.Graph

/-! ## Batches -/

namespace Check

variable {xs ys : List Entity}

theorem tableNames_perm (h : xs.Perm ys) : (tableNames xs).Perm (tableNames ys) :=
  List.Perm.map (fun e : Entity => e.table.name) h

theorem repeatedTables_perm (h : xs.Perm ys) : (repeatedTables xs).Perm (repeatedTables ys) :=
  ((counted_perm (tableNames_perm h)).filter _).map _

/-- A table is outside a batch whatever the order of the batch. -/
theorem outsideTargets_perm {known known' : List String} (h : known.Perm known') :
    outsideTargets known = outsideTargets known' := by
  funext e r
  simp only [outsideTargets, h.contains_eq]

theorem unknownTargets_perm (h : xs.Perm ys) : (unknownTargets xs).Perm (unknownTargets ys) := by
  unfold unknownTargets
  rw [outsideTargets_perm (tableNames_perm h)]
  exact h.flatMap_right _

theorem keyGraph_perm (h : xs.Perm ys) : (keyGraph xs).Perm (keyGraph ys) := h.flatMap_right _

/-- The findings on a batch in another order. -/
theorem findings_perm (h : xs.Perm ys) : (batch xs).Perm (batch ys) := by
  unfold batch
  rw [Graph.cycles_perm (keyGraph_perm h)]
  exact (((h.flatMap_right entity).append (repeatedTables_perm h)).append
    (unknownTargets_perm h)).append (.refl _)

/-- The findings on a batch that tell of cycles are the last ones, in the
order of the cycles. -/
theorem filter_isCycle_batch (es : List Entity) :
    (batch es).filter Finding.isCycle = (keyGraph es).cycles.map .cycle := by
  have hentities : (es.flatMap entity).filter Finding.isCycle = [] := by
    refine List.filter_eq_nil_iff.mpr fun f hf => ?_
    obtain ⟨e, _, hf⟩ := List.mem_flatMap.mp hf
    simp [isCycle_entity hf]
  have htables : (repeatedTables es).filter Finding.isCycle = [] := by
    refine List.filter_eq_nil_iff.mpr fun f hf => ?_
    obtain ⟨p, _, rfl⟩ := List.mem_map.mp hf
    exact Bool.false_ne_true
  have htargets : (unknownTargets es).filter Finding.isCycle = [] := by
    refine List.filter_eq_nil_iff.mpr fun f hf => ?_
    obtain ⟨e, _, hf⟩ := List.mem_flatMap.mp hf
    obtain ⟨r, _, hf⟩ := List.mem_flatMap.mp hf
    obtain ⟨n, _, rfl⟩ := List.mem_map.mp hf
    exact Bool.false_ne_true
  have hcycles : ((keyGraph es).cycles.map Finding.cycle).filter Finding.isCycle =
      (keyGraph es).cycles.map .cycle := by
    refine List.filter_eq_self.mpr fun f hf => ?_
    obtain ⟨path, _, rfl⟩ := List.mem_map.mp hf
    rfl
  simp only [batch, List.filter_append, hentities, htables, htargets, hcycles, List.nil_append]

end Check

/-- A diagnostic of a finding has the code of cycles where the finding
tells of one. -/
theorem filter_code_diagnosticsOf (findings : List Finding) :
    (diagnosticsOf findings).filter (fun d => d.code == "CIRCULAR_FK_DEPENDENCY") =
      diagnosticsOf (findings.filter Finding.isCycle) := by
  have hcode : (fun d : Diagnostic => d.code == "CIRCULAR_FK_DEPENDENCY") ∘
      Finding.diagnostic = Finding.isCycle := by
    funext f
    rw [Bool.eq_iff_iff, ← f.code_eq_cycle_iff]
    exact beq_iff_eq
  rw [diagnosticsOf, List.filter_map, hcode]
  rfl

/-- A batch in another order has the same diagnostics, each as often; its
warnings of cycles come in the same order; and it is valid where the
first was. -/
theorem batch_perm {xs ys : List Entity} (h : xs.Perm ys) :
    (diagnosticsOf (Check.batch xs)).Perm (diagnosticsOf (Check.batch ys)) ∧
    (diagnosticsOf (Check.batch xs)).filter (fun d => d.code == "CIRCULAR_FK_DEPENDENCY") =
      (diagnosticsOf (Check.batch ys)).filter (fun d => d.code == "CIRCULAR_FK_DEPENDENCY") ∧
    Diagnostic.isValid (diagnosticsOf (Check.batch xs)) =
      Diagnostic.isValid (diagnosticsOf (Check.batch ys)) := by
  have hall : (diagnosticsOf (Check.batch xs)).Perm (diagnosticsOf (Check.batch ys)) :=
    (Check.findings_perm h).map Finding.diagnostic
  refine ⟨hall, ?_, ?_⟩
  · rw [filter_code_diagnosticsOf, filter_code_diagnosticsOf, Check.filter_isCycle_batch,
      Check.filter_isCycle_batch, Check.Graph.cycles_perm (Check.keyGraph_perm h)]
  · rw [Bool.eq_iff_iff, isValid_diagnosticsOf, isValid_diagnosticsOf]
    exact ⟨fun hs f hf => hs f ((Check.findings_perm h).mem_iff.mpr hf),
      fun hs f hf => hs f ((Check.findings_perm h).mem_iff.mp hf)⟩

/-- Orders that lead to users and users that lead to orders: the batch is
warned of the cycle, and alike from either end. -/
theorem batch_perm_round :
    let orders := Entity.ofLinks (.ofKey "orders" (.plain .uuid)) [.toOne "orders" "id" "users"]
    let users := Entity.ofLinks (.ofKey "users" (.plain .uuid)) [.toOne "users" "id" "orders"]
    [users, orders].Perm [orders, users] ∧
    (∃ d ∈ Diagnostic.warnings (diagnosticsOf (Check.batch [users, orders])),
      d.code = "CIRCULAR_FK_DEPENDENCY") ∧
    (diagnosticsOf (Check.batch [users, orders])).Perm
      (diagnosticsOf (Check.batch [orders, users])) ∧
    (diagnosticsOf (Check.batch [users, orders])).filter
        (fun d => d.code == "CIRCULAR_FK_DEPENDENCY") =
      (diagnosticsOf (Check.batch [orders, users])).filter
        (fun d => d.code == "CIRCULAR_FK_DEPENDENCY") ∧
    Diagnostic.isValid (diagnosticsOf (Check.batch [users, orders])) =
      Diagnostic.isValid (diagnosticsOf (Check.batch [orders, users])) := by
  intro orders users
  have hswap : [users, orders].Perm [orders, users] := .swap orders users []
  have hthere : KeyLeads [users, orders] "users" "orders" :=
    ⟨users, by simp, _, List.mem_singleton_self _, nofun, rfl, rfl, by decide⟩
  have hback : KeyLeads [users, orders] "orders" "users" :=
    ⟨orders, by simp, _, List.mem_singleton_self _, nofun, rfl, rfl, by decide⟩
  have hround := (exists_cycle_warning_iff [users, orders]).mpr
    ⟨"users", .tail (.single hthere) hback⟩
  obtain ⟨hall, hcycles, hvalid⟩ := batch_perm hswap
  exact ⟨hswap, hround, hall, hcycles, hvalid⟩

end Polyschema
