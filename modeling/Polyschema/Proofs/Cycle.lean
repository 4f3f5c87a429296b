/-
Polyschema.Proofs.Cycle — the cycles that are written of a graph, against
its simple cycles.

* `Graph.IsSimpleCycle` — nodes in a round, none twice, with an edge from
  each to the next.
* `Graph.Path.yields` — the search from a node ends by itself: its paths
  have no node twice, so its depth is never reached.
* `Graph.mem_cyclesFrom_iff` — it finds exactly the simple cycles whose
  smallest node it starts from.
* `exists_cycle_warning_iff` — a batch is warned of a cycle exactly where
  foreign keys lead from a table back to it.
* `cycles_represent_simple_cycles` — the cycles that are written stand for
  the simple cycles, one for each set of nodes.
-/
import Mathlib.Data.Finset.Max
import Mathlib.Data.List.Cycle
import Mathlib.Data.List.Sort
import Mathlib.Data.String.Basic
import Polyschema.Check.Batch
import Polyschema.Proofs.Check

namespace Polyschema

open Polyschema.Text

/-! ## Names in order -/

theorem mem_sortedSet {names : List String} {n : String} : n ∈ sortedSet names ↔ n ∈ names := by
  simp [sortedSet, sorted]

theorem sorted_eq_iff {a b : List String} : sorted a = sorted b ↔ a.Perm b := by
  have hsorted (l : List String) : (sorted l).Pairwise (· ≤ ·) :=
    List.pairwise_mergeSort' (· ≤ ·) l
  have hperm (l : List String) : (sorted l).Perm l := List.mergeSort_perm l _
  constructor
  · intro h
    exact (hperm a).symm.trans (h ▸ hperm b)
  · intro h
    exact (((hperm a).trans h).trans (hperm b).symm).eq_of_pairwise' (hsorted a) (hsorted b)

namespace Check.Graph

variable {g : Graph} {start : String}

/-! ## Cycles -/

/-- There is an edge from one node to another. -/
def Edge (g : Graph) (a b : String) : Prop := (a, b) ∈ g

/-- Nodes, none twice, with an edge from each to the next and from the
last to the first. -/
structure IsSimpleCycle (g : Graph) (c : Cycle String) : Prop where
  ne_nil : c ≠ .nil
  nodup : c.Nodup
  chain : c.Chain g.Edge

theorem mem_sources {n : String} : n ∈ g.sources ↔ ∃ m, g.Edge n m := by
  simp [sources, mem_sortedSet, Edge]

theorem mem_targets {n m : String} : m ∈ g.targets n ↔ g.Edge n m := by
  simp [targets, mem_sortedSet, Edge]

/-- Different nodes that edges leave are no more than the edges. -/
theorem length_le_of_leaving {nodes : List String} (hnodup : nodes.Nodup)
    (h : ∀ n ∈ nodes, ∃ m, g.Edge n m) : nodes.length ≤ g.length := by
  have hsub : nodes ⊆ g.map Prod.fst := by
    intro n hn
    obtain ⟨m, hm⟩ := h n hn
    exact List.mem_map_of_mem hm
  simpa using (List.subperm_of_subset hnodup hsub).length_le

/-! ## The search -/

/-- The paths that the search meets, from their last node back to
`start`. -/
inductive Path (g : Graph) (start : String) : List String → Prop
  | here : Path g start [start]
  | step {node next : String} {path : List String} : Path g start (node :: path) →
      g.Edge node next → next ∉ node :: path → start < next →
      Path g start (next :: node :: path)

theorem Path.nodup {path : List String} (h : Path g start path) : path.Nodup := by
  induction h with
  | here => exact List.nodup_singleton start
  | step _ _ hnew _ ih => exact List.nodup_cons.mpr ⟨hnew, ih⟩

/-- An edge leaves every node of a path but its last. -/
theorem Path.leaving {path : List String} (h : Path g start path) :
    ∀ n ∈ path.tail, ∃ m, g.Edge n m := by
  induction h with
  | here => simp
  | @step node next path _ hedge _ _ ih =>
    intro n hn
    rcases List.mem_cons.mp hn with rfl | hn
    · exact ⟨next, hedge⟩
    · exact ih n hn

/-- The length of a path is bounded by the number of edges. -/
theorem Path.length_le {path : List String} (h : Path g start path) :
    path.length ≤ g.length + 1 := by
  have htail := length_le_of_leaving (h.nodup.sublist (List.tail_sublist path)) h.leaving
  rw [List.length_tail] at htail
  omega

/-- A path read from its start. -/
theorem Path.reverse_eq {path : List String} (h : Path g start path) :
    ∃ rest, path.reverse = start :: rest ∧ ∀ n ∈ rest, start < n := by
  induction h with
  | here => exact ⟨[], rfl, by simp⟩
  | @step node next path _ _ _ hlt ih =>
    obtain ⟨rest, heq, hrest⟩ := ih
    refine ⟨rest ++ [next], by rw [List.reverse_cons, heq, List.cons_append], ?_⟩
    intro n hn
    rcases List.mem_append.mp hn with hn | hn
    · exact hrest n hn
    · rw [List.mem_singleton.mp hn]
      exact hlt

theorem Path.isChain {path : List String} (h : Path g start path) :
    path.reverse.IsChain g.Edge := by
  induction h with
  | here => exact List.isChain_singleton start
  | @step node next path _ hedge _ _ ih =>
    rw [List.reverse_cons, List.isChain_append]
    refine ⟨ih, List.isChain_singleton next, ?_⟩
    intro a ha b hb
    simp at ha hb
    rw [← ha, ← hb]
    exact hedge

/-- One step of the search. -/
theorem cyclesFrom_succ (g : Graph) (start : String) (depth : Nat) (node : String)
    (path : List String) :
    g.cyclesFrom start (depth + 1) (node :: path) =
      (g.targets node).flatMap fun next =>
        if next = start then [(next :: node :: path).reverse]
        else if !(node :: path).contains next && start < next then
          g.cyclesFrom start depth (next :: node :: path)
        else [] := rfl

/-- The search from a path, with no bound on its depth, comes to an end
and has found these cycles. -/
inductive Yields (g : Graph) (start : String) : List String → List (List String) → Prop
  | intro {node : String} {path : List String} (found : String → List (List String)) :
      (∀ next, g.Edge node next → next ∉ node :: path → start < next →
        Yields g start (next :: node :: path) (found next)) →
      Yields g start (node :: path) ((g.targets node).flatMap fun next =>
        if next = start then [(next :: node :: path).reverse]
        else if !(node :: path).contains next && start < next then found next
        else [])

/-- A depth that leaves room for all edges is never reached. -/
theorem Path.yields {path : List String} (h : Path g start path) {depth : Nat}
    (hdepth : g.length + 1 < depth + path.length) :
    g.Yields start path (g.cyclesFrom start depth path) := by
  induction depth generalizing path with
  | zero =>
    have := h.length_le
    omega
  | succ depth ih =>
    cases path with
    | nil => cases h
    | cons node path =>
      rw [cyclesFrom_succ]
      refine .intro (fun next => g.cyclesFrom start depth (next :: node :: path)) ?_
      intro next hedge hnew hlt
      refine ih (h.step hedge hnew hlt) ?_
      rw [List.length_cons]
      omega

/-- A cycle as it is written: from its smallest node through the others. -/
structure IsRound (g : Graph) (start : String) (rest : List String) : Prop where
  cycle : g.IsSimpleCycle ↑(start :: rest)
  least : ∀ n ∈ rest, start < n

/-- The search finds nothing but cycles, each from its smallest node. -/
theorem cyclesFrom_sound {path : List String} (h : Path g start path) {d : Nat}
    {found : List String} (hfound : found ∈ g.cyclesFrom start d path) :
    ∃ rest, found = start :: rest ++ [start] ∧ g.IsRound start rest := by
  induction d generalizing path with
  | zero => cases hfound
  | succ d ih =>
    cases path with
    | nil => cases h
    | cons node path =>
      rw [cyclesFrom_succ, List.mem_flatMap] at hfound
      obtain ⟨next, hnext, hfound⟩ := hfound
      have hedge := mem_targets.mp hnext
      split at hfound
      next hback =>
        subst hback
        obtain ⟨rest, hrest, hleast⟩ := h.reverse_eq
        have hchain := h.isChain
        have hnodup := List.nodup_reverse.mpr h.nodup
        rw [hrest] at hchain hnodup
        refine ⟨rest, ?_, ⟨by simp, hnodup, ?_⟩, hleast⟩
        · rw [List.mem_singleton.mp hfound, List.reverse_cons, hrest]
        · rw [Cycle.chain_coe_cons, ← List.cons_append, ← hrest, List.isChain_append]
          refine ⟨h.isChain, List.isChain_singleton next, ?_⟩
          intro a ha b hb
          simp at ha hb
          rw [← ha, ← hb]
          exact hedge
      · split at hfound
        next hgo =>
          simp only [Bool.and_eq_true, Bool.not_eq_true', decide_eq_true_eq] at hgo
          have hnew : next ∉ node :: path := by
            intro hmem
            rw [List.contains_iff_mem.mpr hmem] at hgo
            cases hgo.1
          exact ih (h.step hedge hnew hgo.2) hfound
        · cases hfound

/-- From a path the search finds each way back over further nodes that
are greater than the start. -/
theorem mem_cyclesFrom {more : List String} {node : String} {path : List String} {d : Nat}
    (hchain : (node :: more ++ [start]).IsChain g.Edge)
    (hnodup : (path.reverse ++ node :: more).Nodup) (hleast : ∀ n ∈ more, start < n)
    (hd : more.length < d) :
    (node :: path).reverse ++ more ++ [start] ∈ g.cyclesFrom start d (node :: path) := by
  induction more generalizing node path d with
  | nil =>
    obtain ⟨d, rfl⟩ : ∃ k, d = k + 1 := ⟨d - 1, by simp at hd; omega⟩
    rw [cyclesFrom_succ, List.mem_flatMap]
    refine ⟨start, mem_targets.mpr (List.isChain_pair.mp hchain), ?_⟩
    rw [if_pos rfl]
    simp
  | cons next more ih =>
    obtain ⟨d, rfl⟩ : ∃ k, d = k + 1 := ⟨d - 1, by simp at hd; omega⟩
    have hedge : g.Edge node next := (List.isChain_cons_cons.mp hchain).1
    have hlt : start < next := hleast next List.mem_cons_self
    have hnew : next ∉ node :: path := by
      intro hmem
      rw [List.nodup_append] at hnodup
      rcases List.mem_cons.mp hmem with rfl | hmem
      · simp at hnodup
      · exact hnodup.2.2 next (List.mem_reverse.mpr hmem) next (by simp) rfl
    rw [cyclesFrom_succ, List.mem_flatMap]
    refine ⟨next, mem_targets.mpr hedge, ?_⟩
    rw [if_neg (ne_of_gt hlt), if_pos (by simpa [hlt] using hnew)]
    have hfurther : ((node :: path).reverse ++ next :: more).Nodup := by simpa using hnodup
    have hfound := ih (List.isChain_cons_cons.mp hchain).2 hfurther
      (fun n hn => hleast n (List.mem_cons_of_mem next hn)) (d := d) (by simpa using hd)
    simpa using hfound

theorem exists_edge_of_isChain {nodes : List String} {last : String}
    (h : (nodes ++ [last]).IsChain g.Edge) : ∀ n ∈ nodes, ∃ m, g.Edge n m := by
  induction nodes with
  | nil => simp
  | cons a nodes ih =>
    intro n hn
    rcases List.mem_cons.mp hn with rfl | hn
    · cases nodes with
      | nil => exact ⟨last, List.isChain_pair.mp h⟩
      | cons b nodes => exact ⟨b, (List.isChain_cons_cons.mp h).1⟩
    · exact ih h.tail n hn

/-- The search from a node finds exactly the cycles whose smallest node
it is. -/
theorem mem_cyclesFrom_iff {found : List String} :
    found ∈ g.cyclesFrom start (g.length + 1) [start] ↔
      ∃ rest, found = start :: rest ++ [start] ∧ g.IsRound start rest := by
  constructor
  · exact cyclesFrom_sound .here
  · rintro ⟨rest, rfl, hround⟩
    have hchain := (Cycle.chain_coe_cons _ _ _).mp hround.cycle.chain
    have hnodup := Cycle.nodup_coe_iff.mp hround.cycle.nodup
    have hlength := length_le_of_leaving (List.nodup_cons.mp hnodup).2 fun n hn =>
      exists_edge_of_isChain hchain n (List.mem_cons_of_mem start hn)
    have hfirst : (([] : List String).reverse ++ start :: rest).Nodup := hnodup
    simpa using mem_cyclesFrom hchain hfirst hround.least (Nat.lt_succ_of_le hlength)

/-! ## One cycle for each set of nodes -/

/-- The nodes of a cycle that is written back to its start. -/
def nodesOf (path : List String) : List String := sorted path.dropLast

theorem distinctByNodes_cons (seen : List (List String)) (path : List String)
    (rest : List (List String)) :
    distinctByNodes seen (path :: rest) =
      if nodesOf path ∈ seen then distinctByNodes seen rest
      else path :: distinctByNodes (nodesOf path :: seen) rest := by
  by_cases h : nodesOf path ∈ seen
  · simp [distinctByNodes, nodesOf, show sorted path.dropLast ∈ seen from h]
  · simp [distinctByNodes, nodesOf, show sorted path.dropLast ∉ seen from h]

/-- What is kept was given, and its nodes were not seen before. -/
theorem of_mem_distinctByNodes {seen paths : List (List String)} {path : List String}
    (h : path ∈ distinctByNodes seen paths) : path ∈ paths ∧ nodesOf path ∉ seen := by
  induction paths generalizing seen with
  | nil => cases h
  | cons first rest ih =>
    rw [distinctByNodes_cons] at h
    split at h
    · obtain ⟨hmem, hnew⟩ := ih h
      exact ⟨List.mem_cons_of_mem first hmem, hnew⟩
    next hnew =>
      rcases List.mem_cons.mp h with rfl | h
      · exact ⟨List.mem_cons_self, hnew⟩
      · obtain ⟨hmem, hnew⟩ := ih h
        exact ⟨List.mem_cons_of_mem first hmem, fun hs => hnew (List.mem_cons_of_mem _ hs)⟩

theorem distinctByNodes_pairwise (seen paths : List (List String)) :
    (distinctByNodes seen paths).Pairwise fun p q => nodesOf p ≠ nodesOf q := by
  induction paths generalizing seen with
  | nil => exact .nil
  | cons first rest ih =>
    rw [distinctByNodes_cons]
    split
    · exact ih seen
    · refine List.pairwise_cons.mpr ⟨?_, ih _⟩
      intro path hpath heq
      exact (of_mem_distinctByNodes hpath).2 (heq ▸ List.mem_cons_self)

/-- Nodes that were given are seen before or kept. -/
theorem exists_mem_distinctByNodes {seen paths : List (List String)} {path : List String}
    (h : path ∈ paths) (hnew : nodesOf path ∉ seen) :
    ∃ kept ∈ distinctByNodes seen paths, nodesOf kept = nodesOf path := by
  induction paths generalizing seen with
  | nil => cases h
  | cons first rest ih =>
    rw [distinctByNodes_cons]
    by_cases hfirst : nodesOf path = nodesOf first
    · rw [if_neg (hfirst ▸ hnew)]
      exact ⟨first, List.mem_cons_self, hfirst.symm⟩
    · have hrest : path ∈ rest := by
        rcases List.mem_cons.mp h with rfl | h
        · exact absurd rfl hfirst
        · exact h
      split
      · exact ih hrest hnew
      · have hnew' : nodesOf path ∉ nodesOf first :: seen := by
          simpa [hfirst] using hnew
        obtain ⟨kept, hkept, heq⟩ := ih hrest hnew'
        exact ⟨kept, List.mem_cons_of_mem first hkept, heq⟩

/-- Two written cycles have the same nodes where they have the same
members. -/
theorem nodesOf_eq_iff {start start' : String} {rest rest' : List String}
    (h : g.IsRound start rest) (h' : g.IsRound start' rest') :
    nodesOf (start :: rest ++ [start]) = nodesOf (start' :: rest' ++ [start']) ↔
      ∀ n, n ∈ start :: rest ↔ n ∈ start' :: rest' := by
  rw [nodesOf, nodesOf, List.dropLast_concat, List.dropLast_concat, sorted_eq_iff]
  exact List.perm_ext_iff_of_nodup (Cycle.nodup_coe_iff.mp h.cycle.nodup)
    (Cycle.nodup_coe_iff.mp h'.cycle.nodup)

/-- Every simple cycle can be written from its smallest node. -/
theorem IsSimpleCycle.exists_isRound {c : Cycle String} (h : g.IsSimpleCycle c) :
    ∃ start rest, c = ↑(start :: rest) ∧ g.IsRound start rest := by
  induction c using Quotient.inductionOn with
  | h nodes =>
    have hne : nodes ≠ [] := by
      rintro rfl
      exact h.ne_nil rfl
    obtain ⟨least, hleast, hmin⟩ :=
      nodes.toFinset.exists_min_image id (List.toFinset_nonempty_iff nodes |>.mpr hne)
    obtain ⟨before, after, hsplit⟩ := List.append_of_mem (List.mem_toFinset.mp hleast)
    have hrotated : (nodes : Cycle String) = ↑(least :: (after ++ before)) := by
      rw [Cycle.coe_eq_coe, hsplit, ← List.cons_append]
      exact List.isRotated_append
    refine ⟨least, after ++ before, hrotated, hrotated ▸ h, ?_⟩
    have hnodup : (least :: (after ++ before)).Nodup :=
      Cycle.nodup_coe_iff.mp (hrotated ▸ h.nodup)
    intro n hn
    have hmem : n ∈ nodes.toFinset := by
      simp only [hsplit, List.mem_toFinset, List.mem_append, List.mem_cons] at hn ⊢
      tauto
    refine lt_of_le_of_ne (hmin n hmem) ?_
    rintro rfl
    exact (List.nodup_cons.mp hnodup).1 hn

theorem mem_cycles_sound {path : List String} (h : path ∈ g.cycles) :
    ∃ start rest, path = start :: rest ++ [start] ∧ g.IsRound start rest := by
  have hpath := (of_mem_distinctByNodes h).1
  obtain ⟨start, _, hfound⟩ := List.mem_flatMap.mp hpath
  exact ⟨start, mem_cyclesFrom_iff.mp hfound⟩

/-- For every simple cycle one is written that has the same nodes. -/
theorem IsSimpleCycle.exists_mem_cycles {c : Cycle String} (h : g.IsSimpleCycle c) :
    ∃ path ∈ g.cycles, ∀ n, n ∈ path ↔ n ∈ c := by
  obtain ⟨start, rest, rfl, hround⟩ := h.exists_isRound
  have hfound : start :: rest ++ [start] ∈ g.sources.flatMap fun s =>
      g.cyclesFrom s (g.length + 1) [s] := by
    have hchain := (Cycle.chain_coe_cons _ _ _).mp hround.cycle.chain
    refine List.mem_flatMap.mpr ⟨start, ?_, mem_cyclesFrom_iff.mpr ⟨rest, rfl, hround⟩⟩
    exact mem_sources.mpr (exists_edge_of_isChain hchain start List.mem_cons_self)
  obtain ⟨kept, hkept, heq⟩ := exists_mem_distinctByNodes hfound List.not_mem_nil
  obtain ⟨start', rest', rfl, hround'⟩ := mem_cycles_sound hkept
  refine ⟨_, hkept, fun n => ?_⟩
  have hn := (nodesOf_eq_iff hround' hround).mp heq n
  simp at hn ⊢
  tauto

/-- No two cycles are written with the same nodes. -/
theorem cycles_pairwise (g : Graph) :
    g.cycles.Pairwise fun p q => ¬ ∀ n, n ∈ p ↔ n ∈ q := by
  refine (distinctByNodes_pairwise [] _).imp_of_mem ?_
  intro p q hp hq hne hsame
  obtain ⟨start, rest, rfl, hround⟩ := mem_cycles_sound hp
  obtain ⟨start', rest', rfl, hround'⟩ := mem_cycles_sound hq
  refine hne ((nodesOf_eq_iff hround hround').mpr fun n => ?_)
  have hn := hsame n
  simp at hn ⊢
  tauto

/-! ## Closed ways -/

/-- A way from one node to another can be made without meeting a node
twice. -/
theorem exists_nodup_chain {a b : String} (h : Relation.ReflTransGen g.Edge a b) :
    ∃ nodes, (a :: nodes).IsChain g.Edge ∧ (a :: nodes).Nodup ∧
      b ∈ (a :: nodes).getLast? := by
  induction h using Relation.ReflTransGen.head_induction_on with
  | refl => exact ⟨[], List.isChain_singleton b, List.nodup_singleton b, rfl⟩
  | @head a c hedge _ ih =>
    obtain ⟨nodes, hchain, hnodup, hlast⟩ := ih
    by_cases ha : a ∈ c :: nodes
    · -- the way goes on from where it comes back to `a`
      obtain ⟨before, after, hsplit⟩ := List.append_of_mem ha
      rw [hsplit] at hchain hnodup hlast
      refine ⟨after, hchain.right_of_append, (List.nodup_append.mp hnodup).2.1, ?_⟩
      rwa [List.getLast?_append_of_ne_nil _ (List.cons_ne_nil _ _)] at hlast
    · exact ⟨c :: nodes, hchain.cons_cons hedge, List.nodup_cons.mpr ⟨ha, hnodup⟩,
        by rwa [List.getLast?_cons_cons]⟩

/-- There is a simple cycle exactly where a way leads from a node back to
it. -/
theorem exists_isSimpleCycle_iff :
    (∃ c, g.IsSimpleCycle c) ↔ ∃ n, Relation.TransGen g.Edge n n := by
  constructor
  · rintro ⟨c, h⟩
    obtain ⟨start, rest, rfl, hround⟩ := h.exists_isRound
    have hchain := (Cycle.chain_coe_cons _ _ _).mp hround.cycle.chain
    refine ⟨start, ?_⟩
    cases rest with
    | nil => exact .single (List.isChain_pair.mp hchain)
    | cons next rest =>
      obtain ⟨hedge, hchain⟩ := List.isChain_cons_cons.mp hchain
      refine .head' hedge ?_
      exact List.relationReflTransGen_of_exists_isChain_cons _ hchain (by simp)
  · rintro ⟨n, h⟩
    obtain ⟨m, hedge, hway⟩ := Relation.TransGen.head'_iff.mp h
    obtain ⟨nodes, hchain, hnodup, hlast⟩ := exists_nodup_chain hway
    refine ⟨↑(m :: nodes), by simp, hnodup, ?_⟩
    rw [Cycle.chain_coe_cons, ← List.cons_append, List.isChain_append]
    refine ⟨hchain, List.isChain_singleton m, ?_⟩
    intro a ha b hb
    obtain rfl := Option.mem_unique ha hlast
    obtain rfl := Option.mem_unique hb (Option.mem_some_self m)
    exact hedge

end Check.Graph

/-! ## Foreign keys between tables -/

/-- A relationship that is not many-to-many leads from one table to
another. -/
def KeyLeads (es : List Entity) (a b : String) : Prop :=
  ∃ e ∈ es, ∃ r ∈ e.relationships, r.relation ≠ .known .manyToMany ∧
    r.localSide.name = a ∧ r.foreignSide.name = b ∧ a ≠ b

theorem edge_keyGraph {es : List Entity} {a b : String} :
    (Check.keyGraph es).Edge a b ↔ KeyLeads es a b := by
  have hedge (r : Relationship) : Check.edge? r = some (a, b) ↔
      r.relation ≠ .known .manyToMany ∧ r.localSide.name = a ∧ r.foreignSide.name = b ∧
        a ≠ b := by
    unfold Check.edge?
    split
    next h =>
      refine ⟨nofun, fun ⟨hm, ha, hb, hne⟩ => ?_⟩
      exact absurd (ha.symm.trans ((h.resolve_left hm).trans hb)) hne
    next h =>
      rw [not_or] at h
      simp only [Option.some.injEq, Prod.mk.injEq]
      constructor
      · rintro ⟨rfl, rfl⟩
        exact ⟨h.1, rfl, rfl, h.2⟩
      · exact fun ⟨_, ha, hb, _⟩ => ⟨ha, hb⟩
  simp only [Check.keyGraph, Check.Graph.Edge, List.mem_flatMap, List.mem_filterMap, hedge,
    KeyLeads]

/-- Whether a finding tells of a cycle. -/
def Finding.isCycle : Finding → Bool
  | cycle _ => true
  | _ => false

theorem Finding.code_eq_cycle_iff (f : Finding) :
    f.code = "CIRCULAR_FK_DEPENDENCY" ↔ f.isCycle = true := by
  cases f <;> simp [Finding.code, Finding.isCycle]

theorem Check.isCycle_index {e : Entity} {i : Index} {f : Finding} (h : f ∈ Check.index e i) :
    f.isCycle = false := by
  unfold Check.index at h
  split at h
  · rw [List.mem_singleton.mp h]; rfl
  · obtain ⟨n, _, rfl⟩ := List.mem_map.mp h; rfl

theorem Check.isCycle_relationship {e : Entity} {r : Relationship} {f : Finding}
    (h : f ∈ Check.relationship e r) : f.isCycle = false := by
  have hreference {side : String} {t : Option Table} {column : String}
      (h : f ∈ Check.reference r.name side t column) : f.isCycle = false := by
    unfold Check.reference at h
    grind [Finding.isCycle]
  have hjunction {j : Option Junction} (h : f ∈ Check.junction e.id r.name j) :
      f.isCycle = false := by
    unfold Check.junction at h
    grind [Finding.isCycle]
  unfold Check.relationship at h
  split at h
  · rw [List.mem_singleton.mp h]; rfl
  · simp only [List.mem_append, List.mem_ite_nil_right] at h
    obtain (h | h) | ⟨_, h⟩ := h
    · exact hreference h
    · exact hreference h
    · exact hjunction h

/-- No finding on a single entity tells of a cycle. -/
theorem Check.isCycle_entity {e : Entity} {f : Finding} (h : f ∈ Check.entity e) :
    f.isCycle = false := by
  simp only [Check.entity, Check.indexes, List.mem_append] at h
  obtain (((h | h) | h) | h | h) | h := h
  · unfold Check.tableName at h
    grind [Finding.isCycle]
  · obtain ⟨n, _, h⟩ := List.mem_flatMap.mp h
    unfold Check.columnName at h
    grind [Finding.isCycle]
  · simp only [Check.primaryKey, Check.nullableKeys, Check.uniqueColumns] at h
    grind [Finding.isCycle]
  · obtain ⟨p, _, rfl⟩ := List.mem_map.mp h
    rfl
  · obtain ⟨i, _, h⟩ := List.mem_flatMap.mp h
    exact Check.isCycle_index h
  · obtain ⟨r, _, h⟩ := List.mem_flatMap.mp h
    exact Check.isCycle_relationship h

/-- The findings on a batch that tell of cycles are those of the cycles
of its foreign keys. -/
theorem Check.isCycle_batch_iff {es : List Entity} {f : Finding} :
    f ∈ Check.batch es ∧ f.isCycle = true ↔
      ∃ path ∈ (Check.keyGraph es).cycles, f = .cycle path := by
  simp only [Check.batch, List.mem_append]
  constructor
  · rintro ⟨((h | h) | h) | h, hcycle⟩
    · obtain ⟨e, _, h⟩ := List.mem_flatMap.mp h
      rw [Check.isCycle_entity h] at hcycle
      cases hcycle
    · obtain ⟨p, _, rfl⟩ := List.mem_map.mp h
      cases hcycle
    · simp only [Check.unknownTargets, Check.outsideTargets, List.mem_flatMap] at h
      obtain ⟨e, _, r, _, h⟩ := h
      obtain ⟨n, _, rfl⟩ := List.mem_map.mp h
      cases hcycle
    · obtain ⟨path, hpath, rfl⟩ := List.mem_map.mp h
      exact ⟨path, hpath, rfl⟩
  · rintro ⟨path, hpath, rfl⟩
    exact ⟨.inr (List.mem_map_of_mem hpath), rfl⟩

/-- A batch has the warning of a cycle exactly where foreign keys lead
from a table back to it. -/
theorem exists_cycle_warning_iff (es : List Entity) :
    (∃ d ∈ Diagnostic.warnings (diagnosticsOf (Check.batch es)),
      d.code = "CIRCULAR_FK_DEPENDENCY") ↔ ∃ n, Relation.TransGen (KeyLeads es) n n := by
  have hedge : (Check.keyGraph es).Edge = KeyLeads es := by
    funext a b
    exact propext edge_keyGraph
  rw [← hedge, ← Check.Graph.exists_isSimpleCycle_iff]
  constructor
  · rintro ⟨d, hd, hcode⟩
    obtain ⟨f, hf, rfl⟩ := List.mem_map.mp (List.mem_filter.mp hd).1
    obtain ⟨path, hpath, _⟩ := Check.isCycle_batch_iff.mp ⟨hf, f.code_eq_cycle_iff.mp hcode⟩
    obtain ⟨start, rest, _, hround⟩ := Check.Graph.mem_cycles_sound hpath
    exact ⟨_, hround.cycle⟩
  · rintro ⟨c, hc⟩
    obtain ⟨path, hpath, _⟩ := hc.exists_mem_cycles
    have hf := (Check.isCycle_batch_iff.mpr ⟨path, hpath, rfl⟩).1
    exact ⟨_, List.mem_filter.mpr ⟨List.mem_map_of_mem hf, rfl⟩, rfl⟩

/-- The search for cycles ends by itself. Each cycle that it writes is a
simple one from its smallest node back to it, no two have the same nodes,
and every simple cycle of the graph shares its nodes with exactly one of
them. So a batch has the warning of a cycle exactly where its foreign
keys lead from a table back to it. -/
theorem cycles_represent_simple_cycles (g : Check.Graph) (es : List Entity) :
    (∃ found : String → List (List String),
      (∀ start ∈ g.sources, g.Yields start [start] (found start)) ∧
      g.cycles = Check.Graph.distinctByNodes [] (g.sources.flatMap found)) ∧
    (∀ path ∈ g.cycles, ∃ start rest, path = start :: rest ++ [start] ∧
      g.IsSimpleCycle ↑(start :: rest) ∧ ∀ n ∈ rest, start < n) ∧
    g.cycles.Pairwise (fun p q => ¬ ∀ n, n ∈ p ↔ n ∈ q) ∧
    (∀ c, g.IsSimpleCycle c → ∃! path, path ∈ g.cycles ∧ ∀ n, n ∈ path ↔ n ∈ c) ∧
    ((∃ d ∈ Diagnostic.warnings (diagnosticsOf (Check.batch es)),
      d.code = "CIRCULAR_FK_DEPENDENCY") ↔ ∃ n, Relation.TransGen (KeyLeads es) n n) := by
  have hpairwise := g.cycles_pairwise
  refine ⟨⟨_, fun start _ => Check.Graph.Path.here.yields (by simp), rfl⟩, ?_, hpairwise, ?_,
    exists_cycle_warning_iff es⟩
  · intro path hpath
    obtain ⟨start, rest, heq, hround⟩ := Check.Graph.mem_cycles_sound hpath
    exact ⟨start, rest, heq, hround.cycle, hround.least⟩
  · intro c hc
    obtain ⟨path, hpath, hsame⟩ := hc.exists_mem_cycles
    refine ⟨path, ⟨hpath, hsame⟩, fun other hother => ?_⟩
    by_contra hne
    have : Std.Symm fun p q : List String => ¬ ∀ n, n ∈ p ↔ n ∈ q :=
      ⟨fun _ _ h h' => h fun n => (h' n).symm⟩
    exact hpairwise.forall hother.1 hpath hne fun n => (hother.2 n).trans (hsame n).symm

end Polyschema
