/-
Polyschema.Proofs.Noted — the ways in which noted work ends.

* `FailsIn` — an outcome whose failures are of some kind, put together piece
  by piece.
* `Returns`, `Stops`, `Escapes` — with a result, with a defect of the
  schema, or with a fault that no batch records.
* `returns_bind`, `fails_bind` — pieces of work in sequence.
* `outcome_each_iff` — work on a list has the results of its items.
* `returns_each`, `fails_each` — it ends as the first item that fails
  does.
* `escapes_each_iff` — where a test says which items stop, a fault
  escapes exactly from an item before the first of them.
-/
import Mathlib.Data.List.Forall2
import Mathlib.Data.List.TakeWhile
import Polyschema.Noted

namespace Polyschema

variable {ε ν α β : Type}

/-! ## Results -/

/-- Work in sequence comes to a result by way of a result. -/
theorem bind_eq_ok {r : Except ε α} {k : α → Except ε β} {b : β} :
    r >>= k = .ok b ↔ ∃ a, r = .ok a ∧ k a = .ok b := by
  cases r with
  | error e => simp [bind, Except.bind]
  | ok a => simp [bind, Except.bind]

theorem ok_bind_iff {r : Except ε α} {k : α → Except ε β} :
    (∃ b, r >>= k = .ok b) ↔ ∃ a, r = .ok a ∧ ∃ b, k a = .ok b := by
  simp only [bind_eq_ok]
  exact ⟨fun ⟨b, a, ha, hb⟩ => ⟨a, ha, b, hb⟩, fun ⟨a, ha, b, hb⟩ => ⟨b, a, ha, hb⟩⟩

/-- Work in sequence fails at its first part, or after it. -/
theorem bind_eq_error {r : Except ε α} {k : α → Except ε β} {e : ε} :
    r >>= k = .error e ↔ r = .error e ∨ ∃ a, r = .ok a ∧ k a = .error e := by
  cases r with
  | error e => simp [bind, Except.bind]
  | ok a => simp [bind, Except.bind]

theorem map_eq_ok {r : Except ε α} {g : α → β} {b : β} :
    g <$> r = .ok b ↔ ∃ a, r = .ok a ∧ g a = b := by
  cases r with
  | error e => simp [Functor.map, Except.map]
  | ok a => simp [Functor.map, Except.map]

theorem ok_map_iff {r : Except ε α} {g : α → β} :
    (∃ b, g <$> r = .ok b) ↔ ∃ a, r = .ok a := by
  simp only [map_eq_ok]
  exact ⟨fun ⟨_, a, ha, _⟩ => ⟨a, ha⟩, fun ⟨a, ha⟩ => ⟨_, a, ha, rfl⟩⟩

/-- Work on the items of a list comes to a result of each. -/
theorem mapM_eq_ok {f : α → Except ε β} {l : List α} {bs : List β} :
    l.mapM f = .ok bs ↔ List.Forall₂ (fun a b => f a = .ok b) l bs := by
  induction l generalizing bs with
  | nil => exact ⟨fun h => by cases h; exact .nil, fun h => by cases h; rfl⟩
  | cons x rest ih =>
    rw [List.mapM_cons, bind_eq_ok]
    simp only [bind_eq_ok, ih]
    constructor
    · rintro ⟨b, hb, cs, hcs, h⟩
      cases h
      exact .cons hb hcs
    · intro h
      cases h with
      | cons hb hcs => exact ⟨_, hb, _, hcs, rfl⟩

theorem ok_mapM_iff {f : α → Except ε β} {l : List α} :
    (∃ bs, l.mapM f = .ok bs) ↔ ∀ a ∈ l, ∃ b, f a = .ok b := by
  induction l with
  | nil => exact ⟨fun _ _ h => (List.not_mem_nil h).elim, fun _ => ⟨[], rfl⟩⟩
  | cons a rest ih =>
    rw [List.mapM_cons, List.forall_mem_cons, ← ih, ok_bind_iff]
    simp only [ok_bind_iff]
    exact ⟨fun ⟨b, hb, bs, hbs, _⟩ => ⟨⟨b, hb⟩, bs, hbs⟩,
      fun ⟨⟨b, hb⟩, bs, hbs⟩ => ⟨b, hb, bs, hbs, b :: bs, rfl⟩⟩

/-- Work on the items of a list fails at one of them. -/
theorem error_of_mapM {f : α → Except ε β} {l : List α} {e : ε} (h : l.mapM f = .error e) :
    ∃ a ∈ l, f a = .error e := by
  induction l with
  | nil => cases h
  | cons a rest ih =>
    rw [List.mapM_cons] at h
    obtain ha | ⟨_, -, h⟩ := bind_eq_error.mp h
    · exact ⟨a, List.mem_cons_self, ha⟩
    · obtain hrest | ⟨_, -, h⟩ := bind_eq_error.mp h
      · obtain ⟨b, hb, hf⟩ := ih hrest
        exact ⟨b, List.mem_cons_of_mem _ hb, hf⟩
      · cases h

theorem exists_of_mem_forall₂ {R : α → β → Prop} {as : List α} {bs : List β}
    (h : List.Forall₂ R as bs) {b : β} (hb : b ∈ bs) : ∃ a ∈ as, R a b := by
  induction h with
  | nil => cases hb
  | cons hr _ ih =>
    rcases List.mem_cons.mp hb with rfl | hb
    · exact ⟨_, List.mem_cons_self, hr⟩
    · obtain ⟨a, ha, h⟩ := ih hb
      exact ⟨a, List.mem_cons_of_mem _ ha, h⟩

/-- Two readings that agree on each item and its result agree on the
lists. -/
theorem map_eq_of_forall₂ {γ : Type} {R : α → β → Prop} {as : List α} {bs : List β}
    (h : List.Forall₂ R as bs) {f : α → γ} {g : β → γ} (hfg : ∀ {a b}, R a b → g b = f a) :
    bs.map g = as.map f := by
  induction h with
  | nil => rfl
  | cons hr _ ih => rw [List.map_cons, List.map_cons, hfg hr, ih]

/-- A result of a list is the result of one of its items. -/
theorem mem_of_mapM {f : α → Except ε β} {l : List α} {bs : List β}
    (h : l.mapM f = .ok bs) {b : β} (hb : b ∈ bs) : ∃ a ∈ l, f a = .ok b :=
  exists_of_mem_forall₂ (mapM_eq_ok.mp h) hb

/-! ## Outcomes that fail in some ways only -/

section

variable {P Q : ε → Prop}

/-- A result, or a failure that satisfies `P`. -/
def FailsIn (P : ε → Prop) (r : Except ε α) : Prop := ∀ e, r = .error e → P e

@[simp] theorem failsIn_ok (a : α) : FailsIn P (.ok a) := by
  intro e h
  cases h

@[simp] theorem failsIn_pure (a : α) : FailsIn P (pure a : Except ε α) := failsIn_ok a

@[simp] theorem failsIn_error {e : ε} : FailsIn P (.error e : Except ε α) ↔ P e := by
  constructor
  · intro h
    exact h e rfl
  · rintro h _ ⟨⟩
    exact h

theorem FailsIn.mono {r : Except ε α} (h : FailsIn P r) (hPQ : ∀ e, P e → Q e) : FailsIn Q r := by
  intro e he
  exact hPQ e (h e he)

theorem FailsIn.bind {r : Except ε α} {k : α → Except ε β} (hr : FailsIn P r)
    (hk : ∀ a, r = .ok a → FailsIn P (k a)) : FailsIn P (r >>= k) := by
  intro e he
  obtain he | ⟨a, ha, he⟩ := bind_eq_error.mp he
  · exact hr e he
  · exact hk a ha e he

theorem FailsIn.map {r : Except ε α} (hr : FailsIn P r) (g : α → β) : FailsIn P (g <$> r) := by
  intro e he
  cases r with
  | ok a => cases he
  | error _ =>
    cases he
    exact hr e rfl

theorem failsIn_mapM {f : α → Except ε β} {l : List α} (hf : ∀ a ∈ l, FailsIn P (f a)) :
    FailsIn P (l.mapM f) := by
  intro e he
  obtain ⟨a, ha, hfa⟩ := error_of_mapM he
  exact hf a ha e hfa

/-- An outcome is a result, or it fails in one of the ways. -/
theorem FailsIn.ok_or_error {r : Except ε α} (h : FailsIn P r) :
    (∃ a, r = .ok a) ∨ ∃ e, r = .error e ∧ P e := by
  cases r with
  | ok a => exact .inl ⟨a, rfl⟩
  | error e => exact .inr ⟨e, rfl, h e rfl⟩

end

/-- A misused value, for which the schema has no words of its own. -/
def Fault.IsMisuse (f : Fault) : Prop := ∃ m, f = .misuse m

/-- A defect of the schema. -/
def Fault.IsDefect (f : Fault) : Prop := ∃ d, f = .defect d

@[simp] theorem Fault.isMisuse_misuse (m : Misuse) : (Fault.misuse m).IsMisuse := ⟨m, rfl⟩

@[simp] theorem Fault.isDefect_defect (d : Defect) : (Fault.defect d).IsDefect := ⟨d, rfl⟩

theorem Fault.IsMisuse.not_isDefect {f : Fault} (h : f.IsMisuse) : ¬ f.IsDefect := by
  rintro ⟨d, hd⟩
  obtain ⟨m, rfl⟩ := h
  cases hd

theorem Fault.not_isMisuse_defect (d : Defect) : ¬ (Fault.defect d).IsMisuse := by
  rintro ⟨m, hm⟩
  cases hm

/-- A misuse lifted to a fault leaves the results as they are. -/
theorem lift_eq_ok {r : Except Misuse α} {a : α} : Misuse.lift r = .ok a ↔ r = .ok a := by
  cases r with
  | ok b => exact ⟨fun h => by cases h; rfl, fun h => by cases h; rfl⟩
  | error m => exact ⟨nofun, nofun⟩

@[simp] theorem failsIn_lift (r : Except Misuse α) : FailsIn Fault.IsMisuse (Misuse.lift r) := by
  cases r with
  | ok a => exact failsIn_ok a
  | error m => exact failsIn_error.mpr ⟨m, rfl⟩

namespace Noted

/-! ## Endings -/

/-- The work comes to a result. -/
def Returns (m : Noted ν α) : Prop := ∃ a, m.outcome = .ok a

/-- The work ends with a fault. -/
def Fails (m : Noted ν α) (f : Fault) : Prop := m.outcome = .error f

/-- The work ends with a defect of the schema. -/
def Stops (m : Noted ν α) (d : Defect) : Prop := m.Fails (.defect d)

/-- The work ends with a fault that is no defect. -/
def Escapes (m : Noted ν α) : Prop := ∃ f : Fault, f.defect? = none ∧ m.Fails f

theorem returns_or_fails (m : Noted ν α) : m.Returns ∨ ∃ f, m.Fails f := by
  unfold Returns Fails
  cases m.outcome with
  | ok a => exact Or.inl ⟨a, rfl⟩
  | error f => exact Or.inr ⟨f, rfl⟩

theorem not_fails_of_returns {m : Noted ν α} (h : m.Returns) (f : Fault) :
    ¬ m.Fails f := by
  obtain ⟨a, ha⟩ := h
  intro hf
  rw [Fails, ha] at hf
  cases hf

theorem returns_iff_not_fails {m : Noted ν α} : m.Returns ↔ ∀ f, ¬ m.Fails f :=
  ⟨not_fails_of_returns, fun h => (returns_or_fails m).resolve_right fun ⟨f, hf⟩ => h f hf⟩

theorem not_stops_of_returns {m : Noted ν α} (h : m.Returns) (d : Defect) :
    ¬ m.Stops d :=
  not_fails_of_returns h _

theorem not_escapes_of_returns {m : Noted ν α} (h : m.Returns) : ¬ m.Escapes := by
  rintro ⟨f, _, hf⟩
  exact not_fails_of_returns h f hf

theorem not_escapes_of_stops {m : Noted ν α} {d : Defect} (h : m.Stops d) :
    ¬ m.Escapes := by
  rintro ⟨f, hn, hf⟩
  have hd : Fault.defect d = f := Except.error.inj (h.symm.trans hf)
  subst hd
  cases hn

/-- Work that neither stops nor escapes comes to a result. -/
theorem returns_of_not {m : Noted ν α} (hs : ∀ d, ¬ m.Stops d) (he : ¬ m.Escapes) :
    m.Returns := by
  rcases returns_or_fails m with h | ⟨f, hf⟩
  · exact h
  · cases f with
    | defect d => exact absurd hf (hs d)
    | mismatch _ => exact absurd ⟨_, rfl, hf⟩ he
    | invalid _ => exact absurd ⟨_, rfl, hf⟩ he
    | refused _ => exact absurd ⟨_, rfl, hf⟩ he
    | misuse _ => exact absurd ⟨_, rfl, hf⟩ he
    | file _ => exact absurd ⟨_, rfl, hf⟩ he
    | complaint _ => exact absurd ⟨_, rfl, hf⟩ he
    | foreign _ _ => exact absurd ⟨_, rfl, hf⟩ he

/-- Where no defect can come, work escapes that does not return. -/
theorem escapes_iff_not_returns {m : Noted ν α} (hs : ∀ d, ¬ m.Stops d) :
    m.Escapes ↔ ¬ m.Returns :=
  ⟨fun he hr => not_escapes_of_returns hr he,
    fun hr => Classical.byContradiction fun he => hr (returns_of_not hs he)⟩

/-! ## Sequence -/

/-- The outcome of work in sequence is the sequence of the outcomes. -/
theorem outcome_bind (m : Noted ν α) (k : α → Noted ν β) :
    (m >>= k).outcome = m.outcome >>= fun a => (k a).outcome := by
  show (andThen m k).outcome = _
  unfold andThen
  cases m.outcome <;> rfl

/-- Work in sequence comes to a result by way of a result. -/
theorem outcome_bind_ok {m : Noted ν α} {k : α → Noted ν β} {b : β} :
    (m >>= k).outcome = .ok b ↔ ∃ a, m.outcome = .ok a ∧ (k a).outcome = .ok b := by
  rw [outcome_bind, bind_eq_ok]

theorem ofDefect_ok {r : Except Defect α} {a : α} :
    (ofDefect r : Noted ν α).outcome = .ok a ↔ r = .ok a := by
  cases r with
  | ok b => exact ⟨fun h => by cases h; rfl, fun h => by cases h; rfl⟩
  | error d => exact ⟨nofun, nofun⟩

/-- The notes of work in sequence, where the first piece of it comes to a
result. -/
theorem notes_bind_ok {m : Noted ν α} {k : α → Noted ν β} {a : α} (h : m.outcome = .ok a) :
    (m >>= k).notes = m.notes ++ (k a).notes := by
  show (andThen m k).notes = _
  rw [andThen, h]

/-- Where the first piece of work fails, its notes are all. -/
theorem notes_bind_error {m : Noted ν α} {k : α → Noted ν β} {f : Fault}
    (h : m.outcome = .error f) : (m >>= k).notes = m.notes := by
  show (andThen m k).notes = _
  rw [andThen, h]

@[simp] theorem returns_pure (a : α) : (pure a : Noted ν α).Returns := ⟨a, rfl⟩

/-- Work may be put together in any way. -/
instance : LawfulMonad (Noted ν) := LawfulMonad.mk' (Noted ν)
  (fun m => by
    obtain ⟨notes, outcome⟩ := m
    show andThen ⟨notes, outcome⟩ done = _
    cases outcome <;> simp [andThen, done])
  done_bind
  (fun m k j => by
    obtain ⟨notes, outcome⟩ := m
    show andThen (andThen ⟨notes, outcome⟩ k) j = andThen ⟨notes, outcome⟩ fun a => andThen (k a) j
    cases outcome with
    | error f => rfl
    | ok a =>
      simp only [andThen]
      cases (k a).outcome <;> simp [List.append_assoc])

/-- The outcome of work of which the result is changed. -/
theorem outcome_map (g : α → β) (m : Noted ν α) : (g <$> m).outcome = g <$> m.outcome := by
  rw [map_eq_pure_bind, outcome_bind]
  cases m.outcome <;> rfl

/-- A change of the result leaves the notes. -/
theorem notes_map (g : α → β) (m : Noted ν α) : (g <$> m).notes = m.notes := by
  rw [map_eq_pure_bind]
  cases h : m.outcome with
  | ok a => rw [notes_bind_ok h]; exact List.append_nil _
  | error f => exact notes_bind_error h

theorem outcome_map_ok {g : α → β} {m : Noted ν α} {b : β} :
    (g <$> m).outcome = .ok b ↔ ∃ a, m.outcome = .ok a ∧ g a = b := by
  rw [outcome_map, map_eq_ok]

theorem fails_map {g : α → β} {m : Noted ν α} {f : Fault} :
    (g <$> m).Fails f ↔ m.Fails f := by
  unfold Fails
  rw [outcome_map]
  cases m.outcome <;> simp [Functor.map, Except.map]

theorem returns_bind {m : Noted ν α} {k : α → Noted ν β} :
    (m >>= k).Returns ↔ ∃ a, m.outcome = .ok a ∧ (k a).Returns := by
  unfold Returns
  simp only [outcome_bind_ok]
  exact ⟨fun ⟨b, a, ha, hb⟩ => ⟨a, ha, b, hb⟩, fun ⟨a, ha, b, hb⟩ => ⟨b, a, ha, hb⟩⟩

theorem fails_bind {m : Noted ν α} {k : α → Noted ν β} {f : Fault} :
    (m >>= k).Fails f ↔ m.Fails f ∨ ∃ a, m.outcome = .ok a ∧ (k a).Fails f := by
  unfold Fails
  rw [outcome_bind]
  cases h : m.outcome with
  | error g => simp [bind, Except.bind]
  | ok a => simp [bind, Except.bind]

theorem escapes_bind {m : Noted ν α} {k : α → Noted ν β} :
    (m >>= k).Escapes ↔ m.Escapes ∨ ∃ a, m.outcome = .ok a ∧ (k a).Escapes := by
  simp only [Escapes, fails_bind]
  constructor
  · rintro ⟨f, hn, hf | ⟨a, ha, hf⟩⟩
    · exact Or.inl ⟨f, hn, hf⟩
    · exact Or.inr ⟨a, ha, f, hn, hf⟩
  · rintro (⟨f, hn, hf⟩ | ⟨a, ha, f, hn, hf⟩)
    · exact ⟨f, hn, Or.inl hf⟩
    · exact ⟨f, hn, Or.inr ⟨a, ha, hf⟩⟩

/-- Where it does not depend on the first result whether a fault escapes
later. -/
theorem escapes_bind_const {m : Noted ν α} {k : α → Noted ν β} {P : Prop}
    (hk : ∀ a, (k a).Escapes ↔ P) : (m >>= k).Escapes ↔ m.Escapes ∨ m.Returns ∧ P := by
  rw [escapes_bind]
  simp only [hk]
  exact or_congr_right ⟨fun ⟨a, ha, h⟩ => ⟨⟨a, ha⟩, h⟩, fun ⟨⟨a, ha⟩, h⟩ => ⟨a, ha, h⟩⟩

/-- Where it does not depend on the first result with what fault the work
fails later. -/
theorem fails_bind_const {m : Noted ν α} {k : α → Noted ν β} {f : Fault} {P : Prop}
    (hk : ∀ a, (k a).Fails f ↔ P) : (m >>= k).Fails f ↔ m.Fails f ∨ m.Returns ∧ P := by
  rw [fails_bind]
  simp only [hk]
  exact or_congr_right ⟨fun ⟨a, ha, h⟩ => ⟨⟨a, ha⟩, h⟩, fun ⟨⟨a, ha⟩, h⟩ => ⟨a, ha, h⟩⟩

/-- A last step that always returns does not change how work ends. -/
theorem fails_bind_of_returns {m : Noted ν α} {k : α → Noted ν β}
    (hk : ∀ a, (k a).Returns) {f : Fault} : (m >>= k).Fails f ↔ m.Fails f := by
  rw [fails_bind]
  constructor
  · rintro (h | ⟨a, _, h⟩)
    · exact h
    · exact absurd h (not_fails_of_returns (hk a) f)
  · exact Or.inl

theorem returns_bind_of_returns {m : Noted ν α} {k : α → Noted ν β}
    (hk : ∀ a, (k a).Returns) : (m >>= k).Returns ↔ m.Returns := by
  rw [returns_bind]
  exact ⟨fun ⟨a, ha, _⟩ => ⟨a, ha⟩, fun ⟨a, ha⟩ => ⟨a, ha, hk a⟩⟩

theorem returns_map {g : α → β} {m : Noted ν α} : (g <$> m).Returns ↔ m.Returns := by
  rw [map_eq_pure_bind]
  exact returns_bind_of_returns fun _ => returns_pure _

theorem escapes_bind_of_returns {m : Noted ν α} {k : α → Noted ν β}
    (hk : ∀ a, (k a).Returns) : (m >>= k).Escapes ↔ m.Escapes := by
  simp only [Escapes, fails_bind_of_returns hk]

/-! ## Work on each item -/

theorem each_cons (f : α → Noted ν β) (x : α) (rest : List α) :
    each f (x :: rest) = (do
      let b ← f x
      let bs ← each f rest
      pure (b :: bs)) := rfl

@[simp] theorem each_nil (f : α → Noted ν β) : each f [] = pure [] := rfl

theorem each_singleton (f : α → Noted ν β) (x : α) : each f [x] = (fun b => [b]) <$> f x := by
  rw [each_cons, each_nil]
  simp only [pure_bind, map_eq_pure_bind]

/-- Work on a list and then on another one. -/
theorem each_append (f : α → Noted ν β) (l l' : List α) :
    each f (l ++ l') = (do
      let bs ← each f l
      let bs' ← each f l'
      pure (bs ++ bs')) := by
  induction l with
  | nil => simp
  | cons x rest ih => simp only [List.cons_append, each_cons, ih, bind_assoc, pure_bind]

/-- Work on changed items is the work that changes them first. -/
theorem each_map {γ : Type} (f : β → Noted ν γ) (g : α → β) (l : List α) :
    each f (l.map g) = each (fun a => f (g a)) l := by
  induction l with
  | nil => rfl
  | cons x rest ih => rw [List.map_cons, each_cons, each_cons, ih]

/-- Work of which each result is changed comes to the changed results. -/
theorem each_map_results {γ : Type} (g : β → γ) (f : α → Noted ν β) (l : List α) :
    each (fun a => g <$> f a) l = List.map g <$> each f l := by
  induction l with
  | nil => rfl
  | cons x rest ih =>
    rw [each_cons, each_cons, ih]
    simp only [map_eq_pure_bind, bind_assoc, pure_bind, List.map_cons]

/-- Work on two lists is the same if it is on each item and its
counterpart. -/
theorem each_of_forall₂ {γ : Type} {R : α → γ → Prop} {as : List α} {cs : List γ}
    (h : List.Forall₂ R as cs) {f : α → Noted ν β} {g : γ → Noted ν β}
    (hfg : ∀ {a c}, R a c → g c = f a) : each g cs = each f as := by
  induction h with
  | nil => rfl
  | cons hr _ ih => rw [each_cons, each_cons, hfg hr, ih]

/-- The outcome of work on a list, without the notes. -/
theorem outcome_each (f : α → Noted ν β) (l : List α) :
    (each f l).outcome = l.mapM fun a => (f a).outcome := by
  induction l with
  | nil => rfl
  | cons x rest ih =>
    rw [each_cons, outcome_bind, List.mapM_cons]
    refine congrArg _ (funext fun b => ?_)
    rw [outcome_bind, ih]
    rfl

/-- Work on a list comes to the results of its items, one by one. -/
theorem outcome_each_iff {f : α → Noted ν β} {l : List α} {bs : List β} :
    (each f l).outcome = .ok bs ↔
      List.Forall₂ (fun a b => (f a).outcome = .ok b) l bs := by
  rw [outcome_each, mapM_eq_ok]

/-- What holds of each item whose work comes to a result holds of the
results, one by one. -/
theorem forall₂_of_outcome_each {f : α → Noted ν β} {l : List α} {bs : List β}
    {R : α → β → Prop} (h : (each f l).outcome = .ok bs)
    (hR : ∀ a ∈ l, ∀ b, (f a).outcome = .ok b → R a b) : List.Forall₂ R l bs :=
  ((List.forall₂_and_left _ _).mpr ⟨hR, outcome_each_iff.mp h⟩).imp fun _ b hab =>
    hab.1 b hab.2

/-- The notes of work on a list that comes to a result are those of its
items. -/
theorem notes_each_ok {f : α → Noted ν β} {l : List α} (h : (each f l).Returns) :
    (each f l).notes = l.flatMap fun a => (f a).notes := by
  induction l with
  | nil => rfl
  | cons x rest ih =>
    rw [each_cons] at h ⊢
    obtain ⟨b, hb, h⟩ := returns_bind.mp h
    obtain ⟨bs, hbs, _⟩ := returns_bind.mp h
    rw [notes_bind_ok hb, notes_bind_ok hbs, ih ⟨bs, hbs⟩, List.flatMap_cons]
    exact congrArg _ (List.append_nil _)

theorem returns_each {f : α → Noted ν β} {l : List α} :
    (each f l).Returns ↔ ∀ x ∈ l, (f x).Returns := by
  unfold Returns
  rw [outcome_each, ok_mapM_iff]

/-- Work on a list fails as its first item that fails. -/
theorem fails_each {f : α → Noted ν β} {l : List α} {e : Fault} :
    (each f l).Fails e ↔ ∃ before x after, l = before ++ x :: after ∧
      (∀ y ∈ before, (f y).Returns) ∧ (f x).Fails e := by
  induction l with
  | nil =>
    constructor
    · intro h; cases h
    · rintro ⟨before, x, after, h, _⟩
      cases before <;> cases h
  | cons x rest ih =>
    rw [each_cons, fails_bind]
    simp only [fails_bind_of_returns fun bs => returns_pure _, ih]
    constructor
    · rintro (h | ⟨b, hb, before, y, after, rfl, hbefore, hy⟩)
      · exact ⟨[], x, rest, rfl, by simp, h⟩
      · exact ⟨x :: before, y, after, rfl,
          List.forall_mem_cons.mpr ⟨⟨b, hb⟩, hbefore⟩, hy⟩
    · rintro ⟨before, y, after, h, hbefore, hy⟩
      cases before with
      | nil =>
        obtain ⟨rfl, rfl⟩ := List.cons.inj h
        exact Or.inl hy
      | cons z before =>
        obtain ⟨rfl, rfl⟩ := List.cons.inj h
        obtain ⟨⟨b, hb⟩, hrest⟩ := List.forall_mem_cons.mp hbefore
        exact Or.inr ⟨b, hb, before, y, after, rfl, hrest, hy⟩

/-- Work on a list fails alike if that on each item does. -/
theorem fails_each_congr {γ : Type} {f : α → Noted ν β} {g : α → Noted ν γ}
    (h : ∀ x e, (f x).Fails e ↔ (g x).Fails e) {l : List α} {e : Fault} :
    (each f l).Fails e ↔ (each g l).Fails e := by
  have hreturns : ∀ x, (f x).Returns ↔ (g x).Returns := by
    simp only [returns_iff_not_fails, h, implies_true]
  simp only [fails_each, h, hreturns]

/-- Where `stop?` tells the defect that each item stops with, a fault
escapes exactly from an item before the first that stops. -/
theorem escapes_each_iff {f : α → Noted ν β} {l : List α} (stop? : α → Option Defect)
    (hstop : ∀ x ∈ l, ∀ d, (f x).Stops d ↔ stop? x = some d) :
    (each f l).Escapes ↔ ∃ x ∈ l.takeWhile fun x => (stop? x).isNone, (f x).Escapes := by
  induction l with
  | nil =>
    constructor
    · rintro ⟨e, _, h⟩; cases h
    · simp
  | cons x rest ih =>
    have hx := hstop x List.mem_cons_self
    have ih := ih fun y hy => hstop y (List.mem_cons_of_mem x hy)
    rw [each_cons, escapes_bind]
    simp only [escapes_bind_of_returns fun bs => returns_pure _, ih]
    cases hs : stop? x with
    | some d =>
      have hd : (f x).Stops d := (hx d).mpr hs
      have hno : ¬ ∃ b, (f x).outcome = .ok b := fun h => not_stops_of_returns h d hd
      rw [List.takeWhile_cons_of_neg (by simp [hs])]
      constructor
      · rintro (h | ⟨b, hb, _⟩)
        · exact absurd h (not_escapes_of_stops hd)
        · exact absurd ⟨b, hb⟩ hno
      · simp
    | none =>
      rw [List.takeWhile_cons_of_pos (by simp [hs])]
      constructor
      · rintro (h | ⟨b, hb, y, hy, he⟩)
        · exact ⟨x, List.mem_cons_self, h⟩
        · exact ⟨y, List.mem_cons_of_mem x hy, he⟩
      · rintro ⟨y, hy, he⟩
        rcases List.mem_cons.mp hy with rfl | hy
        · exact Or.inl he
        · by_cases hesc : (f x).Escapes
          · exact Or.inl hesc
          · obtain ⟨b, hb⟩ :=
              returns_of_not (fun d h => by rw [hx d, hs] at h; cases h) hesc
            exact Or.inr ⟨b, hb, y, hy, he⟩

/-- There, work on a list returns where no item stops and no fault
escapes. -/
theorem returns_each_iff_of_stops {f : α → Noted ν β} {l : List α}
    (stop? : α → Option Defect) (hstop : ∀ x ∈ l, ∀ d, (f x).Stops d ↔ stop? x = some d) :
    (each f l).Returns ↔ (∀ x ∈ l, stop? x = none) ∧ ¬ (each f l).Escapes := by
  constructor
  · intro h
    refine ⟨fun x hx => ?_, not_escapes_of_returns h⟩
    rw [Option.eq_none_iff_forall_ne_some]
    exact fun d hd => not_stops_of_returns (returns_each.mp h x hx) d ((hstop x hx d).mpr hd)
  · rintro ⟨hnone, hesc⟩
    refine returns_of_not (fun d hd => ?_) hesc
    obtain ⟨before, x, after, rfl, _, hx⟩ := fails_each.mp hd
    have hsome := (hstop x (by simp) d).mp hx
    rw [hnone x (by simp)] at hsome
    cases hsome

/-- Work that leaves at most a note returns. -/
@[simp] theorem returns_noteWhen (b : Bool) (n : ν) : (noteWhen b n).Returns := by
  cases b <;> exact ⟨(), rfl⟩

/-! ## Work that fails in some ways only -/

section

variable {P : Fault → Prop}

theorem failsIn_of_returns {m : Noted ν α} (h : m.Returns) : FailsIn P m.outcome :=
  fun f hf => absurd hf (not_fails_of_returns h f)

theorem failsIn_outcome_bind {m : Noted ν α} {k : α → Noted ν β}
    (hm : FailsIn P m.outcome) (hk : ∀ a, FailsIn P (k a).outcome) :
    FailsIn P (m >>= k).outcome := by
  rw [outcome_bind]
  exact hm.bind fun a _ => hk a

theorem failsIn_each {f : α → Noted ν β} {l : List α}
    (hf : ∀ x ∈ l, FailsIn P (f x).outcome) : FailsIn P (each f l).outcome := by
  intro e h
  obtain ⟨before, x, after, rfl, _, hx⟩ := fails_each.mp h
  exact hf x (by simp) e hx

/-- Work that can fail in no defect does not stop. -/
theorem not_stops_of_failsIn {m : Noted ν α} (h : FailsIn P m.outcome)
    (hP : ∀ f, P f → ¬ f.IsDefect) (d : Defect) : ¬ m.Stops d :=
  fun hd => hP _ (h _ hd) ⟨d, rfl⟩

end

/-- Where no item stops, a fault escapes from any item that lets one
escape. -/
theorem escapes_each_of_not_stops {f : α → Noted ν β} {l : List α}
    (hf : ∀ x ∈ l, ∀ d, ¬ (f x).Stops d) :
    (each f l).Escapes ↔ ∃ x ∈ l, (f x).Escapes := by
  have h := escapes_each_iff (f := f) (l := l) (fun _ => none)
    fun x hx d => ⟨fun hs => absurd hs (hf x hx d), fun hs => by cases hs⟩
  have hall : (l.takeWhile fun _ => true) = l :=
    List.takeWhile_eq_self_iff.mpr fun _ _ => rfl
  simpa [hall] using h

/-! ## Work that a defect may prevent -/

/-- Work that begins with a result that a defect may prevent fails with that
defect, or as the rest of it does. -/
theorem fails_ofDefect_bind {r : Except Defect α} {k : α → Noted ν β} {f : Fault} :
    (ofDefect r >>= k).Fails f ↔
      (∃ d, r = .error d ∧ f = .defect d) ∨ ∃ a, r = .ok a ∧ (k a).Fails f := by
  rw [fails_bind]
  cases r with
  | error e =>
    constructor
    · rintro (h | ⟨a, ha, _⟩)
      · exact .inl ⟨e, rfl, (Except.error.inj h).symm⟩
      · cases ha
    · rintro (⟨d, hd, rfl⟩ | ⟨a, ha, _⟩)
      · cases hd
        exact .inl rfl
      · cases ha
  | ok a =>
    constructor
    · rintro (h | ⟨b, hb, h⟩)
      · cases h
      · cases hb
        exact .inr ⟨a, rfl, h⟩
    · rintro (⟨d, hd, _⟩ | ⟨b, hb, h⟩)
      · cases hd
      · cases hb
        exact .inr ⟨a, rfl, h⟩

end Noted

end Polyschema
