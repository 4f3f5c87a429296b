/-
Polyschema.Proofs.MethodCall — entities in the making after calls.

* `EntityBuilder.after`, `EntityBuilder.run` — an entity in the making after
  a call, and after several. A call that fails, or that only gives a result,
  changes nothing.
* `Script.builder_step_self`, `Script.builder_step_other` — what a call in a
  script does to an entity in the making.
* `Script.builder_run` — so a script leaves it as the calls to it make it,
  by induction on the script.
* `Script.builder_made`, `Script.build_of_step` — the call that puts an entity
  in the making into a script, and the one that gives the entity out.
-/
import Polyschema.Builder.Script
import Polyschema.Proofs.Noted

namespace Polyschema

open Polyschema.Noted

/-! ## Calls -/

/-- A call of a method. -/
structure MethodCall where
  method : String
  arguments : Call

namespace EntityBuilder

/-- An entity in the making after a call. -/
def after (b : EntityBuilder) (c : MethodCall) : EntityBuilder :=
  match b.call c.method c.arguments with
  | .ok (.changed (.entity b)) => b
  | _ => b

/-- An entity in the making after calls. -/
def run (b : EntityBuilder) (calls : List MethodCall) : EntityBuilder := calls.foldl after b

theorem run_append (b : EntityBuilder) (calls more : List MethodCall) :
    b.run (calls ++ more) = (b.run calls).run more :=
  List.foldl_append

theorem run_concat (b : EntityBuilder) (calls : List MethodCall) (c : MethodCall) :
    b.run (calls ++ [c]) = (b.run calls).after c :=
  run_append b calls [c]

/-- A call that does not fail changes the entity, or it gives out its table or
the entity that is built. -/
theorem call_eq_ok {b : EntityBuilder} {method : String} {c : Call} {o : Outcome}
    (h : b.call method c = .ok o) :
    (∃ b' : EntityBuilder, o = .changed (.entity b')) ∨ (∃ t, o = .result (.table t)) ∨
      ∃ e, b.build = .ok e ∧ o = .result (.entity e) := by
  unfold call at h
  split at h
  · obtain ⟨b', _, h⟩ := bind_eq_ok.mp h
    exact .inl ⟨b', (Except.ok.inj h).symm⟩
  · obtain ⟨b', _, h⟩ := bind_eq_ok.mp h
    exact .inl ⟨b', (Except.ok.inj h).symm⟩
  · obtain ⟨_, _, h⟩ := bind_eq_ok.mp h
    obtain ⟨b', _, h⟩ := bind_eq_ok.mp h
    exact .inl ⟨b', (Except.ok.inj h).symm⟩
  · obtain ⟨_, _, h⟩ := bind_eq_ok.mp h
    obtain ⟨b', _, h⟩ := bind_eq_ok.mp h
    exact .inl ⟨b', (Except.ok.inj h).symm⟩
  · obtain ⟨_, _, h⟩ := bind_eq_ok.mp h
    obtain ⟨t, _, h⟩ := bind_eq_ok.mp h
    exact .inr (.inl ⟨t, (Except.ok.inj h).symm⟩)
  · obtain ⟨_, _, h⟩ := bind_eq_ok.mp h
    obtain ⟨e, he, h⟩ := bind_eq_ok.mp h
    exact .inr (.inr ⟨e, he, (Except.ok.inj h).symm⟩)
  · cases h

end EntityBuilder

/-! ## Scripts -/

namespace Script

/-- A script after calls. -/
def run (s : Script) (calls : List ScriptCall) : Script :=
  calls.foldl (fun s c => (s.step c).1) s

/-- The builder that a register holds, by its number. -/
def number? (s : Script) (name : String) : Option Nat :=
  match s.registers.lookup name with
  | some (.builder n) => some n
  | _ => none

theorem number?_eq_some {s : Script} {name : String} {n : Nat} :
    s.number? name = some n ↔ s.registers.lookup name = some (.builder n) := by
  unfold number?
  split
  next h => simp [h]
  next h => exact ⟨nofun, fun heq => absurd heq (h n)⟩

/-- The calls in a script that go to a builder. -/
def callsTo (n : Nat) (s : Script) : List ScriptCall → List MethodCall
  | [] => []
  | c :: rest =>
    if s.number? c.on = some n then
      ⟨c.method, c.arguments⟩ :: (s.step c).1.callsTo n rest
    else (s.step c).1.callsTo n rest

variable {s : Script} {n : Nat} {b : EntityBuilder}

@[simp]
theorem builders_hold (name : Option String) (h : Held) :
    (s.hold name h).builders = s.builders := by
  cases name <;> rfl

/-- An update changes one builder only, or adds one. -/
theorem getElem?_update {held : Option Held} (hheld : ∀ h, held = some h → h ≠ .builder n)
    (hn : n < s.builders.length) (b : Builder) :
    (s.update held b).1.builders[n]? = s.builders[n]? := by
  unfold update
  split
  next m =>
    have hne : m ≠ n := fun h => hheld _ rfl (h ▸ rfl)
    exact List.getElem?_set_ne hne
  next => exact List.getElem?_append_left hn

theorem outcome_eq (hb : s.builders[n]? = some (.entity b)) {c : ScriptCall}
    (hc : s.registers.lookup c.on = some (.builder n)) :
    s.outcome c = b.call c.method c.arguments := by
  simp [outcome, lookup, hc, given, hb, Given.call, Builder.call]

/-- A call to an entity in the making. -/
theorem builder_step_self (hb : s.builders[n]? = some (.entity b)) {c : ScriptCall}
    (hc : s.registers.lookup c.on = some (.builder n)) :
    (s.step c).1.builders[n]? = some (.entity (b.after ⟨c.method, c.arguments⟩)) := by
  have hcall : s.outcome c = b.call c.method c.arguments := outcome_eq hb hc
  obtain ⟨hlt, -⟩ := List.getElem?_eq_some_iff.mp hb
  unfold step EntityBuilder.after
  rw [hcall, hc]
  cases ho : b.call c.method c.arguments with
  | error fault => exact hb
  | ok o =>
    obtain ⟨b', rfl⟩ | ⟨t, rfl⟩ | ⟨e, -, rfl⟩ := EntityBuilder.call_eq_ok ho
    · simp [update, hlt]
    · simpa using hb
    · simpa using hb

/-- A call to anything else. -/
theorem builder_step_other (hb : s.builders[n]? = some (.entity b)) {c : ScriptCall}
    (hc : s.registers.lookup c.on ≠ some (.builder n)) :
    (s.step c).1.builders[n]? = some (.entity b) := by
  obtain ⟨hlt, -⟩ := List.getElem?_eq_some_iff.mp hb
  have hheld : ∀ h, s.registers.lookup c.on = some h → h ≠ .builder n :=
    fun h hh heq => hc (hh.trans (congrArg some heq))
  unfold step
  split
  next => exact hb
  next b' f _ => rw [getElem?_update hheld hlt, hb]
  next b' _ =>
    show ((s.update _ b').1.hold c.result _).builders[n]? = _
    rw [builders_hold, getElem?_update hheld hlt, hb]
  next => rw [builders_hold, hb]

/-- An entity in the making is at the end of a script as the calls to it
make it, whatever else the script does. -/
theorem builder_run (calls : List ScriptCall) (hb : s.builders[n]? = some (.entity b)) :
    (s.run calls).builders[n]? = some (.entity (b.run (s.callsTo n calls))) := by
  induction calls generalizing s b with
  | nil => exact hb
  | cons c rest ih =>
    rw [run, List.foldl_cons, callsTo]
    split
    next hc => exact ih (builder_step_self hb (number?_eq_some.mp hc))
    next hc => exact ih (builder_step_other hb fun h => hc (number?_eq_some.mpr h))

/-- A new entity in the making comes after all builders there are. -/
theorem builder_made {c : ScriptCall} (hnew : s.lookup c.on = none)
    (h : (s.step c).2 = .ok (.changed (.entity b))) :
    Builder.make c.on c.method c.arguments = .ok (.changed (.entity b)) ∧
      (s.step c).1.builders[s.builders.length]? = some (.entity b) := by
  have hnone : s.registers.lookup c.on = none := by simpa [lookup] using hnew
  have hcall : s.outcome c = Builder.make c.on c.method c.arguments := by
    rw [outcome, hnew]
  unfold step at h ⊢
  rw [hcall, hnone] at h ⊢
  split at h <;> cases h
  next heq =>
    rw [heq]
    simp [update]

/-- The entity that a call in a script gives out is built from what was in the
making. -/
theorem build_of_step (hb : s.builders[n]? = some (.entity b)) {c : ScriptCall}
    (hc : s.number? c.on = some n) {e : Entity}
    (h : (s.step c).2 = .ok (.result (.entity e))) : b.build = .ok e := by
  have hcall : s.outcome c = b.call c.method c.arguments := outcome_eq hb (number?_eq_some.mp hc)
  unfold step at h
  rw [hcall] at h
  split at h <;> cases h
  next heq =>
    obtain ⟨_, ⟨⟩⟩ | ⟨_, ⟨⟩⟩ | ⟨_, he, ⟨⟩⟩ := EntityBuilder.call_eq_ok heq
    exact he

end Script

end Polyschema
