/-
Polyschema.Proofs.Check — the check of a key against the key that is
resolved.

* `Table.Keyable` — what a table needs for its key to resolve.
* `resolveKey_eq_ok_iff`, `primaryKey_sound_iff` — the key resolves, and
  its check finds no error, exactly there.
* `primaryKey_check_agrees` — the check finds an error exactly where a
  table stops, but for the key that SQL wants declared.
-/
import Polyschema.Check.Entity
import Polyschema.Proofs.Table

namespace Polyschema

open Polyschema.Noted

/-! ## Findings -/

/-- Findings of which none is an error. -/
def Sound (findings : List Finding) : Prop := ∀ f ∈ findings, f.level ≠ .error

@[simp] theorem sound_append {a b : List Finding} : Sound (a ++ b) ↔ Sound a ∧ Sound b :=
  List.forall_mem_append

/-- A finding that is made under a condition. -/
@[simp] theorem sound_when (c : Prop) [Decidable c] (f : Finding) :
    Sound (if c then [f] else []) ↔ (c → f.level ≠ .error) := by
  by_cases h : c <;> simp [Sound, h]

/-- A log is valid where its findings are sound. -/
theorem isValid_diagnosticsOf (findings : List Finding) :
    Diagnostic.isValid (diagnosticsOf findings) = true ↔ Sound findings := by
  simp [Diagnostic.isValid, diagnosticsOf, Diagnostic.isError, Finding.diagnostic, Sound]

/-- Names reported as errors where they are no columns. -/
theorem sound_absent (report : String → Finding) (hr : ∀ n, (report n).level = .error)
    (t : Table) (names : List String) :
    Sound ((names.filter fun n => !t.columns.has n).map report) ↔
      ∀ n ∈ names, t.columns.has n = true := by
  simp only [Sound, List.forall_mem_map, List.mem_filter, hr, Bool.not_eq_true']
  constructor
  · intro h n hn
    exact Bool.of_not_eq_false fun hc => h n ⟨hn, hc⟩ rfl
  · rintro h n ⟨hn, hc⟩ _
    rw [h n hn] at hc
    cases hc

@[simp] theorem sound_nullableKeys (t : Table) (key : List String) :
    Sound (Check.nullableKeys t key) := by
  intro f hf
  obtain ⟨n, _, rfl⟩ := List.mem_map.mp hf
  exact Level.noConfusion

/-! ## Keys -/

namespace Table

/-- What a table needs for its key to resolve. -/
structure Keyable (t : Table) : Prop where
  /-- The declared key is made of columns. -/
  declared : ∀ n ∈ t.primaryKey, t.columns.has n = true
  /-- So are the unique groups. -/
  grouped : ∀ n ∈ t.uniques.flatten, t.columns.has n = true
  /-- Without a declared key, one column is flagged. -/
  lone : t.primaryKey = [] → ∃ n, t.flagged = [n]
  /-- With a declared key, the flags repeat it or there are none. -/
  agreed : t.primaryKey ≠ [] → t.flagged ≠ [] →
    sameMembers t.flagged t.primaryKey = true

theorem sameMembers_iff {a b : List String} :
    sameMembers a b = true ↔ ∀ n, n ∈ a ↔ n ∈ b := by
  simp only [sameMembers, Bool.and_eq_true, List.all_eq_true, List.contains_iff_mem]
  exact ⟨fun h n => ⟨h.1 n, h.2 n⟩, fun h => ⟨fun n => (h n).mp, fun n => (h n).mpr⟩⟩

theorem sameMembers_comm (a b : List String) : sameMembers a b = sameMembers b a :=
  Bool.and_comm _ _

theorem firstAbsent?_eq_none_iff {t : Table} {names : List String} :
    t.firstAbsent? names = none ↔ ∀ n ∈ names, t.columns.has n = true := by
  simp [firstAbsent?]

theorem absentReference?_eq_none_iff {t : Table} :
    t.absentReference? = none ↔
      (∀ n ∈ t.primaryKey, t.columns.has n = true) ∧
        ∀ n ∈ t.uniques.flatten, t.columns.has n = true := by
  rw [← firstAbsent?_eq_none_iff, ← firstAbsent?_eq_none_iff]
  unfold absentReference?
  cases t.firstAbsent? t.primaryKey <;> simp

/-- A flagged column is a column. -/
theorem has_of_mem_flagged {t : Table} {n : String} (h : n ∈ t.flagged) :
    t.columns.has n = true := by
  obtain ⟨e, he, rfl⟩ := List.mem_map.mp h
  exact List.contains_iff_mem.mpr (List.mem_map_of_mem (List.mem_filter.mp he).1)

/-- The key that a table declares, or the columns that it flags. -/
def statedKey (t : Table) : List String :=
  if t.primaryKey = [] then t.flagged else t.primaryKey

theorem keyable_of_undeclared {t : Table} (hp : t.primaryKey = []) :
    t.Keyable ↔ (∃ n, t.flagged = [n]) ∧ ∀ n ∈ t.uniques.flatten, t.columns.has n = true :=
  ⟨fun k => ⟨k.lone hp, k.grouped⟩, fun h =>
    ⟨by simp [hp], h.2, fun _ => h.1, fun hd => absurd hp hd⟩⟩

theorem keyable_of_declared {t : Table} (hp : t.primaryKey ≠ []) :
    t.Keyable ↔ (∀ n ∈ t.primaryKey, t.columns.has n = true) ∧
      (t.flagged ≠ [] → sameMembers t.flagged t.primaryKey = true) ∧
      ∀ n ∈ t.uniques.flatten, t.columns.has n = true :=
  ⟨fun k => ⟨k.declared, k.agreed hp, k.grouped⟩, fun h =>
    ⟨h.1, h.2.2, fun hd => absurd hd hp, fun _ => h.2.1⟩⟩

/-- A key resolves to what the table states, where the table has what a
key needs. -/
theorem resolveKey_eq_ok_iff {t : Table} {key : List String} :
    t.resolveKey = .ok key ↔ t.Keyable ∧ key = t.statedKey := by
  unfold resolveKey statedKey
  cases ha : t.absentReference? with
  | some d =>
    have hno : ¬ t.Keyable := fun k => by
      rw [absentReference?_eq_none_iff.mpr ⟨k.declared, k.grouped⟩] at ha
      cases ha
    simp [hno]
  | none =>
    obtain ⟨hd, hg⟩ := absentReference?_eq_none_iff.mp ha
    by_cases hp : t.primaryKey = []
    · rw [keyable_of_undeclared hp, if_pos hp, if_pos (by simp [hp])]
      rcases t.flagged with _ | ⟨n, _ | ⟨m, rest⟩⟩
      · simp
      · exact ⟨fun h => ⟨⟨⟨n, rfl⟩, hg⟩, (Except.ok.inj h).symm⟩,
          fun h => congrArg Except.ok h.2.symm⟩
      · simp
    · rw [keyable_of_declared hp, if_neg hp, if_neg (by simpa using hp)]
      by_cases hf : t.flagged ≠ [] ∧ sameMembers t.flagged t.primaryKey = false
      · rw [if_pos (by simpa using hf)]
        simp [hf.1, hf.2]
      · rw [if_neg (by simpa using hf)]
        have hs : t.flagged ≠ [] → sameMembers t.flagged t.primaryKey = true :=
          fun hn => Bool.of_not_eq_false fun hc => hf ⟨hn, hc⟩
        exact ⟨fun h => ⟨⟨hd, hs, hg⟩, (Except.ok.inj h).symm⟩,
          fun h => congrArg Except.ok h.2.symm⟩

/-- A resolved key names columns, at least one, and agrees with the
flags. -/
theorem Keyable.statedKey_spec {t : Table} (k : t.Keyable) :
    t.statedKey ≠ [] ∧ (∀ n ∈ t.statedKey, t.columns.has n = true) ∧
      (t.flagged ≠ [] → ∀ n, n ∈ t.statedKey ↔ n ∈ t.flagged) := by
  unfold statedKey
  by_cases hp : t.primaryKey = []
  · rw [if_pos hp]
    obtain ⟨n, hn⟩ := k.lone hp
    exact ⟨by simp [hn], fun n => has_of_mem_flagged, fun _ _ => Iff.rfl⟩
  · rw [if_neg hp]
    exact ⟨hp, k.declared, fun hf n => (sameMembers_iff.mp (k.agreed hp hf) n).symm⟩

end Table

/-! ## The check of a key -/

theorem sound_uniqueColumns (t : Table) :
    Sound (Check.uniqueColumns t) ↔ ∀ n ∈ t.uniques.flatten, t.columns.has n = true :=
  sound_absent (.absentUniqueColumn t.name) (fun _ => rfl) t t.uniques.flatten

/-- The check of a key finds no error exactly where the key resolves. -/
theorem Check.primaryKey_sound_iff (t : Table) : Sound (primaryKey t) ↔ t.Keyable := by
  have hd := sound_absent (.absentKeyColumn t.name) (fun _ => rfl) t t.primaryKey
  unfold primaryKey
  by_cases hp : t.primaryKey = []
  · rw [Table.keyable_of_undeclared hp]
    rcases hf : t.flagged with _ | ⟨n, rest⟩
    · rw [if_pos (by simp [hp])]
      simp [Sound, Finding.level]
    · rw [if_neg (by simp)]
      simp only [sound_append, sound_when, hd, sound_nullableKeys, sound_uniqueColumns]
      cases rest <;> simp [hp, Finding.level]
  · rw [Table.keyable_of_declared hp, if_neg (by simp [hp]), Table.sameMembers_comm]
    simp only [sound_append, sound_when, hd, sound_nullableKeys, sound_uniqueColumns]
    simp [hp, Finding.level, and_assoc]

/-- A table has a defect in a dialect exactly where the check of its key
finds an error or, for SQL, where it declares no key. -/
theorem Table.defectIn?_iff_invalid {t : Table} {d : Dialect} :
    (∃ x, t.defectIn? d = some x) ↔
      Diagnostic.isValid (diagnosticsOf (Check.primaryKey t)) = false ∨
        d = .sql ∧ t.primaryKey = [] := by
  rw [← Option.ne_none_iff_exists', ne_eq, Table.defectIn?_eq_none_iff, ← Bool.not_eq_true,
    isValid_diagnosticsOf, Check.primaryKey_sound_iff, not_and_or, not_forall]
  simp only [exists_prop, not_not, Table.resolveKey_eq_ok_iff, exists_eq_right]

/-- Amounts of money, which the caller writes and checks. -/
def CustomKind.money : CustomKind where
  name := "money"
  params := []
  serializer := some fun v => .ok (.str v.text)
  deserializer := none
  validator := some fun
    | .int n => .ok (.bool (0 ≤ n))
    | _ => .error (.misuse .wrongKind)
  emitters := [
    (.sql, fun name options => match options with
      | some .postgres => .ok (name ++ " MONEY")
      | _ => .ok (name ++ " NUMERIC(19,4)")),
    (.prisma, fun name _ => .ok (name ++ " Decimal @db.Money"))]

/-- No fault leaves one of its functions. -/
theorem CustomKind.not_raises_money (f : Fault) : ¬ (Kind.custom .money).Raises f := by
  intro h
  cases h with
  | @check _ v given raised leaves =>
    cases given
    cases v with
    | int n => cases raised
    | _ =>
      cases raised
      cases leaves
  | store given raised =>
    cases given
    cases raised
  | @write dialect _ _ options given raised =>
    cases dialect with
    | sql =>
      cases given
      rcases options with _ | v
      · cases raised
      · cases v <;> cases raised
    | prisma =>
      cases given
      cases raised
    | _ => cases given

/-- A table whose key is its only column. -/
def Table.ofKey (name : String) (type : ColumnType) : Table where
  name := name
  columns := Keyed.empty.put "id" (.plain type)
  primaryKey := ["id"]
  uniques := []
  checks := []
  comment := none

end Polyschema
