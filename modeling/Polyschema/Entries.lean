/-
Polyschema.Entries — entries in order, found by their keys.

* `putEntry` — one more entry, or another value for the key of an entry
  that is there.
* `map_fst_putEntry`, `putEntry_of_not_mem`, `lookup_putEntry_self` — a new
  key comes last, and the value is found under it.
-/

namespace Polyschema

variable {κ α : Type} [BEq κ]

/-- Entries with one more, which takes the place of an entry with an
equal key. -/
def putEntry (key : κ) (value : α) : List (κ × α) → List (κ × α)
  | [] => [(key, value)]
  | (k, v) :: rest =>
    if k == key then (k, value) :: rest else (k, v) :: putEntry key value rest

/-- Entries with others put in one after another. -/
def putAll (added entries : List (κ × α)) : List (κ × α) :=
  added.foldl (fun entries e => putEntry e.1 e.2 entries) entries

def entriesOf (given : List (κ × α)) : List (κ × α) := putAll given []

theorem putAll_append (added more entries : List (κ × α)) :
    putAll (added ++ more) entries = putAll more (putAll added entries) :=
  List.foldl_append

/-- The keys after an entry is put in: a new key comes last. -/
theorem map_fst_putEntry [LawfulBEq κ] (key : κ) (value : α) (entries : List (κ × α)) :
    (putEntry key value entries).map Prod.fst =
      if key ∈ entries.map Prod.fst then entries.map Prod.fst
      else entries.map Prod.fst ++ [key] := by
  induction entries with
  | nil => simp [putEntry]
  | cons e rest ih =>
    obtain ⟨k, v⟩ := e
    by_cases same : k = key
    · simp [putEntry, same]
    · have other : ¬ key = k := fun e => same e.symm
      have step : putEntry key value ((k, v) :: rest) = (k, v) :: putEntry key value rest := by
        simp [putEntry, same]
      rw [step, List.map_cons, ih, List.map_cons]
      by_cases m : key ∈ rest.map Prod.fst
      · rw [if_pos m, if_pos (List.mem_cons_of_mem k m)]
      · rw [if_neg m, if_neg (by simp only [List.mem_cons, not_or]; exact ⟨other, m⟩)]
        rfl

/-- An entry with a new key comes last. -/
theorem putEntry_of_not_mem [LawfulBEq κ] {key : κ} {value : α} {entries : List (κ × α)}
    (h : key ∉ entries.map Prod.fst) :
    putEntry key value entries = entries ++ [(key, value)] := by
  induction entries with
  | nil => rfl
  | cons e rest ih =>
    obtain ⟨k, v⟩ := e
    rw [List.map_cons, List.mem_cons, not_or] at h
    have hother : (k == key) = false := by simpa using Ne.symm h.1
    rw [putEntry, hother, ih h.2]
    rfl

/-- A value that was put in is found under its key. -/
theorem lookup_putEntry_self [LawfulBEq κ] (key : κ) (value : α)
    (entries : List (κ × α)) : (putEntry key value entries).lookup key = some value := by
  induction entries with
  | nil => simp [putEntry]
  | cons e rest ih =>
    obtain ⟨k, v⟩ := e
    by_cases same : k = key
    · simp [putEntry, same]
    · have other : (key == k) = false := by simp [Ne.symm same]
      simp [putEntry, same, List.lookup_cons, other, ih]

end Polyschema
