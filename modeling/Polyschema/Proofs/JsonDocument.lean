/-
Polyschema.Proofs.JsonDocument — which values a JSON column takes.

The check writes a value as JSON text, reads the text and compares. So
each shape that is no JSON is refused in a way of its own: a tuple comes
back as a list, a number as a key comes back as a text, and a date has no
text at all.

* `Value.IsJson` — the shape of JSON data.
* `reads_object` — an object is read back from its text.
* `json_survives` — JSON data is read back as an equal value.
* `isJson_of_same` — what equals a value that was read has the shape.
* `refused_of_json` — what keeps a value from having a text.
* `json_accepts_iff` — the column takes JSON data and nothing else, and it
  answers unless two keys break a comparison.
-/
import Polyschema.Proofs.JsonEqual
import Polyschema.Proofs.JsonNumber

namespace Polyschema

open Polyschema.Text Polyschema.Number Polyschema.JsonReader

/-! ## Shapes -/

mutual
/-- JSON data: the numbers in it are finite, and the keys of its mappings
are texts, no two alike. -/
def Value.IsJson : Value → Prop
  | .null | .bool _ | .int _ | .str _ => True
  | .float x => x.isFinite = true
  | .list items => ItemsJson items
  | .dict entries => (entries.map Prod.fst).Nodup ∧ EntriesJson entries
  | _ => False
termination_by structural v => v

/-- Items that are JSON data. -/
def Value.ItemsJson : List Value → Prop
  | [] => True
  | v :: rest => Value.IsJson v ∧ ItemsJson rest
termination_by structural items => items

/-- Entries with texts as keys and JSON data as values. -/
def Value.EntriesJson : List (Value × Value) → Prop
  | [] => True
  | (k, v) :: rest => (∃ s, k = .str s) ∧ Value.IsJson v ∧ EntriesJson rest
termination_by structural entries => entries
end

mutual
/-- A value whose binary numbers are numbers of the format. -/
def Value.InFormat : Value → Prop
  | .float x => x.InFormat
  | .list items | .tuple items => ItemsInFormat items
  | .dict entries => EntriesInFormat entries
  | _ => True
termination_by structural v => v

/-- Items whose binary numbers are numbers of the format. -/
def Value.ItemsInFormat : List Value → Prop
  | [] => True
  | v :: rest => Value.InFormat v ∧ ItemsInFormat rest
termination_by structural items => items

/-- Entries with values whose binary numbers are numbers of the format. -/
def Value.EntriesInFormat : List (Value × Value) → Prop
  | [] => True
  | (_, v) :: rest => Value.InFormat v ∧ EntriesInFormat rest
termination_by structural entries => entries
end

mutual
/-- A value in which no two keys of a mapping break a comparison. -/
def Value.Comparable : Value → Prop
  | .list items | .tuple items => ItemsComparable items
  | .dict entries => Value.Unbroken (entries.map Prod.fst) ∧ EntriesComparable entries
  | _ => True
termination_by structural v => v

/-- Items in which no two keys of a mapping break a comparison. -/
def Value.ItemsComparable : List Value → Prop
  | [] => True
  | v :: rest => Value.Comparable v ∧ ItemsComparable rest
termination_by structural items => items

/-- Entries in whose values no two keys of a mapping break a
comparison. -/
def Value.EntriesComparable : List (Value × Value) → Prop
  | [] => True
  | (_, v) :: rest => Value.Comparable v ∧ EntriesComparable rest
termination_by structural entries => entries
end

namespace Value

theorem entriesJson_iff {entries : List (Value × Value)} :
    EntriesJson entries ↔ ∀ e ∈ entries, (∃ s, e.1 = .str s) ∧ e.2.IsJson := by
  induction entries with
  | nil => simp [EntriesJson]
  | cons e rest ih => rw [EntriesJson, ih, List.forall_mem_cons, and_assoc]

/-! ## Keys in order -/

/-- A member of an object as JSON text. -/
def memberJson (style : JsonStyle) (e : Value × Value) : Except Misuse String := do
  let name ← keyText style.finiteOnly e.1
  pure (jsonString name ++ style.colon ++ (← e.2.json style))

/-- A mapping with its keys in order, as JSON text. -/
theorem json_dict {style : JsonStyle} (hs : style.sorted = true)
    (entries : List (Value × Value)) : (dict entries).json style = (do
      let ordered ← sortEntries entries
      let members ← ordered.mapM (memberJson style)
      pure ("\x7b" ++ style.comma.intercalate members ++ "\x7d")) := by
  rw [json, objectJson, if_pos hs, jsonEntries_eq_map, sortEntries, sortBy_map, bind_map_left]
  refine bind_congr fun ordered => ?_
  rw [List.mapM_map]
  rfl

end Value

/-! ## Objects -/

namespace JsonReader

/-- A text that is read as a member of an object: the name as a string and
the value after a colon. -/
def ReadsMember (cs : List Char) (m : String × Value) : Prop :=
  ∃ body, cs = (jsonString m.1).toList ++ ':' :: body ∧ Reads body m.2

variable {m : String × Value} {cs : List Char}

theorem ReadsMember.opens (h : ReadsMember cs m) : ∃ after, cs = '"' :: after := by
  obtain ⟨body, hcs, -⟩ := h
  rw [hcs, toList_jsonString]
  exact ⟨_, rfl⟩

/-- A member with a new name is read and put at the end; a comma goes on
with the object and a brace closes it. -/
theorem members?_of_reads (h : ReadsMember cs m) {fuel : Nat} (hfuel : cs.length < fuel)
    {read : List (String × Value)} (hnew : m.1 ∉ read.map Prod.fst) {c : Char}
    (hc : c = ',' ∨ c = '\x7d') (after : List Char) :
    members? (fuel + 1) read (cs ++ c :: after) =
      if c = ',' then members? fuel (read ++ [m]) (skip after)
      else some (read ++ [m], after) := by
  obtain ⟨body, hcs, hbody⟩ := h
  have hname := length_le_body m.1.toList
  rw [hcs, toList_jsonString] at hfuel ⊢
  simp only [List.length_append, List.length_cons, List.length_nil] at hfuel
  have hstring := string?_body m.1.toList (show m.1.toList.length < fuel by omega) []
    (':' :: (body ++ c :: after))
  obtain ⟨d, next, hopen, hgap, -⟩ := hbody.opens
  have hskip : skip (body ++ c :: after) = body ++ c :: after := by
    rw [hopen]
    simp [skip, hgap]
  have hends : EndsItem (c :: after) := endsItem_cons (by tauto) after
  have hvalue : value? fuel (body ++ c :: after) = some (m.2, c :: after) :=
    hbody.value (by omega) hends
  have hcolon : skip (':' :: (body ++ c :: after)) = ':' :: (body ++ c :: after) := rfl
  simp only [List.cons_append, List.append_assoc, List.nil_append, members?, hstring,
    List.reverse_nil, String.ofList_toList, hcolon, hskip, hvalue, putEntry_of_not_mem hnew]
  obtain rfl | rfl := hc <;> rfl

theorem not_mem_names {read ms : List (String × Value)}
    (h : ((read ++ m :: ms).map Prod.fst).Nodup) : m.1 ∉ read.map Prod.fst := by
  rw [List.map_append, List.map_cons] at h
  exact fun hmem => (List.nodup_append.mp h).2.2 _ hmem _ List.mem_cons_self rfl

/-- Members with commas between them are read up to the closing brace. -/
theorem members?_intercalate {css : List (List Char)} {ms : List (String × Value)}
    (h : ReadsMember cs m) (hs : List.Forall₂ ReadsMember css ms) {fuel : Nat}
    (hfuel : ([','].intercalate (cs :: css)).length + 1 < fuel) {read : List (String × Value)}
    (hn : ((read ++ m :: ms).map Prod.fst).Nodup) (after : List Char) :
    members? fuel read ([','].intercalate (cs :: css) ++ '\x7d' :: after) =
      some (read ++ m :: ms, after) := by
  have hnew := not_mem_names hn
  induction hs generalizing cs m fuel read with
  | nil =>
    obtain ⟨k, rfl⟩ : ∃ k, fuel = k + 1 := ⟨fuel - 1, by omega⟩
    rw [List.intercalate_singleton] at hfuel ⊢
    rw [members?_of_reads h (by omega) hnew (.inr rfl), if_neg (by decide)]
  | @cons ds m' css ms h' hs ih =>
    obtain ⟨k, rfl⟩ : ∃ k, fuel = k + 1 := ⟨fuel - 1, by omega⟩
    have hsplit : [','].intercalate (cs :: ds :: css) =
        cs ++ ',' :: [','].intercalate (ds :: css) := by
      simp
    rw [hsplit, List.length_append, List.length_cons] at hfuel
    obtain ⟨next, hopen⟩ := h'.opens
    have hskip : skip ([','].intercalate (ds :: css) ++ '\x7d' :: after) =
        [','].intercalate (ds :: css) ++ '\x7d' :: after := by
      rw [hopen, List.intercalate_cons_cons_left, List.cons_append]
      rfl
    have hn' : ((read ++ [m] ++ m' :: ms).map Prod.fst).Nodup := by
      rwa [List.append_assoc]
    have hshort : ([','].intercalate (ds :: css)).length + 1 < k := by omega
    have hrest := ih h' hshort hn' (not_mem_names hn')
    rw [hsplit, List.append_assoc, List.cons_append,
      members?_of_reads h (by omega) hnew (.inl rfl), if_pos rfl, hskip, hrest,
      List.append_assoc, List.singleton_append]

/-- The text of an object is read back, if the texts of its members are and
no two names are alike. -/
theorem reads_object {css : List (List Char)} {ms : List (String × Value)}
    (h : List.Forall₂ ReadsMember css ms) (hn : (ms.map Prod.fst).Nodup) :
    Reads ('\x7b' :: ([','].intercalate css ++ ['\x7d'])) (.record ms) := by
  refine ⟨⟨'\x7b', _, rfl, by decide, by decide⟩, fun {fuel after} hfuel _ => ?_⟩
  obtain ⟨k, rfl⟩ : ∃ k, fuel = k + 1 := ⟨fuel - 1, by omega⟩
  rw [List.cons_append, List.append_assoc, List.singleton_append]
  cases h with
  | nil => rfl
  | @cons cs m css ms hm hms =>
    obtain ⟨next, hopen⟩ := hm.opens
    obtain ⟨next, hfirst⟩ : ∃ next, [','].intercalate (cs :: css) = '"' :: next :=
      ⟨_, by rw [hopen, List.intercalate_cons_cons_left]⟩
    have hinner : ([','].intercalate (cs :: css)).length + 1 < k := by
      rw [List.length_cons, List.length_append, List.length_singleton] at hfuel
      omega
    have hmembers : members? k [] ([','].intercalate (cs :: css) ++ '\x7d' :: after) =
        some (m :: ms, after) := members?_intercalate hm hms hinner hn after
    rw [hfirst, List.cons_append] at hmembers
    have hskip : skip ('"' :: (next ++ '\x7d' :: after)) = '"' :: (next ++ '\x7d' :: after) :=
      rfl
    rw [hfirst, List.cons_append, value?]
    simp only [hskip]
    split
    next heq => exact absurd (List.cons.inj heq).1 (by decide)
    next => simp only [hmembers, Option.map_some]

end JsonReader

/-! ## Reading back -/

theorem reads_null : Reads "null".toList .null := by
  refine ⟨⟨'n', _, rfl, by decide, by decide⟩, fun {fuel rest} hfuel _ => ?_⟩
  obtain ⟨k, rfl⟩ : ∃ k, fuel = k + 1 := ⟨fuel - 1, by omega⟩
  rfl

namespace Value

/-- A value with JSON text from which an equal value is read. -/
def Survives (v : Value) : Prop :=
  ∃ text w, v.json .canonical = .ok text ∧ Reads text.toList w ∧ w.same v = true

theorem same_float_self {x : Binary64} (h : x.isFinite = true) :
    (float x).same (float x) = true := by
  cases x with
  | finite negative units => simp [same, sameScalar, Binary64.same, Binary64.signedUnits?]
  | _ => cases h

theorem floatJson_finite {x : Binary64} (h : x.isFinite = true) :
    floatJson true x = .ok x.text := by
  cases x with
  | finite negative units => rfl
  | _ => cases h

/-- Items that survive, together. -/
theorem survives_items {items : List Value} (h : ∀ v ∈ items, v.Survives) :
    ∃ texts ws, jsonItems .canonical items = .ok texts ∧
      List.Forall₂ Reads (texts.map String.toList) ws ∧ sameItems ws items = true := by
  induction items with
  | nil => exact ⟨[], [], rfl, .nil, rfl⟩
  | cons v rest ih =>
    obtain ⟨⟨text, w, ht, hr, hw⟩, hrest⟩ := List.forall_mem_cons.mp h
    obtain ⟨texts, ws, hts, hrs, hws⟩ := ih hrest
    refine ⟨text :: texts, w :: ws, ?_, .cons hr hrs, ?_⟩
    · simp only [jsonItems, ht, hts]
      rfl
    · rw [sameItems, hw, hws]
      rfl

/-- A list whose items survive. -/
theorem survives_list {items : List Value} (h : ∀ v ∈ items, v.Survives) :
    (list items).Survives := by
  obtain ⟨texts, ws, hts, hrs, hws⟩ := survives_items h
  refine ⟨"[" ++ ",".intercalate texts ++ "]", list ws, ?_, ?_, ?_⟩
  · simp only [json, hts]
    rfl
  · rw [toList_listText]
    exact reads_list hrs
  · exact same_list_iff.mpr ⟨items, rfl, hws⟩

/-- A member that is read stands for an entry: the name is its key, and the
value equals its value. -/
def Stands (m : String × Value) (e : Value × Value) : Prop :=
  e.1 = str m.1 ∧ m.2.same e.2 = true

/-- Entries with texts as keys and values that survive are written as
members that are read as what stands for them. -/
theorem survives_members {entries : List (Value × Value)}
    (h : ∀ e ∈ entries, (∃ s, e.1 = .str s) ∧ e.2.Survives) :
    ∃ texts ms, entries.mapM (memberJson .canonical) = .ok texts ∧
      List.Forall₂ ReadsMember (texts.map String.toList) ms ∧ List.Forall₂ Stands ms entries := by
  induction entries with
  | nil => exact ⟨[], [], rfl, .nil, .nil⟩
  | cons e rest ih =>
    obtain ⟨⟨⟨s, hs⟩, text, w, ht, hr, hw⟩, hrest⟩ := List.forall_mem_cons.mp h
    obtain ⟨texts, ms, hts, hrs, hms⟩ := ih hrest
    have hmember : memberJson .canonical e = .ok (jsonString s ++ ":" ++ text) := by
      rw [memberJson, hs, ht]
      rfl
    refine ⟨(jsonString s ++ ":" ++ text) :: texts, (s, w) :: ms, ?_,
      .cons ⟨text.toList, ?_, hr⟩ hrs, .cons ⟨hs, hw⟩ hms⟩
    · rw [List.mapM_cons, hmember, hts]
      rfl
    · simp

/-- The entry under a key is found where no two keys are alike. -/
theorem find?_key {entries : List (Value × Value)} (hn : (entries.map Prod.fst).Nodup)
    {e : Value × Value} (he : e ∈ entries) {s : String} (hs : e.1 = str s) :
    entries.find? (fun entry => (str s).same entry.1) = some e := by
  cases hfind : entries.find? fun entry => (str s).same entry.1 with
  | none =>
    exact absurd (same_str_iff.mpr hs) (List.find?_eq_none.mp hfind e he)
  | some e' =>
    have hmatch := List.find?_some hfind
    have hkey : e'.1 = e.1 := (same_str_iff.mp hmatch).trans hs.symm
    rw [List.inj_on_of_nodup_map hn (List.mem_of_find?_eq_some hfind) he hkey]

/-- A mapping with texts as keys, no two alike, and values that survive. -/
theorem survives_dict {entries : List (Value × Value)} (hn : (entries.map Prod.fst).Nodup)
    (h : ∀ e ∈ entries, (∃ s, e.1 = .str s) ∧ e.2.Survives) : (dict entries).Survives := by
  obtain ⟨members, rfl⟩ := exists_named fun e he => (h e he).1
  obtain ⟨sorted, hsorted, hmembers, -⟩ := sortEntries_named members
  have hperm : (named sorted).Perm (named members) := hmembers.map _
  obtain ⟨texts, ms, hts, hrs, hms⟩ :=
    survives_members fun e he => h e (hperm.mem_iff.mp he)
  have hkeys : (named sorted).map Prod.fst = ms.map fun m => str m.1 :=
    map_eq_of_forall₂ hms fun hm => hm.1
  have hnames : (ms.map Prod.fst).Nodup := by
    have hnodup := (hperm.map Prod.fst).nodup_iff.mpr hn
    rw [hkeys] at hnodup
    exact List.Nodup.of_map str (by rwa [List.map_map])
  refine ⟨"\x7b" ++ ",".intercalate texts ++ "\x7d", .record ms, ?_, ?_, ?_⟩
  · rw [json_dict rfl, hsorted]
    simp only [hts, bind, Except.bind]
    rfl
  · have htext : ("\x7b" ++ ",".intercalate texts ++ "\x7d").toList =
        '\x7b' :: ([','].intercalate (texts.map String.toList) ++ ['\x7d']) := by
      simp [String.toList_intercalate]
    rw [htext]
    exact reads_object hrs hnames
  · refine same_dict_iff.mpr ⟨named members, rfl, ?_, sameEntries_iff.mpr fun e he => ?_⟩
    · rw [List.length_map, hms.length_eq, hperm.length_eq]
    · obtain ⟨m, hm, rfl⟩ := List.mem_map.mp he
      obtain ⟨e', he', hstands⟩ := exists_of_mem_forall₂ hms.flip hm
      exact ⟨e', find?_key hn (hperm.mem_iff.mp he') hstands.1, hstands.2⟩

mutual
/-- JSON data survives. -/
theorem json_survives : (v : Value) → v.IsJson → v.InFormat → v.Survives
  | null, _, _ => ⟨"null", null, rfl, reads_null, rfl⟩
  | bool b, _, _ => ⟨_, _, rfl, reads_bool b, by cases b <;> rfl⟩
  | int n, _, _ => ⟨_, _, rfl, reads_int n, by simp [same, sameScalar, asInt?]⟩
  | float x, hx, hf => ⟨_, _, floatJson_finite hx, reads_float hx hf, same_float_self hx⟩
  | str s, _, _ => ⟨_, _, rfl, reads_str s, same_str_iff.mpr rfl⟩
  | list items, h, hf => survives_list (items_survive items h hf)
  | dict entries, h, hf =>
    survives_dict h.1 fun e he =>
      ⟨(entriesJson_iff.mp h.2 e he).1, entries_survive entries h.2 hf e he⟩
  | decimal _, h, _ | date _, h, _ | timestamp _, h, _ | tuple _, h, _ | generator, h, _
  | typeRef _ _, h, _ => h.elim
termination_by structural v => v

theorem items_survive : (items : List Value) → ItemsJson items → ItemsInFormat items →
    ∀ v ∈ items, v.Survives
  | [], _, _ => List.forall_mem_nil _
  | v :: rest, h, hf =>
    List.forall_mem_cons.mpr ⟨json_survives v h.1 hf.1, items_survive rest h.2 hf.2⟩
termination_by structural items => items

theorem entries_survive : (entries : List (Value × Value)) → EntriesJson entries →
    EntriesInFormat entries → ∀ e ∈ entries, e.2.Survives
  | [], _, _ => List.forall_mem_nil _
  | (_, v) :: rest, h, hf =>
    List.forall_mem_cons.mpr ⟨json_survives v h.2.1 hf.1, entries_survive rest h.2.2 hf.2⟩
termination_by structural entries => entries
end

/-! ## What equals a value that was read -/

/-- What has text and equals a scalar is a scalar of JSON. -/
theorem isJson_of_sameScalar (w : Value) {v : Value} (hv : v.Storable) (h : sameScalar w v = true) :
    v.IsJson := by
  obtain ⟨text, htext⟩ := hv
  cases v with
  | null | bool _ | int _ | str _ => trivial
  | float x =>
    cases x with
    | finite _ _ => rfl
    | _ => cases htext
  | decimal _ | date _ | timestamp _ | generator | typeRef _ _ => cases htext
  | list _ | tuple _ | dict _ => cases w <;> cases h

mutual
/-- What has text and equals a value that JSON writes is JSON data: a tuple
equals no list, and a key that is no text equals no name. -/
theorem isJson_of_same : (w : Value) → w.Written → ∀ {v : Value}, v.Storable →
    w.same v = true → v.IsJson
  | null, _, _, hv, h => isJson_of_sameScalar null hv h
  | bool b, _, _, hv, h => isJson_of_sameScalar (bool b) hv h
  | int n, _, _, hv, h => isJson_of_sameScalar (int n) hv h
  | float x, _, _, hv, h => isJson_of_sameScalar (float x) hv h
  | str s, _, _, hv, h => isJson_of_sameScalar (str s) hv h
  | list ws, hw, v, hv, h => by
    obtain ⟨items, rfl, hsame⟩ := same_list_iff.mp h
    exact itemsJson_of_same ws hw hv.list hsame
  | dict ws, hw, v, hv, h => by
    obtain ⟨entries, rfl, hlength, hsame⟩ := same_dict_iff.mp h
    have hkeys := keys_perm_of_same hw.1 hw.2 hlength hsame
    have hn : (entries.map Prod.fst).Nodup := hkeys.nodup_iff.mpr hw.1
    refine ⟨hn, entriesJson_iff.mpr fun e he => ?_⟩
    -- the entry that was read under the key of this one
    obtain ⟨w, hmem, hkey⟩ := List.mem_map.mp (hkeys.mem_iff.mp (List.mem_map_of_mem he))
    obtain ⟨s, hs⟩ := (entriesWritten_iff.mp hw.2 w hmem).1
    obtain ⟨e', hfind, hvalue⟩ := sameEntries_iff.mp hsame w hmem
    rw [hs, find?_key hn he (hkey ▸ hs)] at hfind
    obtain rfl := Option.some.inj hfind
    exact ⟨⟨s, hkey ▸ hs⟩, entryJson_of_same ws hw.2 w hmem (hv.dict e he) hvalue⟩
  | decimal _, hw, _, _, _ | date _, hw, _, _, _ | timestamp _, hw, _, _, _
  | tuple _, hw, _, _, _ | generator, hw, _, _, _ | typeRef _ _, hw, _, _, _ => hw.elim
termination_by structural w => w

theorem itemsJson_of_same : (ws : List Value) → ItemsWritten ws → ∀ {items : List Value},
    (∀ v ∈ items, v.Storable) → sameItems ws items = true → ItemsJson items
  | [], _, items, _, h => by
    obtain rfl : items = [] := by simpa [sameItems] using h
    trivial
  | w :: rest, hw, items, hv, h => by
    cases items with
    | nil => cases h
    | cons v items =>
      rw [sameItems, Bool.and_eq_true] at h
      obtain ⟨hfirst, hrest⟩ := List.forall_mem_cons.mp hv
      exact ⟨isJson_of_same w hw.1 hfirst h.1, itemsJson_of_same rest hw.2 hrest h.2⟩
termination_by structural ws => ws

theorem entryJson_of_same : (ws : List (Value × Value)) → EntriesWritten ws →
    ∀ w ∈ ws, ∀ {v : Value}, v.Storable → w.2.same v = true → v.IsJson
  | [], _, _, hmem, _, _, _ => (List.not_mem_nil hmem).elim
  | (_, u) :: rest, hw, w, hmem, v, hv, h => by
    rcases List.mem_cons.mp hmem with rfl | hmem
    · exact isJson_of_same u hw.2.1 hv h
    · exact entryJson_of_same rest hw.2.2 w hmem hv h
termination_by structural ws => ws
end

/-! ## Values without a text -/

/-- What keeps a value from being written: a check takes it as a "no", or a
comparison of two keys broke. -/
def Refused (comparable : Prop) (m : Misuse) : Prop :=
  m.isRejection = true ∨ m = .signaling ∧ ¬ comparable

theorem Refused.of_part {part whole : Prop} {m : Misuse} (h : Refused part m)
    (hpart : whole → part) : Refused whole m :=
  h.imp_right fun ⟨hm, hbreak⟩ => ⟨hm, fun hall => hbreak (hpart hall)⟩

theorem floatJson_error {x : Binary64} {m : Misuse} (h : floatJson true x = .error m) :
    m.isRejection = true := by
  cases x <;> cases h <;> rfl

theorem keyText_error {k : Value} {m : Misuse} (h : keyText true k = .error m) :
    m.isRejection = true := by
  cases k with
  | null | bool _ | int _ | str _ => cases h
  | float x => exact floatJson_error h
  | _ =>
    cases h
    rfl

mutual
/-- A value without a text is refused. -/
theorem refused_of_json : (v : Value) → ∀ {m : Misuse}, v.json .canonical = .error m →
    Refused v.Comparable m
  | null, _, h | bool _, _, h | int _, _, h | str _, _, h => nomatch h
  | float x, _, h => .inl (floatJson_error h)
  | list items, m, h => by
    obtain hitems | ⟨_, -, h⟩ := bind_eq_error.mp h
    · exact refused_of_items items hitems
    · cases h
  | tuple items, m, h => by
    obtain hitems | ⟨_, -, h⟩ := bind_eq_error.mp h
    · exact refused_of_items items hitems
    · cases h
  | dict entries, m, h => by
    rw [json_dict rfl] at h
    obtain hfault | ⟨ordered, hordered, h⟩ := bind_eq_error.mp h
    · obtain rfl | ⟨rfl, hbreak⟩ := failsIn_sortEntries entries m hfault
      · exact .inl rfl
      · exact .inr ⟨rfl, fun hall => hbreak hall.1⟩
    · obtain hmembers | ⟨_, -, h⟩ := bind_eq_error.mp h
      · obtain ⟨e, he, hmember⟩ := error_of_mapM hmembers
        have he : e ∈ entries := (sortBy_perm hordered).mem_iff.mp he
        -- a member fails at its key or at its value
        obtain hkey | ⟨_, -, hmember⟩ := bind_eq_error.mp hmember
        · exact .inl (keyText_error hkey)
        · obtain hvalue | ⟨_, -, hmember⟩ := bind_eq_error.mp hmember
          · exact (refused_of_entry entries e he hvalue).of_part And.right
          · cases hmember
      · cases h
  | decimal _, _, h | date _, _, h | timestamp _, _, h | generator, _, h | typeRef _ _, _, h => by
    cases h
    exact .inl rfl
termination_by structural v => v

theorem refused_of_items : (items : List Value) → ∀ {m : Misuse},
    jsonItems .canonical items = .error m → Refused (ItemsComparable items) m
  | [], _, h => nomatch h
  | v :: rest, m, h => by
    obtain hfirst | ⟨_, -, h⟩ := bind_eq_error.mp h
    · exact (refused_of_json v hfirst).of_part And.left
    · obtain hrest | ⟨_, -, h⟩ := bind_eq_error.mp h
      · exact (refused_of_items rest hrest).of_part And.right
      · cases h
termination_by structural items => items

theorem refused_of_entry : (entries : List (Value × Value)) → ∀ e ∈ entries, ∀ {m : Misuse},
    e.2.json .canonical = .error m → Refused (EntriesComparable entries) m
  | [], _, he, _, _ => (List.not_mem_nil he).elim
  | (_, v) :: rest, e, he, m, h => by
    rcases List.mem_cons.mp he with rfl | he
    · exact (refused_of_json v h).of_part And.left
    · exact (refused_of_entry rest e he h).of_part And.right
termination_by structural entries => entries
end

end Value

/-! ## The check of a JSON column -/

/-- The check of a value that has a text. -/
theorem isJson_of_json {v : Value} {text : String} (h : v.json .canonical = .ok text) :
    isJson v = .ok ((Value.ofJson? text).any fun w => w.same v) := by
  rw [isJson, h]
  rfl

/-- The check of a value that has none. -/
theorem isJson_of_error {v : Value} {m : Misuse} (h : v.json .canonical = .error m) :
    isJson v = if m.isRejection then .ok false else .error (.misuse m) := by
  rw [isJson, h]
  rfl

/-- What survives being written is taken. -/
theorem isJson_of_survives {v : Value} (h : v.Survives) : isJson v = .ok true := by
  obtain ⟨text, w, htext, hreads, hsame⟩ := h
  rw [isJson_of_json htext, ofJson?_of_reads hreads, Option.any_some, hsame]

/-- JSON data is taken. -/
theorem Value.IsJson.accepted {v : Value} (h : v.IsJson) (hf : v.InFormat) :
    (ColumnType.plain .json).accepts v = .ok true :=
  isJson_of_survives (v.json_survives h hf)

/-- What is taken is JSON data. -/
theorem shape_of_isJson {v : Value} (h : isJson v = .ok true) : v.IsJson := by
  cases htext : v.json .canonical with
  | error m =>
    rw [isJson_of_error htext] at h
    split at h <;> cases h
  | ok text =>
    rw [isJson_of_json htext, Except.ok.injEq, Option.any_eq_true] at h
    obtain ⟨w, hread, hsame⟩ := h
    exact Value.isJson_of_same w (ofJson?_written hread) ⟨text, htext⟩ hsame

/-- A JSON column takes exactly JSON data. To a value that it does not take
it answers "no", unless two keys of a mapping in it break a comparison. -/
theorem json_accepts_iff {v : Value} (hf : v.InFormat) :
    ((ColumnType.plain .json).accepts v = .ok true ↔ v.IsJson) ∧
    ((∃ b, (ColumnType.plain .json).accepts v = .ok b) ∨
      (ColumnType.plain .json).accepts v = .error (.misuse .signaling) ∧ ¬ v.Comparable) := by
  show (isJson v = .ok true ↔ _) ∧ ((∃ b, isJson v = .ok b) ∨ isJson v = _ ∧ _)
  refine ⟨⟨shape_of_isJson, fun h => h.accepted hf⟩, ?_⟩
  cases htext : v.json .canonical with
  | ok text => exact .inl ⟨_, isJson_of_json htext⟩
  | error m =>
    rw [isJson_of_error htext]
    obtain hm | ⟨rfl, hbreak⟩ := v.refused_of_json htext
    · exact .inl ⟨false, if_pos hm⟩
    · exact .inr ⟨rfl, hbreak⟩

/-- A document with a list and an object in it is taken, whatever the order
of its keys. -/
theorem json_accepts_nested :
    let v : Value := .record [("tags", .list [.str "a", .float (.ofDecimal false 15 (-1)), .null]),
      ("size", .record [("w", .int 3), ("h", .bool true)])]
    v.InFormat ∧ (ColumnType.plain .json).accepts v = .ok true := by
  have hx : (Binary64.ofDecimal false 15 (-1)).InFormat ∧
      (Binary64.ofDecimal false 15 (-1)).isFinite = true := by decide +kernel
  generalize Binary64.ofDecimal false 15 (-1) = x at hx ⊢
  intro v
  have hf : v.InFormat :=
    ⟨⟨trivial, hx.1, trivial, trivial⟩, ⟨trivial, trivial, trivial⟩, trivial⟩
  refine ⟨hf, (json_accepts_iff hf).1.mpr ⟨by simp, ⟨_, rfl⟩, ?_, ⟨_, rfl⟩, ?_, trivial⟩⟩
  · exact ⟨trivial, hx.2, trivial, trivial⟩
  · exact ⟨by simp, ⟨_, rfl⟩, trivial, ⟨_, rfl⟩, trivial, trivial⟩

/-- Two decimals as keys, of which one is no number, cannot be compared: the
check ends in the fault of the comparison. -/
theorem nan_key_unanswered :
    (ColumnType.plain .json).accepts (.dict [(.decimal (.nan false false 0), .int 1),
      (.decimal (.finite false 2 0), .int 2)]) = .error (.misuse .signaling) := by
  rfl

end Polyschema
