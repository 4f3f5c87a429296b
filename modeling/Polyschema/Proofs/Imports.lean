/-
Polyschema.Proofs.Imports — the import lines of a Drizzle file.

* `Table.Tame` — tables of registered kinds whose names are plain, whose
  defaults are accepted, and whose comments and expressions do not leave
  their line or their template.
* `Table.calls` — the functions that the definition of a table calls.
* `scans_column`, `scans_table` — the text of a column or a table is
  scanned as a whole: it calls these functions and no other.
* `tables_imports` — the import lines of a file of tables.
-/
import Polyschema.Emit.Schema
import Polyschema.Proofs.Check
import Polyschema.Proofs.Cycle
import Polyschema.Proofs.Default
import Polyschema.Proofs.Reorder
import Polyschema.Proofs.ScanLiteral

namespace Polyschema

open Polyschema.Text Polyschema.Noted

/-! ## Tame tables -/

/-- A column of a registered kind whose texts stay where they are
written. -/
structure Column.Tame (c : Column) : Prop extends c.Registered where
  accepted : ∀ v, c.default = some v → v = .generator ∨ c.type.accepts v = .ok true
  comment : ∀ s, c.comment = some s → '\n' ∉ s.toList
  computed : ∀ s, c.generatedAs = some s → Emit.backtick ∉ s.toList

/-- A table of such columns with plain names. -/
structure Table.Tame (t : Table) : Prop where
  name : Emit.Lettered t.name
  columns : ∀ e ∈ t.columns.entries, Emit.Lettered e.1 ∧ e.2.Tame
  checks : ∀ c ∈ t.checks, Emit.Lettered c.name ∧ Emit.backtick ∉ c.expression.toList
  comment : ∀ s, t.comment = some s → '\n' ∉ s.toList

theorem Column.Tame.settled {c : Column} (hc : c.Tame) : c.Settled :=
  fun v hv => (hc.accepted v hv).imp id .inl

namespace Emit

variable {name : String} {options : Option Variant}

/-! ## Builder calls -/

theorem scans_comma : Scans ", " ∅ False := Inert.scans (by decide) (by decide)

theorem scans_closed : Scans ")" ∅ False := Inert.scans (by decide) (by decide)

/-- The builder functions of registered kinds. -/
def builders : List String :=
  ["text", "varchar", "integer", "real", "numeric", "boolean", "date", "timestamp", "uuid",
    "jsonb"]

theorem builder_mem {k : Kind} (hk : k.Registered) : k.builder ∈ builders := by
  cases k with
  | string max => cases max <;> simp [Kind.builder, builders]
  | custom spec => cases hk
  | _ => simp [Kind.builder, builders]

theorem scans_builder : ∀ b ∈ builders, Scans (b ++ "(") {b} False := by
  simp only [builders, List.forall_mem_cons]
  refine ⟨?_, ?_, ?_, ?_, ?_, ?_, ?_, ?_, ?_, ?_, List.forall_mem_nil _⟩
  all_goals exact scans_call (by decide) (by decide) (by decide)

/-- An enumeration one of whose members holds the opening of a
template. -/
def OpensMember (k : Kind) : Prop :=
  ∃ members, k = .enum members ∧ ∃ m ∈ members.list, Opens m.toList

theorem not_opensMember {k : Kind} (hk : ∀ members, k ≠ .enum members) : ¬ OpensMember k :=
  fun ⟨members, h, _⟩ => hk members h

theorem scans_members (members : Members) :
    Scans s!"\x7b enum: [{commas (members.list.map scriptString)}] \x7d" ∅
      (OpensMember (.enum members)) := by
  have hopen : Scans "\x7b enum: [" ∅ False := Inert.scans (by decide) (by decide)
  have hclose : Scans "] \x7d" ∅ False := Inert.scans (by decide) (by decide)
  have heach : ScansEach (fun _ => ∅) (fun m => Opens m.toList) members.list
      (members.list.map scriptString) :=
    List.forall₂_map_right_iff.mpr (List.forall₂_same.mpr fun m _ => scans_scriptString m)
  have hmembers := scans_intercalate scans_comma heach
  refine ((hopen.append hmembers).append hclose).congr rfl (by simp) ?_
  simp [OpensMember]

/-- A builder function has one option at most. -/
theorem builderOptions_cases {k : Kind} (hk : k.Registered) :
    k.builderOptions = [] ∧ ¬ OpensMember k ∨
      ∃ o, k.builderOptions = [o] ∧ Scans o ∅ (OpensMember k) := by
  have hinert {k : Kind} (hk : ∀ members, k ≠ .enum members) {s : String} (hs : Inert s) :
      Scans (s ++ " \x7d") ∅ (OpensMember k) :=
    (hs.scans_before (by decide) (by decide) (by decide)).congr rfl rfl
      (iff_of_false (not_opensMember hk) not_false)
  cases k with
  | string max =>
    cases max with
    | none => exact .inl ⟨rfl, not_opensMember nofun⟩
    | some max =>
      have hs : Inert ("\x7b length: " ++ toString max) :=
        Inert.append (by decide) (inert_natText max)
      exact .inr ⟨_, rfl, hinert (k := .string (some max)) nofun hs⟩
  | decimal shape =>
    cases shape with
    | free scale => exact .inl ⟨rfl, not_opensMember nofun⟩
    | fixed precision scale positive fits =>
      have hs : Inert ("\x7b precision: " ++ toString precision ++ ", scale: " ++
          toString scale) :=
        ((Inert.append (by decide) (inert_natText precision)).append (by decide)).append
          (inert_natText scale)
      exact .inr ⟨_, rfl, hinert (k := .decimal _) nofun hs⟩
  | enum members => exact .inr ⟨_, rfl, scans_members members⟩
  | custom spec => cases hk
  | _ => exact .inl ⟨rfl, not_opensMember nofun⟩

theorem fragment?_drizzle {k : Kind} (hk : k.Registered) :
    k.fragment? .drizzle name options =
      some (.ok (Kind.callText k.builder (s!"'{name}'" :: k.builderOptions))) := by
  cases k with
  | custom spec => cases hk
  | _ => rfl

theorem scans_fragment {k : Kind} (hk : k.Registered) (hn : Lettered name) :
    Scans (Kind.callText k.builder (s!"'{name}'" :: k.builderOptions)) {k.builder}
      (OpensMember k) := by
  have hcall := scans_builder k.builder (builder_mem hk)
  have hname : Scans s!"'{name}'" ∅ False := scans_name hn
  obtain ⟨ho, hk⟩ | ⟨o, ho, hscan⟩ := builderOptions_cases hk
  · rw [ho]
    refine ((hcall.append hname).append scans_closed).congr ?_ (by simp) (by simp [hk])
    show k.builder ++ "(" ++ commas [s!"'{name}'"] ++ ")" = _
    simp [commas]
  · rw [ho]
    have harguments := (hname.append scans_comma).append hscan
    refine ((hcall.append harguments).append scans_closed).congr ?_ (by simp) (by simp)
    show k.builder ++ "(" ++ commas [s!"'{name}'", o] ++ ")" = _
    simp [commas]

/-! ## Defaults -/

/-- What a column stores is a text that holds the opening of a
template. -/
def OpensStored (t : ColumnType) (v : Value) : Prop :=
  v ≠ .generator ∧ ∃ s, t.serialize v = .ok (.str s) ∧ Opens s.toList

theorem silent_storedJson {v : Value} {s : String} (h : storedJson v = .ok (.str s)) :
    Silent s := by
  unfold storedJson at h
  cases hj : v.json .canonical with
  | error m => rw [hj] at h; cases h
  | ok text =>
    rw [hj] at h
    cases h
    exact silent_json v hj

/-- Kinds whose stored form is written as it is store JSON text. -/
theorem silent_stored {k : Kind} (hk : k.Registered)
    (hn : (k.name == "json" || k.name == "array") = true) {v : Value} {s : String}
    (h : k.serialize v = .ok (.str s)) : Silent s := by
  cases k with
  | json => exact silent_storedJson h
  | array element modifiers =>
    obtain ⟨items, _, h⟩ := bind_eq_ok.mp h
    obtain ⟨stored, _, h⟩ := bind_eq_ok.mp h
    exact silent_storedJson h
  | custom spec => cases hk
  | _ => simp [Kind.name] at hn

/-- The literal of a plain value: an opening of a template is seen in it
where the value is a text that holds one. -/
theorem silent_scriptLiteral {v : Value} (hv : v.Plain) {literal : String}
    (h : v.scriptLiteral = .ok literal) :
    Silent literal ∧ (Opens literal.toList ↔ ∃ s, v = .str s ∧ Opens s.toList) := by
  have hinert (hs : ∀ s, v ≠ .str s) (hi : Inert literal) :
      Silent literal ∧ (Opens literal.toList ↔ ∃ s, v = .str s ∧ Opens s.toList) :=
    ⟨hi.silent, iff_of_false hi.not_opens fun ⟨s, hs', _⟩ => hs s hs'⟩
  cases v with
  | bool b => cases h; cases b <;> exact hinert nofun (by decide)
  | int n => cases h; exact hinert nofun (inert_intText n)
  | float x => cases h; exact hinert nofun (inert_floatText x)
  | str s =>
    cases h
    have hs := scans_scriptString s
    exact ⟨hs.quiet.silent, hs.opens.trans ⟨fun ho => ⟨s, rfl, ho⟩, fun ⟨_, h, ho⟩ => by
      cases h; exact ho⟩⟩
  | _ => cases hv

/-- The call for a default of which nothing is left out. -/
theorem scans_default {literal : String} (h : Silent literal) :
    Scans (".default(" ++ literal ++ ")") ∅ (Opens literal.toList) := by
  have hopen : Scans ".default(" ∅ False := scans_fixed (by decide) (by decide) (by decide)
  refine (hopen.append (h.scans (c := ')') (by decide))).congr ?_ (by simp) (by simp)
  rw [String.append_assoc]
  rfl

/-- One of two texts that call nothing. -/
theorem scans_ite {condition : Prop} [Decidable condition] {s s' : String}
    (h : Scans s ∅ False) (h' : Scans s' ∅ False) :
    Scans (if condition then s else s') ∅ False := by
  split
  · exact h
  · exact h'

theorem scans_drizzleExpression (typeName : String) :
    Scans ((drizzleExpression typeName).getD "") ∅ False := by
  unfold drizzleExpression
  split
  next => exact scans_fixed (by decide) (by decide) (by decide)
  next =>
    split
    next => exact scans_fixed (by decide) (by decide) (by decide)
    next => exact scans_empty

/-- The call for an accepted default has what the type stores: JSON text
as it is, anything else as a literal. -/
theorem defaultCall_cases {t : ColumnType} {v stored : Value} (hv : v ≠ .generator)
    (ha : t.accepts v = .ok true) (hs : t.serialize v = .ok stored) {call : String}
    (h : (Drizzle.defaultCall t name (.data v)).outcome = .ok call) :
    (∃ s, (t.name == "json" || t.name == "array") = true ∧ stored = .str s ∧
      call = ".default(" ++ s ++ ")") ∨
    ∃ literal, stored.scriptLiteral = .ok literal ∧ call = ".default(" ++ literal ++ ")" := by
  unfold Drizzle.defaultCall at h
  split at h
  next hg => exact absurd hg hv
  next =>
    have hvalue : settingValue (.data v) = v := rfl
    rw [hvalue, storedDefault_eq_done ha hs, done_bind] at h
    split at h
    next s hn =>
      cases h
      exact .inl ⟨s, hn, rfl, rfl⟩
    next =>
      obtain ⟨literal, hl, h⟩ := outcome_bind_ok.mp h
      cases h
      exact .inr ⟨literal, lift_eq_ok.mp hl, rfl⟩

theorem scans_defaultCall {t : ColumnType} (ht : t.kind.Registered) {v : Value}
    (hv : v = .generator ∨ t.accepts v = .ok true) {call : String}
    (h : (Drizzle.defaultCall t name (.data v)).outcome = .ok call) :
    Scans call ∅ (OpensStored t v) := by
  by_cases hg : v = .generator
  · obtain rfl := hg
    have hexpression : call = (drizzleExpression t.name).getD "" := by
      unfold Drizzle.defaultCall settingValue at h
      cases he : drizzleExpression t.name with
      | none => rw [he] at h; cases h; rfl
      | some text => rw [he] at h; cases h; rfl
    rw [hexpression]
    exact (scans_drizzleExpression t.name).congr rfl rfl
      (iff_of_false (fun hstored => hstored.1 rfl) not_false)
  · have ha := hv.resolve_left hg
    obtain ⟨stored, hs, hplain⟩ := serialize_of_accepts ht ha
    have hstored : OpensStored t v ↔ ∃ s, stored = .str s ∧ Opens s.toList := by
      unfold OpensStored ColumnType.serialize
      rw [hs]
      simp [hg]
    obtain ⟨s, hn, rfl, rfl⟩ | ⟨literal, hl, rfl⟩ := defaultCall_cases hg ha hs h
    · exact (scans_default (silent_stored ht hn hs)).congr rfl rfl
        (hstored.trans ⟨fun ⟨_, heq, ho⟩ => by cases heq; exact ho, fun ho => ⟨s, rfl, ho⟩⟩)
    · obtain ⟨hsilent, hopens⟩ := silent_scriptLiteral hplain hl
      exact (scans_default hsilent).congr rfl rfl (hstored.trans hopens.symm)

/-! ## Columns -/

/-- The call for the default of a column. -/
theorem scans_onDefault {c : Column} (hc : c.Tame) {default : Option String}
    (h : (c.onDefault fun setting => Drizzle.defaultCall c.type name setting).outcome =
      .ok default) :
    Scans (default.getD "") ∅ (∃ v, c.default = some v ∧ OpensStored c.type v) := by
  unfold Column.onDefault at h
  cases hv : c.default with
  | none =>
    rw [hv] at h
    cases h
    exact scans_empty.congr rfl rfl (by simp)
  | some v =>
    rw [hv] at h
    obtain ⟨call, hcall, rfl⟩ := outcome_map_ok.mp h
    exact (scans_defaultCall hc.kind (hc.accepted v hv) hcall).congr rfl rfl (by simp)

theorem scans_identity (mode : Option Generation) :
    Scans ((mode.map Drizzle.identityCall).getD "") ∅ False := by
  rcases mode with _ | _ | _
  · exact scans_empty
  · exact scans_fixed (by decide) (by decide) (by decide)
  · exact scans_fixed (by decide) (by decide) (by decide)

theorem scans_computedCall {generatedAs : Option String}
    (h : ∀ s, generatedAs = some s → backtick ∉ s.toList) :
    Scans (Drizzle.computedCall generatedAs) ∅ (isGiven generatedAs = true) := by
  cases generatedAs with
  | none => exact scans_empty.congr rfl rfl (by simp [isGiven])
  | some expression =>
    show Scans (if expression = "" then "" else
      ".generatedAlwaysAs(" ++ Drizzle.sqlTemplate expression ++ ")") ∅ _
    split
    next hempty => exact scans_empty.congr rfl rfl (by simp [isGiven, hempty])
    next hgiven =>
      have hopen : Scans ".generatedAlwaysAs(" ∅ False :=
        scans_fixed (by decide) (by decide) (by decide)
      exact ((hopen.append (scans_template (h expression rfl))).append scans_closed).congr rfl
        (by simp) (by simp [isGiven, hgiven])

/-- The text of a column calls the builder function of its kind and no
other. -/
theorem scans_column {c : Column} (hc : c.Tame) (hn : Lettered name) {text : String}
    (h : (Drizzle.column c.resolved name options c.generatedAs).outcome = .ok text) :
    Scans text {c.type.kind.builder}
      ((OpensMember c.type.kind ∨ ∃ v, c.default = some v ∧ OpensStored c.type v) ∨
        isGiven c.generatedAs = true) := by
  rw [drizzleColumn_eq hc.bare] at h
  obtain ⟨fragment, hf, h⟩ := outcome_bind_ok.mp h
  obtain ⟨calls, hcalls, h⟩ := outcome_bind_ok.mp h
  obtain ⟨default, hdefault, hcalls⟩ := outcome_bind_ok.mp hcalls
  cases h
  cases hcalls
  rw [base, fragment?_drizzle hc.kind] at hf
  cases hf
  have hnull : Scans (if c.nullable then "" else ".notNull()") ∅ False :=
    scans_ite scans_empty (scans_fixed (by decide) (by decide) (by decide))
  have hunique : Scans (if c.unique then ".unique()" else "") ∅ False :=
    scans_ite (scans_fixed (by decide) (by decide) (by decide)) scans_empty
  have hkey : Scans (if c.primary then ".primaryKey()" else "") ∅ False :=
    scans_ite (scans_fixed (by decide) (by decide) (by decide)) scans_empty
  have hafter := (((hunique.append hkey).append (scans_onDefault hc hdefault)).append
    (scans_identity c.mode?)).append (scans_computedCall hc.computed)
  exact (((scans_fragment hc.kind hn).append hnull).append hafter).congr rfl (by simp)
    (by simp [or_assoc])

/-- A comment on lines of its own. -/
theorem scans_comments {indent : String} (hi : Scans indent ∅ False) {comment : Option String}
    (h : ∀ s, comment = some s → '\n' ∉ s.toList) :
    Scans (ended ((comment.filter (· != "")).toList.map fun s => indent ++ "// " ++ s)) ∅
      (∃ s, comment = some s ∧ Opens s.toList) := by
  cases comment with
  | none => exact scans_empty.congr rfl rfl (by simp)
  | some s =>
    by_cases hs : s = ""
    · obtain rfl := hs
      exact scans_empty.congr rfl rfl (by simp [opens_nil])
    · refine (hi.append (scans_comment (h s rfl))).congr ?_ (by simp) (by simp)
      simp [Option.filter, hs, ended, String.join_cons, String.append_assoc, String.join_nil]

end Emit

/-- A column that has the opening of a template in its texts: in its
comment, a member of its enumeration, or what it stores by default. -/
def Column.MentionsTemplate (c : Column) : Prop :=
  (∃ s, c.comment = some s ∧ Emit.Opens s.toList) ∨ Emit.OpensMember c.type.kind ∨
    ∃ v, c.default = some v ∧ Emit.OpensStored c.type v

namespace Emit

theorem scans_columnLines {c : Column} (hc : c.Tame) (hn : Lettered name) {key ls : List String}
    (h : (Drizzle.columnLines key options name c).outcome = .ok ls) :
    Scans (ended ls) {c.type.kind.builder}
      (c.MentionsTemplate ∨ isGiven c.generatedAs = true) := by
  obtain ⟨text, ht, h⟩ := outcome_bind_ok.mp h
  cases h
  have hp : (c.withPrimary (key == [name])).Tame :=
    ⟨⟨hc.kind, hc.bare⟩, hc.accepted, hc.comment, hc.computed⟩
  have hopen : Scans ("  " ++ name ++ ": ") ∅ False :=
    (Inert.append (by decide) hn.inert).scans_before (by decide) (by decide) (by decide)
  have hclose : Scans ",\n" ∅ False := Inert.scans (by decide) (by decide)
  have hcolumn := (hopen.append (scans_column hp hn ht)).append hclose
  have hcomment := scans_comments (Inert.scans (s := "  ") (by decide) (by decide)) hc.comment
  refine (hcomment.append hcolumn).congr ?_ (by simp; rfl) ?_
  · have hline : ended [s!"  {name}: {text},"] = "  " ++ name ++ ": " ++ text ++ ",\n" := by
      show "  " ++ name ++ ": " ++ text ++ "," ++ "\n" = _
      rw [String.append_assoc]
      rfl
    rw [ended_append, hline]
    rfl
  · simp only [Column.MentionsTemplate, false_or, or_false, or_assoc]
    rfl

/-! ## Tables -/

theorem forall_mem_intercalate {P : Char → Prop} {sep : String} (hsep : ∀ c ∈ sep.toList, P c)
    {texts : List String} (h : ∀ s ∈ texts, ∀ c ∈ s.toList, P c) :
    ∀ c ∈ (sep.intercalate texts).toList, P c := by
  induction texts with
  | nil => simp
  | cons s texts ih =>
    obtain ⟨hs, hrest⟩ := List.forall_mem_cons.mp h
    cases texts with
    | nil => simpa using hs
    | cons t texts =>
      intro c hc
      rw [String.intercalate_cons_cons, String.toList_append, String.toList_append,
        List.mem_append, List.mem_append] at hc
      exact hc.elim (fun hc => hc.elim (hs c) (hsep c)) (ih hrest c)

theorem inert_members {columns : List String} (h : ∀ n ∈ columns, Lettered n) :
    Inert (Drizzle.members columns) := by
  have hsep : Inert ", " := by decide
  refine forall_mem_intercalate hsep fun s hs => ?_
  obtain ⟨n, hn, rfl⟩ := List.mem_map.mp hs
  exact Inert.append (by decide) (h n hn).inert

/-- What is written after the columns, on lines of their own. -/
def extraLines (extras : List String) : String := ended (extras.map fun e => s!"  {e},")

section

variable {α : Type} {as : List α} {text : α → String} {A : Set String} {p : Prop}

/-- Texts that call the same functions call them if there is one. -/
theorem scans_extraLines (h : ∀ a ∈ as, Scans (text a) A p) :
    Scans (extraLines (as.map text)) {name | name ∈ A ∧ as ≠ []} (p ∧ as ≠ []) := by
  have hopen : Scans "  " ∅ False := Inert.scans (by decide) (by decide)
  have hclose : Scans ",\n" ∅ False := Inert.scans (by decide) (by decide)
  have hline : ∀ a ∈ as, Scans ("  " ++ text a ++ "," ++ "\n") A p := fun a ha => by
    refine ((hopen.append (h a ha)).append hclose).congr ?_ (by simp) (by simp)
    rw [String.append_assoc]
    rfl
  have heach : ScansEach (fun _ => A) (fun _ => p) as
      (as.map fun a => "  " ++ text a ++ "," ++ "\n") :=
    List.forall₂_map_right_iff.mpr (List.forall₂_same.mpr hline)
  refine (scans_join heach).congr ?_ ?_ ?_
  · rw [extraLines, ended, List.map_map, List.map_map]
    rfl
  · ext name
    cases as <;> simp
  · cases as <;> simp

end

theorem scans_keyTexts {key : List String} (h : ∀ n ∈ key, Lettered n) :
    Scans (extraLines (Drizzle.keyTexts key))
      {name | name = "primaryKey" ∧ 1 < key.length} False := by
  unfold Drizzle.keyTexts
  split
  next hlong =>
    have hopen : Scans "primaryKey(" {"primaryKey"} False :=
      scans_call (by decide) (by decide) (by decide)
    have hmembers : Scans ("\x7b columns: [" ++ Drizzle.members key ++ "] \x7d)") ∅ False :=
      (Inert.append (by decide) (inert_members h)).scans_before (by decide) (by decide) (by decide)
    have htext : s!"primaryKey(\x7b columns: [{Drizzle.members key}] \x7d)" =
        "primaryKey(" ++ ("\x7b columns: [" ++ Drizzle.members key ++ "] \x7d)") := by
      rw [← String.append_assoc, ← String.append_assoc]
      rfl
    have hkey : ∀ k ∈ [key],
        Scans s!"primaryKey(\x7b columns: [{Drizzle.members k}] \x7d)" ({"primaryKey"} ∪ ∅)
          (False ∨ False) :=
      List.forall_mem_singleton.mpr ((hopen.append hmembers).congr htext rfl Iff.rfl)
    refine (scans_extraLines hkey).congr rfl ?_ ?_
    · simp [hlong]
    · simp
  next hshort => exact scans_empty.congr rfl (by simp [hshort]) Iff.rfl

theorem scans_uniqueText {table : String} {columns : List String} (ht : Lettered table)
    (h : ∀ n ∈ columns, Lettered n) :
    Scans (Drizzle.uniqueText table columns) {"unique"} False := by
  have hopen : Scans "unique(" {"unique"} False := scans_call (by decide) (by decide) (by decide)
  have hgroup : Lettered (table ++ "_" ++ "_".intercalate columns ++ "_unique") := by
    have hsep : Lettered "_" := by decide
    have hjoined : Lettered ("_".intercalate columns) := forall_mem_intercalate hsep h
    exact ((ht.append (by decide)).append hjoined).append (by decide)
  have hon : Scans ").on(" ∅ False := scans_fixed (by decide) (by decide) (by decide)
  have hmembers : Scans (Drizzle.members columns ++ ")") ∅ False :=
    (inert_members h).scans_before (by decide) (by decide) (by decide)
  refine (((hopen.append (scans_name hgroup)).append hon).append hmembers).congr ?_ (by simp)
    (by simp)
  apply String.toList_injective
  simp [Drizzle.uniqueText, toString, quote]

theorem scans_checkText {c : Check} (hn : Lettered c.name) (he : backtick ∉ c.expression.toList) :
    Scans (Drizzle.checkText c) {"check"} True := by
  have hopen : Scans "check(" {"check"} False := scans_call (by decide) (by decide) (by decide)
  refine ((((hopen.append (scans_name hn)).append scans_comma).append (scans_template he)).append
    scans_closed).congr ?_ (by simp) (by simp)
  apply String.toList_injective
  simp [Drizzle.checkText, toString, quote]

end Emit

namespace Table

/-- The functions that the definition of a table calls. -/
def calls (t : Table) : Set String := {name |
  name = "pgTable" ∨ (∃ e ∈ t.columns.entries, name = e.2.type.kind.builder) ∨
    (name = "primaryKey" ∧ ∃ key, t.resolveKey = .ok key ∧ 1 < key.length) ∨
    (name = "unique" ∧ t.uniques ≠ []) ∨ (name = "check" ∧ t.checks ≠ [])}

/-- A table that uses templates: for a check or a computed column. -/
def UsesTemplate (t : Table) : Prop :=
  t.checks ≠ [] ∨ ∃ e ∈ t.columns.entries, isGiven e.2.generatedAs = true

/-- A table that has the opening of a template in its texts. -/
def MentionsTemplate (t : Table) : Prop :=
  (∃ s, t.comment = some s ∧ Emit.Opens s.toList) ∨
    ∃ e ∈ t.columns.entries, e.2.MentionsTemplate

theorem Tame.lettered {t : Table} (ht : t.Tame) {n : String} (h : t.columns.has n = true) :
    Emit.Lettered n := by
  obtain ⟨e, he, rfl⟩ := List.mem_map.mp (List.contains_iff_mem.mp h)
  exact (ht.columns e he).1

end Table

namespace Emit

variable {t : Table}

/-- What follows the columns of a table in whose schema the key
resolves. -/
theorem scans_extras (ht : t.Tame) {key : List String} (hk : t.resolveKey = .ok key) :
    Scans (extraLines (Drizzle.extras t key []))
      ({name | name = "primaryKey" ∧ 1 < key.length} ∪
        {name | name = "unique" ∧ t.uniques ≠ []} ∪ {name | name = "check" ∧ t.checks ≠ []})
      (t.checks ≠ []) := by
  obtain ⟨hkeyable, rfl⟩ := Table.resolveKey_eq_ok_iff.mp hk
  have hkey := scans_keyTexts fun n hn => ht.lettered (hkeyable.statedKey_spec.2.1 n hn)
  have hunique : ∀ columns ∈ t.uniques,
      Scans (Drizzle.uniqueText t.name columns) {"unique"} False := fun columns hc =>
    scans_uniqueText ht.name fun n hn =>
      ht.lettered (hkeyable.grouped n (List.mem_flatten.mpr ⟨columns, hc, hn⟩))
  have hcheck : ∀ c ∈ t.checks, Scans (Drizzle.checkText c) {"check"} True := fun c hc =>
    scans_checkText (ht.checks c hc).1 (ht.checks c hc).2
  refine ((hkey.append (scans_extraLines hunique)).append (scans_extraLines hcheck)).congr ?_
    (by simp) (by simp)
  unfold extraLines Drizzle.extras
  simp only [List.map_append, List.map_nil, List.append_nil, ended_append]

/-- A table ends with what follows its columns. -/
theorem scans_closing {ls extras : List String} {A B : Set String} {p q : Prop}
    (hls : Scans (ended ls) A p) (he : Scans (extraLines extras) B q) :
    Scans (lines (ls ++ Drizzle.closingLines extras)) (A ∪ B) (p ∨ q) := by
  unfold Drizzle.closingLines
  cases extras with
  | nil =>
    have hlast : Scans "\x7d);" ∅ False := Inert.scans (by decide) (by decide)
    refine ((hls.append he).append hlast).congr ?_ (by simp) (by simp)
    have hnone : extraLines [] = "" := rfl
    rw [hnone, String.append_empty]
    exact lines_concat ls "\x7d);"
  | cons e extras =>
    have hopen : Scans "\x7d, (table) => [\n" ∅ False :=
      scans_fixed (by decide) (by decide) (by decide)
    have hlast : Scans "]);" ∅ False := Inert.scans (by decide) (by decide)
    refine ((hls.append (hopen.append he)).append hlast).congr ?_ (by simp) (by simp)
    have hlines := lines_concat (ls ++ "\x7d, (table) => [" ::
      (e :: extras).map fun e => s!"  {e},") "]);"
    rw [List.append_assoc, List.cons_append, ended_append, ended_cons] at hlines
    exact hlines

/-- The line that opens a table calls the function for tables. -/
theorem scans_header (hn : Lettered t.name) :
    Scans (s!"export const {Drizzle.exportName t} = pgTable('{t.name}', \x7b" ++ "\n")
      {"pgTable"} False := by
  have hname : Scans ("export const " ++ camel t.name ++ " ") ∅ False :=
    (Inert.append (by decide) (inert_camel t.name)).scans_before (by decide) (by decide) (by decide)
  have hcall : Scans "= pgTable(" {"pgTable"} False :=
    scans_call (by decide) (by decide) (by decide)
  have hopen : Scans ", \x7b\n" ∅ False := Inert.scans (by decide) (by decide)
  refine (((hname.append hcall).append (scans_name hn)).append hopen).congr ?_ (by simp) (by simp)
  apply String.toList_injective
  simp [Drizzle.exportName, toString, quote]

/-- The text of a table calls the functions that its definition needs,
and no other. -/
theorem scans_table (ht : t.Tame) {text : String}
    (h : (Drizzle.table t options []).outcome = .ok text) :
    Scans text t.calls (t.UsesTemplate ∨ t.MentionsTemplate) := by
  obtain ⟨key, hk, h⟩ := outcome_bind_ok.mp h
  obtain ⟨columns, hcolumns, h⟩ := outcome_bind_ok.mp h
  cases h
  have hkey := ofDefect_ok.mp hk
  have heach : ScansEach (fun e : String × Column => {e.2.type.kind.builder})
      (fun e => e.2.MentionsTemplate ∨ isGiven e.2.generatedAs = true) t.columns.entries
      (columns.map ended) :=
    List.forall₂_map_right_iff.mpr (forall₂_of_outcome_each hcolumns fun e he _ hls =>
      scans_columnLines (ht.columns e he).2 (ht.columns e he).1 hls)
  have hbody := scans_join heach
  rw [← ended_flatten] at hbody
  have hcomment := scans_comments scans_empty ht.comment
  have hfront := hcomment.append ((scans_header ht.name).append hbody)
  rw [← ended_cons, ← ended_append] at hfront
  refine (scans_closing hfront (scans_extras ht hkey)).congr ?_ ?_ ?_
  · rfl
  · ext name
    simp [Table.calls, hkey, or_assoc]
  · have hcolumn : (∃ e ∈ t.columns.entries,
        e.2.MentionsTemplate ∨ isGiven e.2.generatedAs = true) ↔
        (∃ e ∈ t.columns.entries, e.2.MentionsTemplate) ∨
          ∃ e ∈ t.columns.entries, isGiven e.2.generatedAs = true := by
      simp only [and_or_left, exists_or]
    unfold Table.UsesTemplate Table.MentionsTemplate
    rw [hcolumn]
    simp only [false_or]
    grind

/-! ## Files -/

/-- A file that begins with the import of these functions, before it that
of the function for templates if there is reason to, and goes on with the
rendered tables. -/
def Imports (text : String) (names : List String) (template : Prop) (rendered : List String) :
    Prop :=
  ∃ first, (first = [importLine Drizzle.templateModule ["sql"]] ∧ template ∨
      first = [] ∧ ¬ template) ∧
    text = lines (first ++ [importLine Drizzle.coreModule names]) ++ "\n\n" ++
      paragraphs rendered

theorem mem_calls_ne_sql {name : String} (ht : t.Tame) (h : name ∈ t.calls) : name ≠ "sql" := by
  rintro rfl
  rcases h with h | ⟨e, he, h⟩ | ⟨h, _⟩ | ⟨h, _⟩ | ⟨h, _⟩
  · revert h; decide
  · have hmem := builder_mem (ht.columns e he).2.kind
    rw [← h] at hmem
    revert hmem
    decide
  · revert h; decide
  · revert h; decide
  · revert h; decide

theorem importBlock_imports (body : String) :
    importBlock (Drizzle.imports body) =
      lines ((if holds sqlOpening body.toList then
          [importLine Drizzle.templateModule ["sql"]] else []) ++
        [importLine Drizzle.coreModule
          (sortedSet (("pgTable" :: calledNames body).filter (· != "sql")))]) := by
  have horder : decide (Drizzle.coreModule ≤ Drizzle.templateModule) = false := by decide
  have honly : sortedSet ["sql"] = ["sql"] := by simp [sortedSet, sorted, List.eraseDups_cons]
  unfold importBlock Drizzle.imports
  cases holds sqlOpening body.toList with
  | true => simp [List.mergeSort, horder, honly]
  | false => simp

/-- A file whose body is scanned as a whole imports what the body
calls. -/
theorem imports_bundle {rendered : List String} {A : Set String} {p : Prop}
    (h : Scans (paragraphs rendered) A p) (hsql : "sql" ∉ A) :
    ∃ names, names.Pairwise (· < ·) ∧ (∀ name, name ∈ names ↔ name = "pgTable" ∨ name ∈ A) ∧
      Imports (Drizzle.bundle rendered) names p rendered := by
  refine ⟨sortedSet (("pgTable" :: calledNames (paragraphs rendered)).filter (· != "sql")),
    pairwise_sortedSet _, fun name => ?_, ?_⟩
  · rw [mem_sortedSet, List.mem_filter, List.mem_cons, h.mem_calledNames, bne_iff_ne]
    refine and_iff_left_of_imp ?_
    rintro hmem rfl
    rcases hmem with hmem | hmem
    · revert hmem; decide
    · exact hsql hmem
  · refine ⟨if holds sqlOpening (paragraphs rendered).toList then
      [importLine Drizzle.templateModule ["sql"]] else [], ?_, ?_⟩
    · split
      next hopen => exact .inl ⟨rfl, h.opens.mp hopen⟩
      next hopen => exact .inr ⟨rfl, fun hp => hopen (h.opens.mpr hp)⟩
    · rw [Drizzle.bundle, importBlock_imports]

/-- A tame table is written where its key resolves. -/
theorem returns_table_iff (ht : t.Tame) :
    (tableText t .drizzle options).Returns ↔ ∃ key, t.resolveKey = .ok key := by
  have hnone : t.defectIn? .drizzle = none ↔ ∃ key, t.resolveKey = .ok key := by
    rw [Table.defectIn?_eq_none_iff]
    exact and_iff_left nofun
  rw [← hnone]
  refine (returns_tableWith_iff t .drizzle options [] none).trans (and_iff_left ?_)
  rintro f ⟨key, -, hf⟩
  refine not_fails_of_returns (returns_each.mpr fun e he => ?_) f hf
  have hc := (ht.columns e he).2
  exact (returns_columnIn_iff hc.toRegistered .drizzle key options e.1).mpr (.inr hc.settled)

/-- A Drizzle file of tables whose keys resolve imports the function for
tables, the builder function of each column, and the functions for
composite keys, unique groups and checks where there are any, and no
other; whatever stands in the texts of the tables. The function for
templates is imported where a check or a computed column needs it, and
besides where the opening of a template stands in some text. -/
theorem tables_imports {tables : List Table} (ht : ∀ t ∈ tables, t.Tame)
    (options : Option Variant) :
    ((tablesText tables .drizzle options).Returns ↔
      ∀ t ∈ tables, ∃ key, t.resolveKey = .ok key) ∧
    ∀ text, (tablesText tables .drizzle options).outcome = .ok text →
      ∃ names rendered, names.Pairwise (· < ·) ∧
        (∀ name, name ∈ names ↔ name = "pgTable" ∨ ∃ t ∈ tables, name ∈ t.calls) ∧
        List.Forall₂ (fun t s => (tableText t .drizzle options).outcome = .ok s) tables rendered ∧
        Imports text names ((∃ t ∈ tables, t.UsesTemplate) ∨ ∃ t ∈ tables, t.MentionsTemplate)
          rendered := by
  constructor
  · unfold tablesText
    rw [returns_bind_of_returns fun _ => returns_pure _, returns_each]
    exact forall₂_congr fun t hmem => returns_table_iff (ht t hmem)
  · intro text h
    obtain ⟨rendered, hrendered, h⟩ := outcome_bind_ok.mp h
    cases h
    have hsep : Scans "\n\n" ∅ False := Inert.scans (by decide) (by decide)
    have heach : ScansEach Table.calls (fun t => t.UsesTemplate ∨ t.MentionsTemplate) tables
        rendered :=
      forall₂_of_outcome_each hrendered fun t hmem _ htext => scans_table (ht t hmem) htext
    have hsql : "sql" ∉ ⋃ t ∈ tables, t.calls := by
      simp only [Set.mem_iUnion, not_exists]
      exact fun t hmem hcalls => mem_calls_ne_sql (ht t hmem) hcalls rfl
    obtain ⟨names, hpairwise, hnames, himports⟩ :=
      imports_bundle (scans_intercalate hsep heach) hsql
    refine ⟨names, rendered, hpairwise, fun name => ?_, outcome_each_iff.mp hrendered, ?_⟩
    · rw [hnames]
      simp
    · simp only [and_or_left, exists_or] at himports
      exact himports

end Emit

/-- Lines of orders, with texts that look like calls. -/
def orderLines : Table where
  name := "order_lines"
  columns := ⟨[
    ("order_id", .plain (.plain .integer)),
    ("item_id", .plain (.plain .uuid)),
    ("label", { Column.plain (.plain (.string (some 40))) with
      default := some (.str "it's upper(x)")
      comment := some "lower(label) is indexed"
      computed_alone := rfl })], by decide⟩
  primaryKey := ["order_id", "item_id"]
  uniques := [["label"]]
  checks := [⟨"label_given", "length(label) > 0"⟩]
  comment := none

theorem Column.tame_plain {k : Kind} (hk : k.Registered) :
    (Column.plain (.plain k)).Tame :=
  ⟨⟨hk, rfl⟩, nofun, nofun, nofun⟩

theorem tables_imports_orderLines :
    (∀ t ∈ [orderLines], t.Tame) ∧ ∃ text names rendered,
      (Emit.tablesText [orderLines] .drizzle none).outcome = .ok text ∧
      (∀ name, name ∈ names ↔
        name ∈ ["check", "integer", "pgTable", "primaryKey", "unique", "uuid", "varchar"]) ∧
      Emit.Imports text names ((∃ t ∈ [orderLines], t.UsesTemplate) ∨
        ∃ t ∈ [orderLines], t.MentionsTemplate) rendered := by
  have hcolumns : ∀ e ∈ orderLines.columns.entries, Emit.Lettered e.1 ∧ e.2.Tame := by
    refine List.forall_mem_cons.mpr ⟨⟨by decide, Column.tame_plain trivial⟩, ?_⟩
    refine List.forall_mem_cons.mpr ⟨⟨by decide, Column.tame_plain trivial⟩, ?_⟩
    refine List.forall_mem_singleton.mpr ⟨by decide, ⟨⟨trivial, rfl⟩, ?_, ?_, nofun⟩⟩
    · intro v hv
      cases hv
      exact .inr rfl
    · intro s hs
      cases hs
      decide
  have htame : ∀ t ∈ [orderLines], t.Tame :=
    List.forall_mem_singleton.mpr ⟨by decide, hcolumns,
      List.forall_mem_singleton.mpr ⟨by decide, by decide⟩, nofun⟩
  obtain ⟨hreturns, himports⟩ := Emit.tables_imports htame none
  have hkey : orderLines.resolveKey = .ok ["order_id", "item_id"] := rfl
  obtain ⟨text, htext⟩ := hreturns.mpr (List.forall_mem_singleton.mpr ⟨_, hkey⟩)
  obtain ⟨names, rendered, -, hnames, -, htemplate⟩ := himports text htext
  refine ⟨htame, text, names, rendered, htext, fun name => ?_, htemplate⟩
  rw [hnames]
  simp only [List.mem_singleton, exists_eq_left, Table.calls, Set.mem_ofPred_eq, hkey]
  simp [orderLines, Column.plain, ColumnType.plain, Kind.builder]
  grind

/-- A table without checks and computed columns whose comment shows a
template. -/
def notesTable : Table where
  name := "notes"
  columns := ⟨[("id", .plain (.plain .integer))], by decide⟩
  primaryKey := ["id"]
  uniques := []
  checks := []
  comment := some "Times are sql\x60now()\x60"

/-- The function for templates is imported for the comment. -/
theorem notes_import_template :
    notesTable.Tame ∧ ¬ notesTable.UsesTemplate ∧ ∃ names body,
      (Emit.tablesText [notesTable] .drizzle none).outcome = .ok
        (lines ["import \x7b sql \x7d from 'drizzle-orm';",
          Emit.importLine "drizzle-orm/pg-core" names] ++ "\n\n" ++ body) := by
  have htame : notesTable.Tame := by
    refine ⟨by decide, List.forall_mem_singleton.mpr ⟨by decide, Column.tame_plain trivial⟩,
      nofun, fun s hs => ?_⟩
    cases hs
    decide
  have huses : ¬ notesTable.UsesTemplate := by
    simp [Table.UsesTemplate, notesTable, Column.plain, isGiven]
  have hmentions : notesTable.MentionsTemplate := .inl ⟨_, rfl, by decide⟩
  have hreturns : (Emit.tableText notesTable .drizzle none).Returns :=
    (Emit.returns_table_iff htame).mpr ⟨["id"], rfl⟩
  obtain ⟨text, htext⟩ := hreturns
  have hfile : (Emit.tablesText [notesTable] .drizzle none).outcome =
      .ok (Emit.Drizzle.bundle [text]) :=
    outcome_bind_ok.mpr ⟨[text], outcome_each_iff.mpr (.cons htext .nil), rfl⟩
  have hscans : Emit.Scans (paragraphs [text]) notesTable.calls
      (notesTable.UsesTemplate ∨ notesTable.MentionsTemplate) :=
    (Emit.scans_table htame htext).congr (by simp [paragraphs]) rfl Iff.rfl
  obtain ⟨names, -, -, first, hfirst, hbundle⟩ :=
    Emit.imports_bundle hscans fun h => Emit.mem_calls_ne_sql htame h rfl
  obtain ⟨rfl, -⟩ := hfirst.resolve_right fun hnone => hnone.2 (.inr hmentions)
  exact ⟨htame, huses, names, _, hfile.trans (congrArg _ hbundle)⟩

end Polyschema
