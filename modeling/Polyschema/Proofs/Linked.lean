/-
Polyschema.Proofs.Linked — the entities of a document and the links
between them.

Tables are found by their names among all tables of a document, those
that come later included. Where no two tables have one name, what a name
stands for does not depend on the order of the document.

* `Document.read_eq_ok_iff` — what is read is made item by item, each
  entity among the tables of all.
* `Side.Stands`, `Entity.Describes` — what a side stands for, and what an
  entity has of its item.
* `Document.Reordered` — the same document with its entities in another
  order.
* `read_linked` — the entities of a document are linked by name, and come
  out alike in every order.
-/
import Mathlib.Data.List.Nodup
import Polyschema.Proofs.Document

namespace Polyschema

open Polyschema.Noted

/-! ## Lists side by side -/

section

variable {α β γ : Type} {R : α → β → Prop} {S : β → γ → Prop}

/-- Two lists stand side by side by way of a third. -/
theorem forall₂_comp_iff {as : List α} {cs : List γ} :
    (∃ bs, List.Forall₂ R as bs ∧ List.Forall₂ S bs cs) ↔
      List.Forall₂ (fun a c => ∃ b, R a b ∧ S b c) as cs := by
  constructor
  · rintro ⟨bs, hr, hs⟩
    induction hr generalizing cs with
    | nil => cases hs; exact .nil
    | cons hab _ ih =>
      cases hs with
      | cons hbc hs => exact .cons ⟨_, hab, hbc⟩ (ih hs)
  · intro h
    induction h with
    | nil => exact ⟨[], .nil, .nil⟩
    | cons hac _ ih =>
      obtain ⟨b, hab, hbc⟩ := hac
      obtain ⟨bs, hr, hs⟩ := ih
      exact ⟨b :: bs, .cons hab hr, .cons hbc hs⟩

/-- What stands beside a list goes along when the list is put in another
order. -/
theorem forall₂_of_perm {as as' : List α} (h : as'.Perm as) {bs : List β}
    (hr : List.Forall₂ R as bs) :
    ∃ bs', List.Forall₂ R as' bs' ∧ (as'.zip bs').Perm (as.zip bs) := by
  induction h generalizing bs with
  | nil => exact ⟨bs, hr, .refl _⟩
  | cons a _ ih =>
    cases hr with
    | cons hab hr =>
      obtain ⟨bs', hr', hzip⟩ := ih hr
      exact ⟨_ :: bs', .cons hab hr', hzip.cons _⟩
  | swap a a' rest =>
    cases hr with
    | cons hab hr =>
      cases hr with
      | cons hab' hr => exact ⟨_ :: _ :: _, .cons hab' (.cons hab hr), .swap _ _ _⟩
  | trans _ _ ih ih' =>
    obtain ⟨bs', hr', hzip'⟩ := ih' hr
    obtain ⟨bs'', hr'', hzip''⟩ := ih hr'
    exact ⟨bs'', hr'', hzip''.trans hzip'⟩

/-- A list is in the order of what stands beside it. -/
theorem perm_of_zip_perm {as as' : List α} {bs bs' : List β} (hr : List.Forall₂ R as bs)
    (hr' : List.Forall₂ R as' bs') (h : (as'.zip bs').Perm (as.zip bs)) : bs'.Perm bs := by
  have hmap := h.map Prod.snd
  rwa [List.map_snd_zip hr'.length_eq.ge, List.map_snd_zip hr.length_eq.ge] at hmap

end

/-! ## Drafts and their tables -/

namespace Document

/-- Tables are made of drafts with ids of their own. -/
theorem withTables_eq_ok_iff {seen : List String} {ds : List EntityDraft}
    {ps : List (EntityDraft × Table)} :
    withTables seen ds = .ok ps ↔ (ds.map (·.id)).Nodup ∧ (∀ d ∈ ds, d.id ∉ seen) ∧
      List.Forall₂ (fun d p => p.1 = d ∧ d.table = .ok p.2) ds ps := by
  constructor
  · intro h
    obtain ⟨-, hnodup, hseen⟩ := withTables_ids h
    refine ⟨hnodup, hseen, ?_⟩
    clear hnodup hseen
    induction ds generalizing seen ps with
    | nil => cases h; exact .nil
    | cons d rest ih =>
      obtain ⟨-, t, ps, ht, hps, rfl⟩ := withTables_cons_ok h
      exact .cons ⟨rfl, ht⟩ (ih hps)
  · rintro ⟨hnodup, hseen, h⟩
    induction h generalizing seen with
    | nil => rfl
    | @cons d p rest ps hp _ ih =>
      obtain ⟨d', t⟩ := p
      obtain ⟨rfl, ht⟩ := hp
      rw [List.map_cons, List.nodup_cons] at hnodup
      rw [List.forall_mem_cons] at hseen
      have hrest : withTables (d'.id :: seen) rest = .ok ps := by
        refine ih hnodup.2 fun e he => ?_
        rw [List.mem_cons, not_or]
        exact ⟨fun heq => hnodup.1 (heq ▸ List.mem_map_of_mem he), hseen.2 e he⟩
      have hnew : ¬ seen.contains d'.id = true := by simpa using hseen.1
      unfold withTables
      dsimp only
      rw [if_neg hnew]
      exact bind_eq_ok.mpr ⟨t, ht, bind_eq_ok.mpr ⟨ps, hrest, rfl⟩⟩

end Document

theorem EntityDraft.entity_table {tables : List Table} {d : EntityDraft} {table : Table}
    {e : Entity} (h : d.entity tables table = .ok e) : e.table = table := by
  obtain ⟨_, _, h⟩ := bind_eq_ok.mp h
  obtain ⟨_, _, h⟩ := bind_eq_ok.mp h
  obtain ⟨_, _, h⟩ := bind_eq_ok.mp h
  cases h
  rfl

namespace Document

/-- The entities of a document are made draft by draft, each among the
tables of all. -/
theorem build_eq_ok_iff {d : Document} {es : List Entity} :
    d.build = .ok es ↔ (d.entities.map (·.id)).Nodup ∧
      List.Forall₂ (fun draft e => draft.table = .ok e.table ∧
        draft.entity (es.map (·.table)) e.table = .ok e) d.entities es := by
  have hbuild : d.build = .ok es ↔ ∃ ps, withTables [] d.entities = .ok ps ∧
      List.Forall₂ (fun p e => p.1.entity (ps.map Prod.snd) p.2 = .ok e) ps es := by
    rw [build, bind_eq_ok]
    simp only [mapM_eq_ok]
  -- the tables beside the drafts are those of the entities
  have htables {tables : List Table} {ps : List (EntityDraft × Table)}
      (h : List.Forall₂ (fun p e => p.1.entity tables p.2 = .ok e) ps es) :
      es.map (·.table) = ps.map Prod.snd :=
    map_eq_of_forall₂ h EntityDraft.entity_table
  have hown : (fun (draft : EntityDraft) (e : Entity) => draft.table = .ok e.table ∧
      draft.entity (es.map (·.table)) e.table = .ok e) = fun draft e => ∃ p : EntityDraft × Table,
      (p.1 = draft ∧ draft.table = .ok p.2) ∧ p.1.entity (es.map (·.table)) p.2 = .ok e := by
    funext draft e
    refine propext ⟨fun ⟨ht, he⟩ => ⟨(draft, e.table), ⟨rfl, ht⟩, he⟩, ?_⟩
    rintro ⟨⟨_, t⟩, ⟨rfl, ht⟩, he⟩
    obtain rfl := EntityDraft.entity_table he
    exact ⟨ht, he⟩
  rw [hbuild, hown, ← forall₂_comp_iff]
  constructor
  · rintro ⟨ps, hps, hes⟩
    obtain ⟨hnodup, -, hdrafts⟩ := withTables_eq_ok_iff.mp hps
    exact ⟨hnodup, ps, hdrafts, htables hes ▸ hes⟩
  · rintro ⟨hnodup, ps, hdrafts, hes⟩
    exact ⟨ps, withTables_eq_ok_iff.mpr ⟨hnodup, fun _ _ => List.not_mem_nil, hdrafts⟩,
      htables hes ▸ hes⟩

/-! ## Items of a document -/

/-- An entity made of an item of a document, among tables. -/
def Made (tables : List Table) (item : Part) (e : Entity) : Prop :=
  ∃ draft, modelOf EntityDraft.ofFields item = .done draft ∧ draft.table = .ok e.table ∧
    draft.entity tables e.table = .ok e

/-- The settings that raw data gives, with no field that a document does
not have. -/
def GivesSettings (raw : Part) (c : Config) : Prop :=
  ∃ f, raw.entries? = some f ∧ (∀ e ∈ f, ∃ u, Fields.stray ["entities", "config"] e = .done u) ∧
    f.optional "config" Config.standard Config.ofPart = .done c

theorem ofPart_eq_done_iff {raw : Part} {d : Document} :
    Document.ofPart raw = .done d ↔ GivesSettings raw d.config ∧ ∃ items,
      items? raw = some items ∧ d.entities ≠ [] ∧
      List.Forall₂ (fun item draft => modelOf EntityDraft.ofFields item = .done draft)
        items d.entities := by
  have hentities {f : Fields} {ds : List EntityDraft} :
      f.required "entities" (Intake.someListOf (modelOf EntityDraft.ofFields)) = .done ds ↔
        ∃ items, (f.get? "entities").bind Part.sequence? = some items ∧ ds ≠ [] ∧
          List.Forall₂ (fun item draft => modelOf EntityDraft.ofFields item = .done draft)
            items ds := by
    rw [Fields.required_eq_done]
    simp only [Intake.someListOf, Reading.check_eq_done, listOf_eq_done, Bool.not_eq_true',
      List.isEmpty_eq_false_iff, Option.bind_eq_some_iff]
    exact ⟨fun ⟨p, hp, ⟨items, hi, hds⟩, hne⟩ => ⟨items, ⟨p, hp, hi⟩, hne, hds⟩,
      fun ⟨items, ⟨p, hp, hi⟩, hne, hds⟩ => ⟨p, hp, ⟨items, hi, hds⟩, hne⟩⟩
  unfold Document.ofPart
  rw [modelOf_eq_done]
  simp only [Document.ofFields, Fields.closed_eq_done, Reading.seq_eq_done, Reading.map_eq_done,
    Reading.inField_eq_done, hentities]
  constructor
  · rintro ⟨f, hf, ⟨_, c, ⟨ds, ⟨items, hi, hne, hds⟩, rfl⟩, hc, rfl⟩, hclosed⟩
    exact ⟨⟨f, hf, hclosed, hc⟩, items, by simp [items?, hf, hi], hne, hds⟩
  · rintro ⟨⟨f, hf, hclosed, hc⟩, items, hi, hne, hds⟩
    have hi : (f.get? "entities").bind Part.sequence? = some items := by
      simpa [items?, hf] using hi
    exact ⟨f, hf, ⟨_, _, ⟨_, ⟨items, hi, hne, hds⟩, rfl⟩, hc, rfl⟩, hclosed⟩

theorem read_eq_ok {raw : Part} {es : List Entity} {c : Config} :
    (Document.read raw).outcome = .ok (es, c) ↔
      ∃ d, Document.ofPart raw = .done d ∧ d.build = .ok es ∧ c = d.config := by
  refine ⟨read_ok, ?_⟩
  rintro ⟨d, hd, hb, rfl⟩
  unfold Document.read
  refine outcome_bind_ok.mpr ⟨d, by rw [hd]; rfl, outcome_bind_ok.mpr ⟨es, hb, ?_⟩⟩
  rfl

/-- What is read is made item by item, each entity among the tables of
all, and no two have one id. -/
theorem read_eq_ok_iff {raw : Part} {es : List Entity} {c : Config} :
    (Document.read raw).outcome = .ok (es, c) ↔ GivesSettings raw c ∧ ∃ items,
      items? raw = some items ∧ items ≠ [] ∧
      List.Forall₂ (Made (es.map (·.table))) items es ∧ (es.map (·.id)).Nodup := by
  rw [read_eq_ok]
  simp only [ofPart_eq_done_iff, build_eq_ok_iff]
  constructor
  · rintro ⟨d, ⟨hsettings, items, hi, hne, hds⟩, ⟨hnodup, hes⟩, rfl⟩
    have hids : es.map (·.id) = d.entities.map (·.id) :=
      map_eq_of_forall₂ hes fun h => EntityDraft.entity_id h.2
    refine ⟨hsettings, items, hi, ?_, forall₂_comp_iff.mp ⟨_, hds, hes⟩, hids ▸ hnodup⟩
    rintro rfl
    exact hne (List.forall₂_nil_left_iff.mp hds)
  · rintro ⟨hsettings, items, hi, hne, hes, hnodup⟩
    obtain ⟨ds, hds, hes⟩ := forall₂_comp_iff.mpr hes
    have hids : es.map (·.id) = ds.map (·.id) :=
      map_eq_of_forall₂ hes fun h => EntityDraft.entity_id h.2
    refine ⟨⟨ds, c⟩, ⟨hsettings, items, hi, ?_, hds⟩, ⟨hids ▸ hnodup, hes⟩, rfl⟩
    rintro rfl
    exact hne (List.forall₂_nil_right_iff.mp hds)

end Document

/-! ## What a document gives -/

/-- What is given for a field of a piece of raw data. -/
def Part.field? (p : Part) (name : String) : Option Part := p.entries?.bind (·.get? name)

/-- The text in a field, unless it is left out, null or empty. -/
def Part.givenText? (p : Part) (name : String) : Option String :=
  match p.field? name with
  | some (.data (.str s)) => if s = "" then none else some s
  | _ => none

/-- The items that are listed in a field; none where it is left out. -/
def Part.listed (p : Part) (name : String) : List Part :=
  ((p.field? name).bind Part.sequence?).getD []

theorem Fields.optional_eq_done {α : Type} {f : Fields} {name : String} {otherwise : α}
    {read : Part → Reading α} {a : α} :
    f.optional name otherwise read = .done a ↔
      f.get? name = none ∧ a = otherwise ∨ ∃ p, f.get? name = some p ∧ read p = .done a := by
  unfold Fields.optional
  cases f.get? name with
  | none => simp [eq_comm]
  | some p => simp

theorem nullable_text_eq_done {p : Part} {o : Option String}
    (h : Intake.nullable Intake.text p = .done o) :
    p = .null ∧ o = none ∨ ∃ s, p = .str s ∧ o = some s := by
  unfold Intake.nullable at h
  split at h
  next hnull =>
    cases h
    unfold Part.isNull at hnull
    split at hnull
    · exact .inl ⟨rfl, rfl⟩
    · cases hnull
  · obtain ⟨s, hs, rfl⟩ := Reading.map_eq_done.mp h
    exact .inr ⟨s, text_eq_done hs, rfl⟩

/-- An optional text is what is given, where it is not empty. -/
theorem Fields.note_eq_done {p : Part} {f : Fields} (hf : p.entries? = some f) {name : String}
    {o : Option String} (h : f.note name = .done o) :
    o.filter (· != "") = p.givenText? name := by
  have hfield : p.field? name = f.get? name := by rw [Part.field?, hf]; rfl
  unfold Part.givenText?
  rw [hfield]
  obtain ⟨hnone, rfl⟩ | ⟨q, hq, hread⟩ :=
    Fields.optional_eq_done.mp (Reading.inField_eq_done.mp h)
  · rw [hnone]
    rfl
  · rw [hq]
    obtain ⟨rfl, rfl⟩ | ⟨s, rfl, rfl⟩ := nullable_text_eq_done hread
    · rfl
    · by_cases hs : s = "" <;> simp [hs, Option.filter, Part.str]

/-- The items of an optional list are what is listed. -/
theorem Fields.optionalList_eq_done {α : Type} {p : Part} {f : Fields}
    (hf : p.entries? = some f) {name : String} {read : Part → Reading α} {as : List α}
    (h : f.optional name [] (Intake.listOf read) = .done as) :
    List.Forall₂ (fun item a => read item = .done a) (p.listed name) as := by
  have hfield : p.field? name = f.get? name := by rw [Part.field?, hf]; rfl
  unfold Part.listed
  rw [hfield]
  obtain ⟨hnone, rfl⟩ | ⟨q, hq, hread⟩ := Fields.optional_eq_done.mp h
  · rw [hnone]
    exact .nil
  · obtain ⟨items, hitems, hall⟩ := listOf_eq_done.mp hread
    rw [hq, Option.bind_some, hitems]
    exact hall

/-! ## Sides -/

/-- What a side stands for by a name among entities: the table of that
name, or the name alone where none of them has it. -/
structure Side.Stands (es : List Entity) (name : String) (s : Side) : Prop where
  linked : ∀ e ∈ es, e.table.name = name → s = .linked e.table
  named : (∀ e ∈ es, e.table.name ≠ name) → s = .named name

/-- Where no two tables have one name, a side stands for the table of its
name. -/
theorem Side.among_stands {es : List Entity} (hn : (es.map (·.table.name)).Nodup)
    (name : String) : (Side.among (es.map (·.table)) name).Stands es name := by
  unfold Side.among
  constructor
  · rintro e he rfl
    split
    next t ht =>
      obtain ⟨e', he', rfl⟩ := List.mem_map.mp (List.mem_reverse.mp (List.mem_of_find?_eq_some ht))
      have hname : e'.table.name = e.table.name := by simpa using List.find?_some ht
      rw [List.inj_on_of_nodup_map hn he' he hname]
    next hnone =>
      have hmem : e.table ∈ (es.map (·.table)).reverse :=
        List.mem_reverse.mpr (List.mem_map_of_mem he)
      exact absurd (List.find?_eq_none.mp hnone _ hmem) (by simp)
  · intro hnot
    split
    next t ht =>
      obtain ⟨e', he', rfl⟩ := List.mem_map.mp (List.mem_reverse.mp (List.mem_of_find?_eq_some ht))
      exact absurd (by simpa using List.find?_some ht) (hnot e' he')
    · rfl

/-- A name stands for one thing at most. -/
theorem Side.Stands.unique {es : List Entity} {name : String} {s s' : Side}
    (h : s.Stands es name) (h' : s'.Stands es name) : s = s' := by
  by_cases hmem : ∃ e ∈ es, e.table.name = name
  · obtain ⟨e, he, hname⟩ := hmem
    rw [h.linked e he hname, h'.linked e he hname]
  · have hnot : ∀ e ∈ es, e.table.name ≠ name := fun e he hname => hmem ⟨e, he, hname⟩
    rw [h.named hnot, h'.named hnot]

theorem Side.Stands.of_perm {es es' : List Entity} (hp : es'.Perm es) {name : String} {s : Side}
    (h : s.Stands es name) : s.Stands es' name :=
  ⟨fun e he => h.linked e (hp.mem_iff.mp he), fun hnot => h.named fun e he =>
    hnot e (hp.mem_iff.mpr he)⟩

/-- What names stand for does not depend on the order of the tables. -/
theorem Side.among_perm {es es' : List Entity} (hp : es'.Perm es)
    (hn : (es.map (·.table.name)).Nodup) :
    Side.among (es'.map (·.table)) = Side.among (es.map (·.table)) := by
  have hn' : (es'.map (·.table.name)).Nodup := (hp.map _).nodup_iff.mpr hn
  funext name
  exact (Side.among_stands hn' name).unique ((Side.among_stands hn name).of_perm hp)

/-! ## Entities and their items -/

/-- What a relationship has of its item: each side stands for the name
that is given for it, the local side for `home` where none is given. -/
structure Relationship.Describes (es : List Entity) (home : String) (item : Part)
    (r : Relationship) : Prop where
  localSide : r.localSide.Stands es ((item.givenText? "local").getD home)
  foreignSide : ∃ name, item.field? "foreign" = some (.str name) ∧ r.foreignSide.Stands es name

/-- What an entity has of its item: the id, the relationships in their
order, and its own table for all indexes and constraints. -/
structure Entity.Describes (es : List Entity) (item : Part) (e : Entity) : Prop where
  id : item.field? "id" = some (.str e.id)
  relationships : List.Forall₂ (Relationship.Describes es e.table.name)
    (item.listed "relationships") e.relationships
  indexes : ∀ i ∈ e.indexes, i.table = e.table.name
  constraints : ∀ c ∈ e.constraints, c.table = e.table.name

/-- A draft of a relationship has the names that are given for its
sides. -/
theorem RelationshipDraft.ofFields_sides {item : Part} {d : RelationshipDraft}
    (h : modelOf RelationshipDraft.ofFields item = .done d) :
    d.localSide.filter (· != "") = item.givenText? "local" ∧
      item.field? "foreign" = some (.str d.foreignSide) := by
  obtain ⟨f, hf, h⟩ := modelOf_eq_done.mp h
  replace h := (Fields.closed_eq_done.mp h).1
  simp only [Reading.seq_eq_done, Reading.map_eq_done] at h
  obtain ⟨_, _, ⟨_, _, ⟨_, _, ⟨_, _, ⟨_, _, ⟨_, _, ⟨_, _, rfl⟩, _, rfl⟩, hlocal, rfl⟩, hforeign,
    rfl⟩, _, rfl⟩, _, rfl⟩, _, rfl⟩ := h
  refine ⟨Fields.note_eq_done hf hlocal, ?_⟩
  obtain ⟨p, hp, htext⟩ := Fields.required_eq_done.mp (Reading.inField_eq_done.mp hforeign)
  rw [Part.field?, hf, Option.bind_some, hp, text_eq_done htext]

/-- The relationships of a draft are made of the listed items. -/
theorem EntityDraft.ofFields_relationships {item : Part} {d : EntityDraft}
    (h : modelOf EntityDraft.ofFields item = .done d) :
    List.Forall₂ (fun item r => modelOf RelationshipDraft.ofFields item = .done r)
      (item.listed "relationships") d.relationships := by
  obtain ⟨f, hf, h⟩ := modelOf_eq_done.mp h
  replace h := (Fields.closed_eq_done.mp h).1
  -- the relationships are the last field but one
  obtain ⟨_, _, hfront, _, rfl⟩ := Reading.seq_eq_done.mp h
  clear h
  obtain ⟨_, _, hbefore, hlist, rfl⟩ := Reading.seq_eq_done.mp hfront
  have hlisted := Fields.optionalList_eq_done hf (Reading.inField_eq_done.mp hlist)
  clear hlist hfront
  -- the fields before them leave them as they are
  iterate 13
    obtain ⟨_, _, hbefore', _, rfl⟩ := Reading.seq_eq_done.mp hbefore
    clear hbefore
    rename' hbefore' => hbefore
  obtain ⟨_, _, rfl⟩ := Reading.map_eq_done.mp hbefore
  exact hlisted

/-- The sides of a relationship are what its draft names. -/
theorem RelationshipDraft.relationship_sides {entity home : String} {side : String → Side}
    {d : RelationshipDraft} {r : Relationship}
    (h : d.relationship entity home side = .ok r) :
    r.localSide = side ((d.localSide.filter (· != "")).getD home) ∧
      r.foreignSide = side d.foreignSide := by
  obtain ⟨_, _, h⟩ := bind_eq_ok.mp h
  obtain ⟨_, _, h⟩ := bind_eq_ok.mp h
  replace h := EntityDraft.piece_eq_ok.mp h
  unfold Relationship.assemble at h
  simp only [Reading.seq_eq_done, Reading.map_eq_done, Reading.inField_eq_done] at h
  obtain ⟨_, _, ⟨_, _, ⟨_, _, ⟨_, _, ⟨_, _, ⟨_, _, ⟨_, _, rfl⟩, _, rfl⟩, hl, rfl⟩, hf, rfl⟩,
    _, rfl⟩, _, rfl⟩, _, rfl⟩ := h
  cases hl
  cases hf
  exact ⟨rfl, rfl⟩

theorem IndexDraft.index_table {entity table : String} {d : IndexDraft} {i : Index}
    (h : d.index entity table = .ok i) : i.table = table := by
  have h := EntityDraft.piece_eq_ok.mp h
  unfold Index.assemble at h
  simp only [Reading.seq_eq_done, Reading.map_eq_done, Reading.inField_eq_done] at h
  obtain ⟨_, _, ⟨_, _, ⟨_, _, ⟨_, _, ⟨_, _, ⟨_, _, rfl⟩, ht, rfl⟩, _, rfl⟩, _, rfl⟩, _, rfl⟩,
    _, rfl⟩ := h
  cases ht
  rfl

theorem ConstraintDraft.constraint_table {entity table : String} {d : ConstraintDraft}
    {c : Constraint} (h : d.constraint entity table = .ok c) : c.table = table := by
  have h := EntityDraft.piece_eq_ok.mp h
  unfold Constraint.assemble at h
  simp only [Reading.seq_eq_done, Reading.map_eq_done, Reading.inField_eq_done] at h
  obtain ⟨_, _, ⟨_, _, ⟨_, _, ⟨_, _, rfl⟩, ht, rfl⟩, _, rfl⟩, _, rfl⟩ := h
  cases ht
  rfl

/-- An entity that is made of an item has what the item gives, linked by
name. -/
theorem Document.Made.describes {es : List Entity} (hn : (es.map (·.table.name)).Nodup)
    {item : Part} {e : Entity} (h : Made (es.map (·.table)) item e) :
    Entity.Describes es item e := by
  obtain ⟨draft, hdraft, _, he⟩ := h
  have hid : item.field? "id" = some (.str draft.id) := by
    obtain ⟨f, hf, hfields⟩ := modelOf_eq_done.mp hdraft
    rw [Part.field?, hf, Option.bind_some, EntityDraft.ofFields_id hfields]
  have hitems := EntityDraft.ofFields_relationships hdraft
  obtain ⟨links, hlinks, he⟩ := bind_eq_ok.mp he
  obtain ⟨indexes, hindexes, he⟩ := bind_eq_ok.mp he
  obtain ⟨constraints, hconstraints, he⟩ := bind_eq_ok.mp he
  have hown := Except.ok.inj he
  rw [← hown]
  refine ⟨hid, ?_, fun i hi => ?_, fun c hc => ?_⟩
  · refine (forall₂_comp_iff.mp ⟨_, hitems, mapM_eq_ok.mp hlinks⟩).imp ?_
    rintro relation r ⟨d, hd, hr⟩
    obtain ⟨hlocal, hforeign⟩ := RelationshipDraft.ofFields_sides hd
    obtain ⟨hl, hf⟩ := RelationshipDraft.relationship_sides hr
    exact ⟨hl ▸ hlocal ▸ Side.among_stands hn _, _, hforeign, hf ▸ Side.among_stands hn _⟩
  · obtain ⟨d, _, hd⟩ := mem_of_mapM hindexes hi
    exact IndexDraft.index_table hd
  · obtain ⟨d, _, hd⟩ := mem_of_mapM hconstraints hc
    exact ConstraintDraft.constraint_table hd

/-! ## Documents in another order -/

/-- A document and one that says the same, but for the order of its
entities: `items` in the first, `items'` in the second. -/
structure Document.Reordered (raw raw' : Part) (items items' : List Part) : Prop where
  listed : Document.items? raw = some items
  relisted : Document.items? raw' = some items'
  perm : items'.Perm items
  keys : raw'.entries?.map (List.map Prod.fst) = raw.entries?.map (List.map Prod.fst)
  others : ∀ name, name ≠ "entities" → raw'.field? name = raw.field? name

/-- The settings do not depend on the order of the entities. -/
theorem Document.Reordered.givesSettings {raw raw' : Part} {items items' : List Part}
    (h : Reordered raw raw' items items') {c : Config} (hc : GivesSettings raw c) :
    GivesSettings raw' c := by
  obtain ⟨f, hf, hclosed, hconfig⟩ := hc
  have hkeys := h.keys
  rw [hf, Option.map_some, Option.map_eq_some_iff] at hkeys
  obtain ⟨f', hf', hkeys⟩ := hkeys
  have hfield : Fields.get? f' "config" = f.get? "config" := by
    simpa [Part.field?, hf, hf'] using h.others "config" (by decide)
  refine ⟨f', hf', fun e' he' => ?_, ?_⟩
  · have hmem : e'.1 ∈ f.map Prod.fst := hkeys ▸ List.mem_map_of_mem he'
    obtain ⟨e, he, hkey⟩ := List.mem_map.mp hmem
    have hstray := hclosed e he
    unfold Fields.stray at hstray ⊢
    rwa [← hkey]
  · rw [Fields.optional_eq_done, hfield, ← Fields.optional_eq_done]
    exact hconfig

/-- The entities of a document, no two tables of which have one name: one
for each item in order, with ids of their own, linked by name and with
their own table for indexes and constraints. The document with its items
in another order is read too, to the same entities beside the same items
and the same settings. -/
theorem read_linked {raw : Part} {es : List Entity} {c : Config}
    (h : (Document.read raw).outcome = .ok (es, c)) (hn : (es.map (·.table.name)).Nodup) :
    ∃ items, Document.items? raw = some items ∧
      List.Forall₂ (Entity.Describes es) items es ∧ (es.map (·.id)).Nodup ∧
      ∀ raw' items', Document.Reordered raw raw' items items' →
        ∃ es', (Document.read raw').outcome = .ok (es', c) ∧ es'.length = items'.length ∧
          (items'.zip es').Perm (items.zip es) := by
  obtain ⟨hsettings, items, hitems, hne, hmade, hids⟩ := Document.read_eq_ok_iff.mp h
  refine ⟨items, hitems, hmade.imp fun _ _ => Document.Made.describes hn, hids, ?_⟩
  intro raw' items' hr
  obtain ⟨es', hmade', hzip⟩ := forall₂_of_perm hr.perm hmade
  have hperm : es'.Perm es := perm_of_zip_perm hmade hmade' hzip
  have hsame : Document.Made (es'.map (·.table)) = Document.Made (es.map (·.table)) := by
    funext item e
    simp only [Document.Made, EntityDraft.entity, Side.among_perm hperm hn]
  refine ⟨es', Document.read_eq_ok_iff.mpr ⟨hr.givesSettings hsettings, items', hr.relisted, ?_,
    hsame ▸ hmade', (hperm.map _).nodup_iff.mpr hids⟩, hmade'.length_eq.symm, hzip⟩
  rintro rfl
  exact hne hr.perm.nil_eq.symm

/-- Orders with a buyer and a depot, before users with orders. No entity
has the table of depots. -/
def linkedItems : List Value :=
  let relation (name kind foreign column : String) : Value :=
    .record [("name", .str name), ("type", .str kind), ("foreign", .str foreign),
      ("foreign_key", .record [("local_column", .str column)])]
  let entity (id : String) (relations : List Value) : Value :=
    .record [("id", .str id), ("columns", .record [("id", .record [("type", .str "uuid"),
      ("primary", .bool true)])]), ("relationships", .list relations)]
  [entity "order" [relation "buyer" "many-to-one" "users" "buyer_id",
      relation "depot" "many-to-one" "depots" "depot_id"],
    entity "user" [relation "orders" "one-to-many" "orders" "id"]]

def linkedDocument (items : List Value) : Part := .data (.record [("entities", .list items)])

theorem linkedDocument_reordered : Document.Reordered (linkedDocument linkedItems)
    (linkedDocument linkedItems.reverse) (linkedItems.map .data)
    (linkedItems.reverse.map .data) := by
  refine ⟨rfl, rfl, linkedItems.reverse_perm.map _, rfl, fun name hname => ?_⟩
  have hother : ∀ items, (linkedDocument items).field? name = none := fun items => by
    have hkey : ¬ "entities" = name := Ne.symm hname
    simp [linkedDocument, Value.record, Part.field?, Part.entries?, Fields.get?,
      Value.asString?, hkey]
  rw [hother, hother]

/-- Orders and users read in either order are linked to each other, with
the depots by name alone. -/
theorem read_linked_orders :
    ∃ es c, (Document.read (linkedDocument linkedItems)).outcome = .ok (es, c) ∧
      (es.map (·.table.name)).Nodup ∧
      List.Forall₂ (Entity.Describes es) (linkedItems.map .data) es ∧
      ∃ es', (Document.read (linkedDocument linkedItems.reverse)).outcome = .ok (es', c) ∧
        ((linkedItems.reverse.map Part.data).zip es').Perm
          ((linkedItems.map Part.data).zip es) := by
  obtain ⟨es, c, h, hnames⟩ : ∃ es c,
      (Document.read (linkedDocument linkedItems)).outcome = .ok (es, c) ∧
        es.map (·.table.name) = ["orders", "users"] := ⟨_, _, rfl, rfl⟩
  have hn : (es.map (·.table.name)).Nodup := by
    rw [hnames]
    decide
  obtain ⟨items, hitems, hes, -, hreordered⟩ := read_linked h hn
  obtain rfl : linkedItems.map .data = items := Option.some.inj hitems
  obtain ⟨es', hes', -, hzip⟩ := hreordered _ _ linkedDocument_reordered
  exact ⟨es, c, h, hn, hes, es', hes', hzip⟩

end Polyschema
