/-
Polyschema.Proofs.Document — the columns that documents describe.

* `columnType_registered` — a document names registered kinds only, and
  its types have no modifiers of their own.
* `read_registered` — so every column of the entities of a document is
  registered: those of its tables, of the tables at the ends of its
  relationships and of its junctions.
* `build_ids`, `ofPart_items` — a document has one entity for each item of
  its raw data.
-/
import Polyschema.Document.Build
import Polyschema.Proofs.Linkage

namespace Polyschema

open Polyschema.Noted

/-! ## Types -/

/-- A type of a registered kind without modifiers. -/
structure ColumnType.Registered (t : ColumnType) : Prop where
  kind : t.kind.Registered
  bare : t.modifiers = []

theorem Tag.registered_of_bare? {tag : Tag} {k : Kind} (h : tag.bare? = some k) :
    k.Registered := by
  cases tag <;> cases h <;> exact trivial

/-- A kind that is only named is a registered one. -/
theorem makeNamed_registered {name : String} {t : ColumnType}
    (h : makeNamed name = .ok t) : t.Registered := by
  unfold makeNamed at h
  split at h
  · cases h
  · cases h; exact ⟨trivial, rfl⟩
  · cases h; exact ⟨trivial, rfl⟩
  next tag _ _ _ =>
    cases hb : tag.bare? with
    | none => rw [hb] at h; cases h
    | some k =>
      rw [hb] at h
      cases h
      exact ⟨Tag.registered_of_bare? hb, rfl⟩

/-- A list whose items are named by a text is of a registered kind. -/
theorem elementOf_registered {v : Value} {t : ColumnType}
    (h : elementOf (.data v) = .ok t) : t.Registered := by
  unfold elementOf at h
  split at h
  next h' => cases h'
  next name h' => exact makeNamed_registered h
  · cases h

/-- Plain data makes a type of a registered kind, unless the kind is
called the caller's own. -/
theorem makeTag_registered {tag : Tag} (hc : tag ≠ .custom)
    {bound : List (Option Argument)} (hb : ∀ a, some a ∈ bound → ∃ v, a = .data v)
    {t : ColumnType} (h : makeTag tag bound = .ok t) : t.Registered := by
  unfold makeTag at h
  split at h
  next max =>
    obtain ⟨_, _, h⟩ := bind_eq_ok.mp h
    cases h
    exact ⟨trivial, rfl⟩
  next precision scale =>
    obtain ⟨_, _, h⟩ := bind_eq_ok.mp h
    obtain ⟨_, _, h⟩ := bind_eq_ok.mp h
    obtain ⟨_, _, h⟩ := bind_eq_ok.mp h
    cases h
    exact ⟨trivial, rfl⟩
  next element =>
    obtain ⟨v, rfl⟩ := hb element (by simp)
    obtain ⟨e, he, h⟩ := bind_eq_ok.mp h
    cases h
    exact ⟨(elementOf_registered he).kind, rfl⟩
  next given =>
    split at h
    · obtain ⟨_, _, h⟩ := bind_eq_ok.mp h
      cases h
      exact ⟨trivial, rfl⟩
    · cases h
  · exact absurd rfl hc
  · split at h
    next k hk =>
      cases h
      exact ⟨Tag.registered_of_bare? hk, rfl⟩
    · cases h

/-- Arguments that are bound are among those that are given. -/
theorem Arguments.mem_bind? {parameters : List String} {placed : List Argument}
    {bound : List (Option Argument)}
    (h : Arguments.bind? parameters ⟨placed, []⟩ = some bound) {a : Argument}
    (ha : some a ∈ bound) : a ∈ placed := by
  unfold Arguments.bind? at h
  simp only at h
  split at h
  · cases h
  · rw [if_pos (by simp)] at h
    cases h
    rcases List.mem_append.mp ha with ha | ha
    · simpa using ha
    · obtain ⟨p, _, hp⟩ := List.mem_map.mp ha
      cases hp

/-- The names for which a document has arguments. -/
def argumentKinds : List String :=
  ["string", "varchar", "text", "decimal", "numeric", "enum", "array"]

theorem ofText?_argumentKinds : ∀ k ∈ argumentKinds, Tag.ofText? k ≠ some .custom := by
  decide

theorem arguments_of_not_mem {c : ColumnDraft} {kind : String}
    (h : kind ∉ argumentKinds) : c.arguments kind = [] := by
  simp only [argumentKinds, List.mem_cons, List.not_mem_nil, or_false, not_or] at h
  obtain ⟨h₁, h₂, h₃, h₄, h₅, h₆, h₇⟩ := h
  unfold ColumnDraft.arguments
  simp [h₁, h₂, h₃, h₄, h₅, h₆, h₇]

/-- A document names registered kinds only. A kind of the caller's own
wants a name, and no argument of a document becomes one. -/
theorem columnType_registered {c : ColumnDraft} {t : ColumnType}
    (h : c.columnType = .ok t) : t.Registered := by
  unfold ColumnDraft.columnType makeType at h
  simp only [Value.text] at h
  split at h
  · cases h
  next tag htag =>
    split at h
    · cases h
    next bound hbound =>
      by_cases hc : tag = .custom
      · -- no arguments stand for its parameters
        subst hc
        have hnone : c.arguments (Text.lower (Text.trim c.type)) = [] :=
          arguments_of_not_mem fun hm => ofText?_argumentKinds _ hm htag
        rw [hnone] at hbound
        cases hbound
        cases h
      · refine makeTag_registered hc (fun a ha => ?_) h
        obtain ⟨v, _, rfl⟩ := List.mem_map.mp (Arguments.mem_bind? hbound ha)
        exact ⟨v, rfl⟩

/-! ## Columns -/

theorem EntityDraft.piece_eq_ok {α : Type} {entity model : String} {r : Reading α} {a : α} :
    EntityDraft.piece entity model r = .ok a ↔ r = .done a := by
  cases r <;> simp [EntityDraft.piece]

theorem Column.ofParts_type {t : ColumnType}
    {nullable unique primary autoIncrement indexed : Bool} {generated : Option Generation}
    {generatedAs : Option String} {default : Option Value} {comment : Option String}
    {c : Column}
    (h : Column.ofParts t nullable unique primary autoIncrement indexed generated generatedAs
      default comment = .done c) : c.type = t := by
  unfold Column.ofParts at h
  split at h
  · cases h; rfl
  · cases h

/-- The column of a draft is registered. -/
theorem ColumnDraft.column_registered {entity : String} {d : ColumnDraft} {c : Column}
    (h : d.column entity = .ok c) : c.Registered := by
  obtain ⟨t, ht, h⟩ := bind_eq_ok.mp h
  obtain ⟨_, _, h⟩ := bind_eq_ok.mp h
  have htype := Column.ofParts_type (EntityDraft.piece_eq_ok.mp h)
  have hr := columnType_registered ht
  exact ⟨htype ▸ hr.kind, htype ▸ hr.bare⟩

namespace Keyed

variable {α β ε : Type} {p : β → Prop}

theorem forall_put {k : Keyed β} (hk : ∀ e ∈ k.entries, p e.2) (name : String) {b : β}
    (hb : p b) : ∀ e ∈ (k.put name b).entries, p e.2 := by
  show ∀ e ∈ putEntry name b k.entries, p e.2
  generalize k.entries = entries at hk
  induction entries with
  | nil => simpa [putEntry] using hb
  | cons e rest ih =>
    obtain ⟨n, a⟩ := e
    rw [List.forall_mem_cons] at hk
    unfold putEntry
    split
    · exact List.forall_mem_cons.mpr ⟨hb, hk.2⟩
    · exact List.forall_mem_cons.mpr ⟨hk.1, ih hk.2⟩

/-- What holds of all given parts holds of the parts by name. -/
theorem forall_ofList {l : List (String × β)} (h : ∀ e ∈ l, p e.2) :
    ∀ e ∈ (ofList l).entries, p e.2 := by
  suffices hfold : ∀ (k : Keyed β), (∀ e ∈ k.entries, p e.2) →
      ∀ e ∈ (l.foldl (fun k e => k.put e.1 e.2) k).entries, p e.2 from
    hfold .empty fun e he => (List.not_mem_nil he).elim
  induction l with
  | nil => exact fun k hk => hk
  | cons e rest ih =>
    rw [List.forall_mem_cons] at h
    exact fun k hk => ih h.2 _ (forall_put hk e.1 h.1)

theorem mem_names_put {k : Keyed β} {name n : String} {b : β} :
    n ∈ (k.put name b).names ↔ n ∈ k.names ∨ n = name := by
  rw [names_put]
  split
  next h => exact ⟨.inl, fun hn => hn.elim id fun heq => heq ▸ h⟩
  · rw [List.mem_append, List.mem_singleton]

/-- Every given part has its name among the parts. -/
theorem mem_names_ofList {l : List (String × β)} {e : String × β} (h : e ∈ l) :
    e.1 ∈ (ofList l).names := by
  suffices hfold : ∀ (k : Keyed β) n, n ∈ k.names ∨ n ∈ l.map Prod.fst →
      n ∈ (l.foldl (fun k e => k.put e.1 e.2) k).names from
    hfold .empty e.1 (.inr (List.mem_map_of_mem h))
  clear h
  induction l with
  | nil => exact fun k n hn => hn.resolve_right List.not_mem_nil
  | cons x rest ih =>
    intro k n hn
    refine ih _ n ?_
    rw [mem_names_put]
    rcases hn with hn | hn
    · exact .inl (.inl hn)
    · rcases List.mem_cons.mp hn with rfl | hn
      · exact .inl (.inr rfl)
      · exact .inr hn

/-- What each change leads to holds of all parts. -/
theorem forall_mapEntries {f : String → α → Except ε β} {k : Keyed α} {k' : Keyed β}
    (h : k.mapEntries f = .ok k') (hf : ∀ name a b, f name a = .ok b → p b) :
    ∀ e ∈ k'.entries, p e.2 := by
  obtain ⟨l, hl, rfl⟩ := map_eq_ok.mp h
  refine forall_ofList fun e he => ?_
  obtain ⟨a, _, ha⟩ := mem_of_mapM hl he
  obtain ⟨b, hb, ha⟩ := bind_eq_ok.mp ha
  cases ha
  exact hf a.1 a.2 b hb

end Keyed

/-- The table of a draft has registered columns. -/
theorem EntityDraft.table_registered {d : EntityDraft} {t : Table}
    (h : d.table = .ok t) : t.Registered := by
  obtain ⟨columns, hc, h⟩ := bind_eq_ok.mp h
  obtain ⟨_, _, h⟩ := bind_eq_ok.mp h
  cases h
  exact Keyed.forall_mapEntries hc fun _ _ _ => ColumnDraft.column_registered

/-! ## Relationships -/

/-- A side is one of the tables of a document, or only a name. -/
theorem Side.among_registered {tables : List Table} (ht : ∀ t ∈ tables, t.Registered)
    {name : String} {t : Table} (h : (Side.among tables name).table? = some t) :
    t.Registered := by
  unfold Side.among at h
  split at h
  next u hu =>
    cases h
    exact ht _ (List.mem_reverse.mp (List.mem_of_find?_eq_some hu))
  · cases h

namespace Reading

variable {α β : Type}

theorem inField_eq_done {name : String} {r : Reading α} {a : α} :
    r.inField name = .done a ↔ r = .done a := by
  cases r <;> simp [inField, under]

theorem seq_eq_done {f : Reading (α → β)} {r : Reading α} {b : β} :
    f <*> r = .done b ↔ ∃ g a, f = .done g ∧ r = .done a ∧ g a = b := by
  cases f <;> cases r <;> simp [Seq.seq, apply]

theorem map_eq_done {g : α → β} {r : Reading α} {b : β} :
    g <$> r = .done b ↔ ∃ a, r = .done a ∧ g a = b := by
  cases r <;> simp [Functor.map, apply]

theorem under_eq_done {step : Segment} {r : Reading α} {a : α} :
    r.under step = .done a ↔ r = .done a := by
  cases r <;> simp [under]

theorem each_eq_done {read : α → Reading β} {place : Nat} {l : List α} {bs : List β} :
    each read place l = .done bs ↔ List.Forall₂ (fun a b => read a = .done b) l bs := by
  induction l generalizing place bs with
  | nil => simp [each, eq_comm]
  | cons a rest ih =>
    simp only [each, seq_eq_done, map_eq_done, under_eq_done, ih, List.forall₂_cons_left_iff]
    constructor
    · rintro ⟨_, bs, ⟨b, hb, rfl⟩, hrest, rfl⟩
      exact ⟨b, bs, hb, hrest, rfl⟩
    · rintro ⟨b, bs, hb, hrest, rfl⟩
      exact ⟨_, bs, ⟨b, hb, rfl⟩, hrest, rfl⟩

theorem check_eq_done {holds : α → Bool} {kind : ProblemKind} {r : Reading α} {a : α} :
    r.check holds kind = .done a ↔ r = .done a ∧ holds a = true := by
  cases r with
  | failed ps => exact ⟨nofun, nofun⟩
  | done b =>
    by_cases hb : holds b = true
    · rw [check, andThen, if_pos hb]
      exact ⟨fun h => ⟨h, done.inj h ▸ hb⟩, fun h => h.1⟩
    · rw [check, andThen, if_neg hb]
      exact ⟨nofun, fun h => absurd h.2 (done.inj h.1 ▸ hb)⟩

/-- Readings that give nothing all succeed where each does. -/
theorem all_eq_done {rs : List (Reading α)} :
    (∃ as, all rs = .done as) ↔ ∀ r ∈ rs, ∃ a, r = .done a := by
  induction rs with
  | nil => exact ⟨fun _ _ h => (List.not_mem_nil h).elim, fun _ => ⟨[], rfl⟩⟩
  | cons r rest ih =>
    rw [List.forall_mem_cons, ← ih]
    simp only [all, seq_eq_done, map_eq_done]
    exact ⟨fun ⟨_, _, as, ⟨a, ha, _⟩, has, _⟩ => ⟨⟨a, ha⟩, as, has⟩,
      fun ⟨⟨a, ha⟩, as, has⟩ => ⟨_, _, as, ⟨a, ha, rfl⟩, has, rfl⟩⟩

end Reading

theorem RelationshipDraft.junctionOf_registered {entity : String} {d : JunctionDraft}
    {j : Junction} (h : junctionOf entity d = .ok j) :
    ∀ e ∈ j.extras.entries, e.2.Registered := by
  obtain ⟨extras, hx, h⟩ := bind_eq_ok.mp h
  have h := EntityDraft.piece_eq_ok.mp h
  unfold Junction.assemble at h
  simp only [Reading.seq_eq_done, Reading.map_eq_done, Reading.inField_eq_done] at h
  obtain ⟨_, _, ⟨_, _, ⟨_, _, ⟨_, _, rfl⟩, _, rfl⟩, _, rfl⟩, hd, rfl⟩ := h
  cases hd
  exact Keyed.forall_mapEntries hx fun _ _ _ => ColumnDraft.column_registered

/-- A relationship of a draft links registered tables by a registered
junction. -/
theorem RelationshipDraft.relationship_registered {entity home : String}
    {tables : List Table} (ht : ∀ t ∈ tables, t.Registered) {d : RelationshipDraft}
    {r : Relationship}
    (h : d.relationship entity home (Side.among tables) = .ok r) : r.Registered := by
  obtain ⟨junction, hj, h⟩ := bind_eq_ok.mp h
  obtain ⟨_, _, h⟩ := bind_eq_ok.mp h
  have h := EntityDraft.piece_eq_ok.mp h
  unfold Relationship.assemble at h
  simp only [Reading.seq_eq_done, Reading.map_eq_done, Reading.inField_eq_done] at h
  obtain ⟨_, _, ⟨_, _, ⟨_, _, ⟨_, _, ⟨_, _, ⟨_, _, ⟨_, _, rfl⟩, _, rfl⟩, hl, rfl⟩, hf, rfl⟩,
    _, rfl⟩, hjn, rfl⟩, _, rfl⟩ := h
  cases hl
  cases hf
  cases hjn
  refine ⟨fun t => Side.among_registered ht, fun t => Side.among_registered ht, ?_⟩
  intro j hjunction
  cases hd : d.junction with
  | none =>
    rw [hd] at hj
    cases hj
    cases hjunction
  | some draft =>
    rw [hd] at hj
    obtain ⟨j', hj', heq⟩ := map_eq_ok.mp hj
    cases heq.trans hjunction
    exact junctionOf_registered hj'

/-! ## Entities -/

theorem Document.withTables_cons_ok {seen : List String} {d : EntityDraft}
    {rest : List EntityDraft} {drafts : List (EntityDraft × Table)}
    (h : withTables seen (d :: rest) = .ok drafts) :
    d.id ∉ seen ∧ ∃ t ps, d.table = .ok t ∧ withTables (d.id :: seen) rest = .ok ps ∧
      drafts = (d, t) :: ps := by
  unfold withTables at h
  dsimp only at h
  split at h
  · obtain ⟨_, hthrow, _⟩ := bind_eq_ok.mp h
    cases hthrow
  next hnew =>
    obtain ⟨t, ht, h⟩ := bind_eq_ok.mp h
    obtain ⟨ps, hps, h⟩ := bind_eq_ok.mp h
    cases h
    exact ⟨by simpa using hnew, t, ps, ht, hps, rfl⟩

theorem Document.withTables_registered {seen : List String} {ds : List EntityDraft}
    {drafts : List (EntityDraft × Table)} (h : withTables seen ds = .ok drafts) :
    ∀ p ∈ drafts, p.2.Registered := by
  induction ds generalizing seen drafts with
  | nil =>
    cases h
    exact fun p hp => (List.not_mem_nil hp).elim
  | cons d rest ih =>
    obtain ⟨_, t, ps, ht, hps, rfl⟩ := withTables_cons_ok h
    exact List.forall_mem_cons.mpr ⟨EntityDraft.table_registered ht, ih hps⟩

/-- Tables are made of all drafts in their order, and no id occurs
twice. -/
theorem Document.withTables_ids {seen : List String} {ds : List EntityDraft}
    {drafts : List (EntityDraft × Table)} (h : withTables seen ds = .ok drafts) :
    drafts.map Prod.fst = ds ∧ (ds.map (·.id)).Nodup ∧ ∀ d ∈ ds, d.id ∉ seen := by
  induction ds generalizing seen drafts with
  | nil =>
    cases h
    exact ⟨rfl, List.nodup_nil, fun d hd => (List.not_mem_nil hd).elim⟩
  | cons d rest ih =>
    obtain ⟨hnew, t, ps, _, hps, rfl⟩ := withTables_cons_ok h
    obtain ⟨hdrafts, hnodup, hseen⟩ := ih hps
    refine ⟨by rw [List.map_cons, hdrafts], List.nodup_cons.mpr ⟨fun hmem => ?_, hnodup⟩, ?_⟩
    · obtain ⟨d', hd', hid⟩ := List.mem_map.mp hmem
      exact hseen d' hd' (hid ▸ List.mem_cons_self)
    · exact List.forall_mem_cons.mpr ⟨hnew, fun d' hd' hmem =>
        hseen d' hd' (List.mem_cons_of_mem _ hmem)⟩

/-- An entity all of whose columns are registered. -/
structure Entity.Registered (e : Entity) : Prop where
  table : e.table.Registered
  links : ∀ r ∈ e.relationships, r.Registered

theorem EntityDraft.entity_registered {tables : List Table}
    (ht : ∀ t ∈ tables, t.Registered) {d : EntityDraft} {table : Table}
    (htable : table.Registered) {e : Entity} (h : d.entity tables table = .ok e) :
    e.Registered := by
  obtain ⟨links, hl, h⟩ := bind_eq_ok.mp h
  obtain ⟨_, _, h⟩ := bind_eq_ok.mp h
  obtain ⟨_, _, h⟩ := bind_eq_ok.mp h
  cases h
  refine ⟨htable, fun r hr => ?_⟩
  obtain ⟨_, _, hd⟩ := mem_of_mapM hl hr
  exact RelationshipDraft.relationship_registered ht hd

theorem EntityDraft.entity_id {tables : List Table} {d : EntityDraft} {table : Table}
    {e : Entity} (h : d.entity tables table = .ok e) : e.id = d.id := by
  obtain ⟨_, _, h⟩ := bind_eq_ok.mp h
  obtain ⟨_, _, h⟩ := bind_eq_ok.mp h
  obtain ⟨_, _, h⟩ := bind_eq_ok.mp h
  cases h
  rfl

/-- A document has one entity for each of its drafts, in their order, and
no two of one id. -/
theorem Document.build_ids {d : Document} {es : List Entity} (h : d.build = .ok es) :
    es.map (·.id) = d.entities.map (·.id) ∧ (es.map (·.id)).Nodup := by
  obtain ⟨drafts, hd, hb⟩ := bind_eq_ok.mp h
  obtain ⟨hdrafts, hnodup, _⟩ := withTables_ids hd
  have hids : es.map (·.id) = d.entities.map (·.id) := by
    rw [← hdrafts, List.map_map]
    exact map_eq_of_forall₂ (mapM_eq_ok.mp hb) EntityDraft.entity_id
  exact ⟨hids, hids ▸ hnodup⟩

/-- What is read is a document that can be built. -/
theorem Document.read_ok {raw : Part} {es : List Entity} {c : Config}
    (h : (Document.read raw).outcome = .ok (es, c)) :
    ∃ d, Document.ofPart raw = .done d ∧ d.build = .ok es ∧ c = d.config := by
  obtain ⟨document, hd, h⟩ := outcome_bind_ok.mp h
  obtain ⟨es', hb, h⟩ := outcome_bind_ok.mp h
  obtain ⟨_, _, h⟩ := outcome_bind_ok.mp h
  cases h
  refine ⟨document, ?_, hb, rfl⟩
  cases hpart : Document.ofPart raw with
  | done d =>
    rw [hpart] at hd
    cases hd
    rfl
  | failed ps =>
    rw [hpart] at hd
    cases hd

/-- The entities of a document have registered columns throughout. -/
theorem Document.read_registered {raw : Part} {es : List Entity} {c : Config}
    (h : (Document.read raw).outcome = .ok (es, c)) : ∀ e ∈ es, e.Registered := by
  obtain ⟨document, _, hb, _⟩ := read_ok h
  obtain ⟨drafts, hd, hb⟩ := bind_eq_ok.mp hb
  have hall := withTables_registered hd
  intro e he
  obtain ⟨p, hp, hentity⟩ := mem_of_mapM hb he
  refine EntityDraft.entity_registered (fun t ht => ?_) (hall p hp) hentity
  obtain ⟨q, hq, rfl⟩ := List.mem_map.mp ht
  exact hall q hq

/-! ## Items of a document -/

theorem Fields.closed_eq_done {α : Type} {f : Fields} {names : List String} {r : Reading α}
    {a : α} : f.closed names r = .done a ↔
      r = .done a ∧ ∀ e ∈ f, ∃ u, Fields.stray names e = .done u := by
  have hstray : (∃ us, Reading.all (f.map (Fields.stray names)) = .done us) ↔
      ∀ e ∈ f, ∃ u, Fields.stray names e = .done u := by
    rw [Reading.all_eq_done, List.forall_mem_map]
  rw [← hstray, Fields.closed]
  simp only [Reading.seq_eq_done, Reading.map_eq_done]
  constructor
  · rintro ⟨_, us, ⟨_, hr, rfl⟩, hus, rfl⟩
    exact ⟨hr, us, hus⟩
  · rintro ⟨hr, us, hus⟩
    exact ⟨_, us, ⟨a, hr, rfl⟩, hus, rfl⟩

theorem Fields.required_eq_done {α : Type} {f : Fields} {name : String}
    {read : Part → Reading α} {a : α} :
    f.required name read = .done a ↔ ∃ p, f.get? name = some p ∧ read p = .done a := by
  unfold Fields.required
  cases f.get? name with
  | none => exact ⟨nofun, nofun⟩
  | some p => exact ⟨fun h => ⟨p, rfl, h⟩, fun ⟨_, hp, h⟩ => Option.some.inj hp ▸ h⟩

theorem modelOf_eq_done {α : Type} {ofFields : Fields → Reading α} {p : Part} {a : α} :
    modelOf ofFields p = .done a ↔ ∃ f, p.entries? = some f ∧ ofFields f = .done a := by
  unfold modelOf Part.model
  cases p.entries? with
  | none => exact ⟨nofun, nofun⟩
  | some f => exact ⟨fun h => ⟨f, rfl, h⟩, fun ⟨_, hf, h⟩ => Option.some.inj hf ▸ h⟩

theorem listOf_eq_done {α : Type} {read : Part → Reading α} {p : Part} {as : List α} :
    Intake.listOf read p = .done as ↔
      ∃ items, p.sequence? = some items ∧
        List.Forall₂ (fun item a => read item = .done a) items as := by
  unfold Intake.listOf
  cases p.sequence? with
  | none => exact ⟨nofun, nofun⟩
  | some items =>
    rw [Reading.each_eq_done]
    exact ⟨fun h => ⟨items, rfl, h⟩, fun ⟨_, hi, h⟩ => Option.some.inj hi ▸ h⟩

/-- What is given as the id of an entity. -/
def Document.id? (item : Part) : Option Part := item.entries?.bind fun f => f.get? "id"

/-- What is given as the entities of a document. -/
def Document.items? (raw : Part) : Option (List Part) :=
  (raw.entries?.bind fun f => f.get? "entities").bind Part.sequence?

theorem text_eq_done {p : Part} {s : String} (h : Intake.text p = .done s) : p = .str s := by
  unfold Intake.text at h
  split at h
  · cases h
    rfl
  · cases h

theorem name_eq_done {p : Part} {s : String} (h : Intake.name p = .done s) : p = .str s := by
  unfold Intake.name at h
  cases ht : Intake.text p with
  | failed ps =>
    rw [ht] at h
    cases h
  | done s' =>
    rw [ht] at h
    change Intake.nonEmpty s' = _ at h
    unfold Intake.nonEmpty at h
    split at h
    · cases h
    · cases h
      exact text_eq_done ht

theorem EntityDraft.ofFields_id {f : Fields} {e : EntityDraft}
    (h : EntityDraft.ofFields f = .done e) : f.get? "id" = some (.str e.id) := by
  replace h := (Fields.closed_eq_done.mp h).1
  -- the id is the first of sixteen fields, so it is read innermost
  iterate 15
    obtain ⟨_, _, hbefore, _, rfl⟩ := Reading.seq_eq_done.mp h
    clear h
    rename' hbefore => h
  obtain ⟨_, hid, rfl⟩ := Reading.map_eq_done.mp h
  obtain ⟨p, hp, hname⟩ := Fields.required_eq_done.mp (Reading.inField_eq_done.mp hid)
  rw [hp, name_eq_done hname]

/-- A document has one draft for each item of its entities, in their order
and under the id that is given there. -/
theorem Document.ofPart_items {raw : Part} {d : Document} (h : Document.ofPart raw = .done d) :
    ∃ items, Document.items? raw = some items ∧
      items.map Document.id? = d.entities.map fun e => some (.str e.id) := by
  obtain ⟨f, hf, h⟩ := modelOf_eq_done.mp h
  replace h := (Fields.closed_eq_done.mp h).1
  simp only [Reading.seq_eq_done, Reading.map_eq_done, Reading.inField_eq_done] at h
  obtain ⟨_, _, ⟨_, hentities, rfl⟩, _, rfl⟩ := h
  obtain ⟨p, hp, hread⟩ := Fields.required_eq_done.mp hentities
  obtain ⟨items, hitems, hdrafts⟩ := listOf_eq_done.mp (Reading.check_eq_done.mp hread).1
  refine ⟨items, by simp [items?, hf, hp, hitems], ?_⟩
  refine (map_eq_of_forall₂ hdrafts fun {item e} he => ?_).symm
  obtain ⟨f, hf, he⟩ := modelOf_eq_done.mp he
  simp [id?, hf, EntityDraft.ofFields_id he]

/-- What is read has one entity for each item of the document, in their
order, and no two of one id. -/
theorem Document.read_items {raw : Part} {es : List Entity} {c : Config}
    (h : (Document.read raw).outcome = .ok (es, c)) :
    ∃ items, Document.items? raw = some items ∧
      items.map Document.id? = es.map (fun e => some (.str e.id)) ∧
      (es.map (·.id)).Nodup := by
  obtain ⟨d, hd, hbuild, _⟩ := read_ok h
  obtain ⟨items, hitems, hgiven⟩ := ofPart_items hd
  obtain ⟨hids, hnodup⟩ := build_ids hbuild
  have hsome := congrArg (List.map fun id => some (Part.str id)) hids
  simp only [List.map_map] at hsome
  exact ⟨items, hitems, hgiven.trans hsome.symm, hnodup⟩

end Polyschema
