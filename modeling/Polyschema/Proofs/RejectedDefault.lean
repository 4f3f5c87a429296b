/-
Polyschema.Proofs.RejectedDefault — texts that a column has by default
although its type turns them down.

Such a default is not stored; what is written stands for the text itself.
The ways around a literal, for the digits of a decimal in SQL and for the
stored form of a list in Drizzle, are open to it all the same.

* `Quoting` — how a language reads its quoted literals.
* `Quoting.Once` — a text holds one literal, which denotes a given text.
* `sqlQuoting`, `scriptQuoting` — the literals of SQL and of TypeScript.
* `Column.TurnsDown` — a column with such a default.
* `rejected_default` — the loss is noted, and the clause and the call hold
  one literal each, but for decimals, lists and carriage returns.
-/
import Polyschema.Emit.Import
import Polyschema.Proofs.Chain
import Polyschema.Proofs.Layout
import Polyschema.Proofs.LiteralRead
import Polyschema.Proofs.ScriptLiteral

namespace Polyschema

open Polyschema.Text Polyschema.Noted

/-! ## Literals within a text -/

/-- How a language reads its quoted literals. What opens one and what
closes it do not belong to the text that it denotes. -/
structure Quoting where
  opens : Char → Bool
  read? : List Char → Option (String × List Char)
  opens_read : ∀ {cs s after}, read? cs = some (s, after) →
    ∃ c rest, cs = c :: rest ∧ opens c = true
  length_read : ∀ {cs s after}, read? cs = some (s, after) →
    s.toList.length + 2 + after.length ≤ cs.length

namespace Quoting

variable (q : Quoting)

/-- Whether nothing in a text opens a literal. -/
def Closed (cs : List Char) : Prop := ∀ c ∈ cs, q.opens c = false

instance (cs : List Char) : Decidable (q.Closed cs) :=
  List.decidableBAll (fun c => q.opens c = false) cs

/-- A text holds one literal, which denotes another text. -/
def Once (text s : String) : Prop :=
  ∃ before rest after, text.toList = before ++ rest ∧ q.read? rest = some (s, after) ∧
    q.Closed before ∧ q.Closed after

variable {q} {text s : String} {front body : List Char}

/-- Where a literal is the only one, it begins after what opens none. -/
theorem Once.read (h : q.Once text s) (htext : text.toList = front ++ body)
    (hfront : q.Closed front) : ∃ skipped rest after, body = skipped ++ rest ∧
      q.read? rest = some (s, after) ∧ q.Closed skipped ∧ q.Closed after := by
  obtain ⟨before, rest, after, hsplit, hread, hbefore, hafter⟩ := h
  obtain ⟨c, next, rfl, hopens⟩ := q.opens_read hread
  obtain ⟨skipped, rfl, hbody⟩ | ⟨skipped, rfl, hrest⟩ :=
    List.append_eq_append_iff.mp (htext.symm.trans hsplit)
  · have hskipped : q.Closed skipped := by
      intro d hd
      exact hbefore d (List.mem_append_right _ hd)
    exact ⟨skipped, _, after, hbody, hread, hskipped, hafter⟩
  · cases skipped with
    | nil => exact ⟨[], _, after, hrest.symm, hread, nofun, hafter⟩
    | cons d skipped =>
      -- the literal would begin in the front
      obtain ⟨rfl, -⟩ := List.cons.inj hrest
      rw [hfront c (by simp)] at hopens
      cases hopens

/-- A text that stands there as it is, with at most one character after
it, is too short to hold a literal that denotes it. -/
theorem not_once_raw (front back : List Char) (htext : text.toList = front ++ (s.toList ++ back))
    (hfront : q.Closed front) (hback : back.length ≤ 1) : ¬ q.Once text s := by
  intro h
  obtain ⟨skipped, rest, after, hbody, hread, -, -⟩ := h.read htext hfront
  have hlength := q.length_read hread
  have hsum := congrArg List.length hbody
  rw [List.length_append, List.length_append] at hsum
  omega

/-- A text after which a literal opens at once holds that one alone or
none. -/
theorem once_iff {c : Char} {rest : List Char} (htext : text.toList = front ++ c :: rest)
    (hfront : q.Closed front) (hopens : q.opens c = true) :
    q.Once text s ↔ ∃ after, q.read? (c :: rest) = some (s, after) ∧ q.Closed after := by
  constructor
  · intro h
    obtain ⟨skipped, tail, after, hbody, hread, hskipped, hafter⟩ := h.read htext hfront
    cases skipped with
    | nil => exact ⟨after, hbody ▸ hread, hafter⟩
    | cons d skipped =>
      obtain ⟨rfl, -⟩ := List.cons.inj hbody
      rw [hskipped c List.mem_cons_self] at hopens
      cases hopens
  · rintro ⟨after, hread, hafter⟩
    exact ⟨front, c :: rest, after, htext, hread, hfront, hafter⟩

end Quoting

/-! ## SQL -/

namespace SqlReader

theorem length_body? {cs body after : List Char} (h : body? cs = some (body, after)) :
    body.length + 1 + after.length ≤ cs.length := by
  fun_induction body? cs generalizing body after with
  | case1 => cases h
  | case2 => cases h; simp
  | case3 => cases h
  | case4 rest ih =>
    obtain ⟨⟨read, left⟩, hread, heq⟩ := Option.map_eq_some_iff.mp h
    cases heq
    have := ih hread
    simp only [List.length_cons]
    omega
  | case5 d rest hd =>
    cases h
    simp only [List.length_nil, List.length_cons]
    omega
  | case6 c d rest hc ih =>
    obtain ⟨⟨read, left⟩, hread, heq⟩ := Option.map_eq_some_iff.mp h
    cases heq
    have := ih hread
    simp only [List.length_cons] at this ⊢
    omega

end SqlReader

namespace ScriptReader

theorem length_body? {cs body after : List Char} (h : body? cs = some (body, after)) :
    body.length + 1 + after.length ≤ cs.length := by
  -- an escape takes two characters at once, so the induction is on the length
  induction hn : cs.length using Nat.strongRecOn generalizing cs body after with
  | ind n ih =>
    cases cs with
    | nil => cases h
    | cons c rest =>
      rw [List.length_cons] at hn
      by_cases hquote : c = quote
      · rw [hquote, body?_quote] at h
        cases h
        rw [List.length_nil]
        omega
      by_cases hback : c = backslash
      · cases rest with
        | nil =>
          rw [hback] at h
          cases h
        | cons d rest =>
          rw [List.length_cons] at hn
          cases hescape : unescape? d with
          | none =>
            rw [hback, body?, if_neg (by decide), if_pos rfl] at h
            simp [hescape] at h
          | some e =>
            rw [hback, body?_escape hescape] at h
            obtain ⟨⟨read, left⟩, hread, heq⟩ := Option.map_eq_some_iff.mp h
            cases heq
            have hrest := ih rest.length (by omega) hread rfl
            rw [List.length_cons]
            omega
      · rw [body?_plain hquote hback] at h
        split at h
        next => cases h
        next =>
          obtain ⟨⟨read, left⟩, hread, heq⟩ := Option.map_eq_some_iff.mp h
          cases heq
          have hrest := ih rest.length (by omega) hread rfl
          rw [List.length_cons]
          omega

end ScriptReader

/-! ## Literals between single quotes -/

/-- A literal between single quotes of which a body is read. -/
def single? (body? : List Char → Option (List Char × List Char)) :
    List Char → Option (String × List Char)
  | c :: rest =>
    if c = quote then (body? rest).map fun (cs, after) => (String.ofList cs, after) else none
  | [] => none

section

variable {body? : List Char → Option (List Char × List Char)} {cs after : List Char} {s : String}

theorem single?_eq_some (h : single? body? cs = some (s, after)) :
    ∃ rest, cs = quote :: rest ∧ body? rest = some (s.toList, after) := by
  cases cs with
  | nil => cases h
  | cons c rest =>
    by_cases hc : c = quote
    · rw [single?, if_pos hc] at h
      obtain ⟨⟨body, left⟩, hread, heq⟩ := Option.map_eq_some_iff.mp h
      cases heq
      exact ⟨rest, by rw [hc], by rw [String.toList_ofList, hread]⟩
    · rw [single?, if_neg hc] at h
      cases h

theorem length_single? (hbody : ∀ {cs body after}, body? cs = some (body, after) →
      body.length + 1 + after.length ≤ cs.length) (h : single? body? cs = some (s, after)) :
    s.toList.length + 2 + after.length ≤ cs.length := by
  obtain ⟨rest, rfl, hread⟩ := single?_eq_some h
  have hrest := hbody hread
  rw [List.length_cons]
  omega

end

/-- The literals between single quotes of which a body is read. Others may
be opened too. -/
def Quoting.single (opens : Char → Bool) (body? : List Char → Option (List Char × List Char))
    (hopens : opens quote = true)
    (hbody : ∀ {cs body after}, body? cs = some (body, after) →
      body.length + 1 + after.length ≤ cs.length) : Quoting where
  opens := opens
  read? := single? body?
  opens_read h :=
    let ⟨rest, hcs, _⟩ := single?_eq_some h
    ⟨quote, rest, hcs, hopens⟩
  length_read := length_single? hbody

/-- The literals of SQL. -/
def sqlQuoting : Quoting := .single (· == quote) SqlReader.body? rfl SqlReader.length_body?

/-- The literals of TypeScript, of which those in single quotes are
read. -/
def scriptQuoting : Quoting :=
  .single (fun c => c == quote || c == doubleQuote || c == Emit.backtick) ScriptReader.body? rfl
    ScriptReader.length_body?

theorem scriptQuoting_read? (cs : List Char) :
    scriptQuoting.read? cs = ScriptReader.literal? cs := by
  cases cs <;> rfl

/-- A text as an SQL literal denotes that text. -/
theorem sqlQuoting_once (s : String) : sqlQuoting.Once ("DEFAULT " ++ sqlString s) s := by
  have htext : ("DEFAULT " ++ sqlString s).toList =
      "DEFAULT ".toList ++ quote :: (sqlBody s.toList ++ quote :: []) := by
    simp [sqlString]
  refine (Quoting.once_iff htext (by decide) rfl).mpr ⟨[], ?_, nofun⟩
  show (SqlReader.body? _).map _ = _
  rw [SqlReader.body?_sqlBody s.toList (by simp)]
  simp

/-- A text as a script literal denotes that text, unless a carriage return
stands in it. -/
theorem scriptQuoting_once_iff (s : String) :
    scriptQuoting.Once (".default(" ++ scriptString s ++ ")") s ↔
      ScriptReader.hasReturn s = false := by
  have hclosed : scriptQuoting.Closed ".default(".toList := by decide
  have hread := ScriptReader.literal?_scriptString s [')']
  rw [← scriptQuoting_read?, ScriptReader.toList_scriptString] at hread
  have htext : (".default(" ++ scriptString s ++ ")").toList =
      ".default(".toList ++ quote :: (s.toList.flatMap scriptEscape ++ [quote] ++ [')']) := by
    simp [ScriptReader.toList_scriptString]
  rw [Quoting.once_iff htext hclosed rfl]
  rw [List.cons_append] at hread
  rw [hread]
  cases ScriptReader.hasReturn s with
  | true => simp
  | false => simpa using (by decide : scriptQuoting.Closed [')'])

/-! ## Modifiers of one kind -/

/-- The last setting of a kind is one of the modifiers of that kind. -/
theorem Emit.lastSetting?_filter (kind : ModifierKind) (chain : List Modifier) :
    lastSetting? kind (chain.filter (·.kind == kind)) = lastSetting? kind chain := by
  unfold lastSetting?
  rw [← List.filter_reverse, List.find?_filter]
  congr 2
  funext m
  cases h : m.kind == kind <;> simp

theorem Emit.mem_of_lastSetting? {kind : ModifierKind} {chain : List Modifier} {setting : Setting}
    (h : lastSetting? kind chain = some setting) : ⟨kind, setting⟩ ∈ chain := by
  obtain ⟨m, hm, rfl⟩ := Option.map_eq_some_iff.mp h
  have hkind : m.kind = kind := by simpa using List.find?_some hm
  have hmem := List.mem_reverse.mp (List.mem_of_find?_eq_some hm)
  rwa [← hkind]

namespace ColumnType

/-- The modifiers of one kind are set by the calls for that kind. -/
theorem filter_setModifier (kind : ModifierKind) (m : Modifier) (chain : List Modifier) :
    (setModifier m chain).filter (·.kind == kind) =
      if m.kind = kind then setModifier m (chain.filter (·.kind == kind))
      else chain.filter (·.kind == kind) := by
  induction chain with
  | nil => by_cases h : m.kind = kind <;> simp [setModifier, h]
  | cons first rest ih =>
    rw [setModifier, List.filter_cons]
    by_cases hsame : first.kind = m.kind
    · by_cases h : m.kind = kind
      · simp [hsame, h, setModifier]
      · simp [hsame, h]
    · rw [if_neg hsame, List.filter_cons, ih]
      by_cases h : m.kind = kind
      · have hfirst : (first.kind == kind) = false := by simpa [← h] using hsame
        simp [h, hfirst]
      · simp [h]

theorem filter_setAll (t : ColumnType) (kind : ModifierKind) (ms : List Modifier) :
    (t.setAll ms).modifiers.filter (·.kind == kind) =
      (ms.filter (·.kind == kind)).foldl (fun chain m => setModifier m chain)
        (t.modifiers.filter (·.kind == kind)) := by
  induction ms using List.reverseRecOn with
  | nil => rfl
  | append_singleton ms m ih =>
    rw [setAll_concat, List.filter_append]
    show (setModifier m (t.setAll ms).modifiers).filter _ = _
    rw [filter_setModifier, ih]
    by_cases h : m.kind = kind <;> simp [h]

/-- What calls leave of one kind is left by the calls for that kind. -/
theorem lastSetting?_setAll_congr (t : ColumnType) (kind : ModifierKind) {ms ms' : List Modifier}
    (h : ms.filter (·.kind == kind) = ms'.filter (·.kind == kind)) :
    Emit.lastSetting? kind (t.setAll ms).modifiers =
      Emit.lastSetting? kind (t.setAll ms').modifiers := by
  rw [← Emit.lastSetting?_filter, filter_setAll, h, ← filter_setAll, Emit.lastSetting?_filter]

theorem mem_setModifier {m other : Modifier} {chain : List Modifier}
    (h : other ∈ setModifier m chain) : other = m ∨ other ∈ chain := by
  induction chain with
  | nil => exact .inl (List.mem_singleton.mp h)
  | cons first rest ih =>
    unfold setModifier at h
    split at h
    next =>
      rcases List.mem_cons.mp h with rfl | h
      · exact .inl rfl
      · exact .inr (List.mem_cons_of_mem _ h)
    next =>
      rcases List.mem_cons.mp h with rfl | h
      · exact .inr List.mem_cons_self
      · exact (ih h).imp_right (List.mem_cons_of_mem _)

/-- Each modifier was there or was set. -/
theorem mem_setAll {t : ColumnType} {ms : List Modifier} {m : Modifier}
    (h : m ∈ (t.setAll ms).modifiers) : m ∈ ms ∨ m ∈ t.modifiers := by
  induction ms using List.reverseRecOn with
  | nil => exact .inr h
  | append_singleton ms last ih =>
    rw [setAll_concat] at h
    rcases mem_setModifier h with rfl | h
    · exact .inl (by simp)
    · exact (ih h).imp_left (List.mem_append_left _)

end ColumnType

/-! ## Columns that turn their default down -/

namespace Column

/-- The flags are set on the type one after another. -/
theorem resolved_eq_setAll (c : Column) : c.resolved = c.type.setAll c.flags := by
  unfold resolved flags ColumnType.setAll
  cases c.unique <;> cases c.primary <;> cases c.default <;> cases c.autoIncrement <;> rfl

/-- The flag for an identity sets a mode. -/
theorem flags_mode (c : Column) :
    ∀ m ∈ c.flags, m.kind = .autoIncrement → ∃ mode, m.setting = .identity mode := by
  unfold flags
  cases c.unique <;> cases c.primary <;> cases c.default <;> cases c.autoIncrement <;> simp

/-- A column of a built-in kind whose default is a text that its type does
not accept. The default is its own or one of its type. -/
structure TurnsDown (c : Column) (s : String) : Prop where
  builtIn : c.type.kind.BuiltIn
  default : Emit.lastSetting? .default c.resolved.modifiers = some (.data (.str s))
  rejects : c.type.accepts (.str s) = .ok false

variable {c : Column} {s : String}

/-- Whether it is a key does not change the default of a column. -/
theorem TurnsDown.withPrimary (h : c.TurnsDown s) (primary : Bool) :
    (c.withPrimary primary).TurnsDown s := by
  refine ⟨h.builtIn, ?_, h.rejects⟩
  rw [← h.default, resolved_eq_setAll, resolved_eq_setAll]
  refine ColumnType.lastSetting?_setAll_congr _ _ ?_
  unfold flags Column.withPrimary
  cases c.unique <;> cases c.primary <;> cases primary <;> rfl

/-- A default of a column comes before one of its type. -/
theorem turnsDown_of_default (hk : c.type.kind.BuiltIn)
    (hn : c.type.modifierKinds.Nodup) (hd : c.default = some (.str s))
    (hr : c.type.accepts (.str s) = .ok false) : c.TurnsDown s := by
  have hresolved : c.resolved.modifierKinds.Nodup := by
    rw [resolved_eq_setAll]
    exact ColumnType.nodup_setAll _ hn _
  have hset : (c.resolved.modifier? .default).map (·.setting) = some (.data (.str s)) := by
    have hflags : Emit.lastSetting? .default c.flags = some (.data (.str s)) := by
      unfold flags
      rw [hd]
      cases c.unique <;> cases c.primary <;> cases c.autoIncrement <;> rfl
    rw [resolved_eq_setAll, ColumnType.setting_setAll, hflags, Option.some_or]
  obtain ⟨m, hm, hsetting⟩ := Option.map_eq_some_iff.mp hset
  have hkind : m.kind = .default := by simpa using List.find?_some hm
  refine ⟨hk, (Emit.lastSetting?_eq_some_iff hresolved).mpr ?_, hr⟩
  rw [← hkind, ← hsetting]
  exact List.mem_of_find?_eq_some hm

end Column

namespace Emit

variable {t : ColumnType} {k : Kind} {s : String}

/-- A default that is turned down is left as it is. -/
theorem storedDefault_rejected (h : t.accepts (.str s) = .ok false) (column : String) :
    storedDefault t (.str s) column =
      ⟨[.outOfDomain (.str s) column t.name], .ok (.str s)⟩ := by
  unfold storedDefault
  rw [h]
  rfl

theorem defaultClause_rejected (ht : t.kind = k) (h : k.accepts (.str s) = .ok false)
    (name : String) (variant : Variant) :
    Sql.defaultClause t name (.data (.str s)) variant =
      ⟨[.outOfDomain (.str s) name k.name],
        .ok (some ("DEFAULT " ++ if k.name = "decimal" then s else sqlString s))⟩ := by
  subst ht
  unfold Sql.defaultClause
  simp only [settingValue, storedDefault_rejected h]
  by_cases hname : t.kind.name = "decimal"
  · have hb : (t.name == "decimal") = true := by simpa [ColumnType.name] using hname
    rw [hb, if_pos hname]
    rfl
  · have hb : (t.name == "decimal") = false := by simpa [ColumnType.name] using hname
    rw [hb, if_neg hname]
    rfl

theorem defaultCall_rejected (ht : t.kind = k) (h : k.accepts (.str s) = .ok false)
    (name : String) :
    Drizzle.defaultCall t name (.data (.str s)) =
      ⟨[.outOfDomain (.str s) name k.name],
        .ok (".default(" ++ (if k.name = "json" ∨ k.name = "array" then s else scriptString s) ++
          ")")⟩ := by
  subst ht
  unfold Drizzle.defaultCall
  simp only [settingValue, storedDefault_rejected h]
  by_cases hname : t.kind.name = "json" ∨ t.kind.name = "array"
  · have hb : (t.name == "json" || t.name == "array") = true := by
      simpa [ColumnType.name] using hname
    rw [hb, if_pos hname]
    rfl
  · have hb : (t.name == "json" || t.name == "array") = false := by
      simpa [ColumnType.name] using hname
    rw [hb, if_neg hname]
    rfl

end Emit

namespace Kind

variable {k : Kind} (hk : k.BuiltIn)
include hk

theorem name_decimal_iff : k.name = "decimal" ↔ ∃ shape, k = .decimal shape := by
  cases k with
  | custom spec => exact absurd rfl (hk spec)
  | _ => simp [Kind.name]

theorem name_array_iff : k.name = "array" ↔ ∃ element modifiers, k = .array element modifiers := by
  cases k with
  | custom spec => exact absurd rfl (hk spec)
  | _ => simp [Kind.name]

/-- JSON takes every text. -/
theorem name_ne_json {s : String} (h : k.accepts (.str s) = .ok false) : k.name ≠ "json" := by
  cases k with
  | custom spec => exact absurd rfl (hk spec)
  | json =>
    have hjson : Kind.json.accepts (.str s) = .ok true := by
      show (Except.ok ((Value.ofJson? (jsonString s)).any fun w => w.same (.str s)) :
        Except Fault Bool) = _
      rw [ofJson?_of_reads (reads_str s)]
      simp [Value.same, Value.sameScalar]
    rw [hjson] at h
    cases h
  | _ => simp [Kind.name]

/-- The clause holds a literal unless it is for decimals. -/
theorem once_clause_iff (s : String) :
    sqlQuoting.Once ("DEFAULT " ++ if k.name = "decimal" then s else sqlString s) s ↔
      ¬ ∃ shape, k = .decimal shape := by
  rw [← name_decimal_iff hk]
  by_cases hname : k.name = "decimal"
  · have hraw : ¬ sqlQuoting.Once ("DEFAULT " ++ s) s :=
      Quoting.not_once_raw "DEFAULT ".toList [] (by simp) (by decide) (by simp)
    simp [hname, hraw]
  · simp [hname, sqlQuoting_once]

/-- The call holds a literal unless it is for lists or the text has a
carriage return. -/
theorem once_call_iff {s : String} (h : k.accepts (.str s) = .ok false) :
    scriptQuoting.Once
        (".default(" ++ (if k.name = "json" ∨ k.name = "array" then s else scriptString s) ++ ")")
        s ↔
      (¬ ∃ element modifiers, k = .array element modifiers) ∧
        ScriptReader.hasReturn s = false := by
  have hjson := name_ne_json hk h
  rw [← name_array_iff hk]
  by_cases hname : k.name = "array"
  · have hraw : ¬ scriptQuoting.Once (".default(" ++ s ++ ")") s :=
      Quoting.not_once_raw ".default(".toList [')'] (by simp) (by decide) (by simp)
    simp [hname, hraw]
  · simp [hname, hjson, scriptQuoting_once_iff]

end Kind

namespace Emit

variable {t : ColumnType} {c : Column} {name : String} {options : Option Variant}
  {setting : Setting} {loss : Loss} {written : String}

/-- A built-in kind is written without a loss, but perhaps for a list in
Convex. -/
theorem base_builtIn (hk : t.kind.BuiltIn) {d : Dialect} (hd : d ≠ .convex) (name : String)
    (options : Option Variant) (fallback : String) :
    ∃ text, base t d name options fallback = .done text := by
  obtain ⟨text, htext⟩ := hk.fragment? hd name options
  exact ⟨text, by rw [base, htext]; rfl⟩

/-- Whether each identity modifier has a mode. -/
def HasModes (chain : List Modifier) : Prop :=
  ∀ m ∈ chain, m.kind = .autoIncrement → ∃ mode, identityMode m.setting = .ok mode

/-- An identity leaves no notes, and returns where it has a mode. -/
theorem identityPart_eq (t : ColumnType) (v : Variant) :
    ∃ r, Sql.identityPart t v = .ofExcept r ∧
      (HasModes t.modifiers → ∃ clause, r = .ok clause) := by
  unfold Sql.identityPart
  cases hlast : lastSetting? .autoIncrement t.modifiers with
  | none => exact ⟨.ok none, rfl, fun _ => ⟨none, rfl⟩⟩
  | some setting =>
    dsimp only
    split
    next =>
      refine ⟨_, rfl, fun hmodes => ?_⟩
      obtain ⟨mode, hmode⟩ := hmodes _ (mem_of_lastSetting? hlast) rfl
      cases v with
      | postgres =>
        unfold Sql.identityClause
        dsimp only at hmode
        rw [hmode]
        cases mode <;> exact ⟨_, rfl⟩
      | _ => exact ⟨_, rfl⟩
    next => exact ⟨.ok none, rfl, fun _ => ⟨none, rfl⟩⟩

/-- A column whose default has a clause with one loss is written with
that clause and that loss. -/
theorem definition_lossy (hk : c.type.kind.BuiltIn)
    (hd : lastSetting? .default c.resolved.modifiers = some setting)
    (hclause : Sql.defaultClause c.resolved name setting (Variant.ofOptions options) =
      ⟨[loss], .ok (some written)⟩) :
    (Sql.definition name c options).notes = [loss] ∧
    (∀ text, (Sql.definition name c options).outcome = .ok text →
      ∃ before after, text = " ".intercalate (before ++ written :: after)) ∧
    (HasModes c.resolved.modifiers → (Sql.definition name c options).Returns) := by
  have hkind : c.resolved.kind.BuiltIn := c.resolved_kind ▸ hk
  obtain ⟨fragment, hbase⟩ :=
    base_builtIn hkind (d := .sql) (by decide) name options (name ++ " TEXT")
  obtain ⟨r, hidentity, hmodes⟩ := identityPart_eq c.resolved (Variant.ofOptions options)
  have hdefault : Sql.defaultPart c.resolved name (Variant.ofOptions options) =
      ⟨[loss], .ok (some written)⟩ := by
    unfold Sql.defaultPart
    rw [hd]
    exact hclause
  unfold Sql.definition Sql.column
  unfold Sql.columnParts
  simp only [hbase, hdefault, hidentity, done_bind]
  cases r with
  | error f =>
    refine ⟨rfl, nofun, fun h => ?_⟩
    obtain ⟨clause, hr⟩ := hmodes h
    cases hr
  | ok identity =>
    refine ⟨rfl, ?_, fun _ => ⟨_, rfl⟩⟩
    intro text htext
    have hmem : written ∈ fragment :: [Sql.nullClause c.resolved.modifiers,
        Sql.uniqueClause c.resolved.modifiers, some written, identity,
        Sql.computedClause c.generatedAs,
        Sql.commentClause (Variant.ofOptions options) c.comment].filterMap id :=
      List.mem_cons_of_mem _ (List.mem_filterMap.mpr ⟨some written, by simp, rfl⟩)
    obtain ⟨before, after, hparts⟩ := List.append_of_mem hmem
    refine ⟨before, after, ?_⟩
    rw [← hparts]
    exact (Except.ok.inj htext).symm

/-- Of the modifiers of a column, only a default and an identity without a
mode can be lossy or fail in Drizzle. -/
theorem modifierCall_plain {m : Modifier} (hm : m.kind ≠ .default) :
    (Drizzle.modifierCall t name m).notes = [] ∧
      ((m.kind = .autoIncrement → ∃ mode, identityMode m.setting = .ok mode) →
        (Drizzle.modifierCall t name m).Returns) := by
  obtain ⟨kind, setting⟩ := m
  cases kind with
  | default => exact absurd rfl hm
  | autoIncrement =>
    unfold Drizzle.modifierCall
    dsimp only
    split
    next =>
      cases hmode : identityMode setting with
      | ok mode => exact ⟨rfl, fun _ => ⟨_, rfl⟩⟩
      | error f =>
        refine ⟨rfl, fun h => ?_⟩
        obtain ⟨mode, hok⟩ := h rfl
        cases hok
    next => exact ⟨rfl, fun _ => ⟨_, rfl⟩⟩
  | _ => exact ⟨rfl, fun _ => ⟨_, rfl⟩⟩

/-- Where no kind is repeated, the other modifiers are of other kinds. -/
theorem kind_ne_of_nodup {before after : List Modifier} {m other : Modifier}
    (hn : ((before ++ m :: after).map (·.kind)).Nodup) (h : other ∈ before ++ after) :
    other.kind ≠ m.kind := by
  rw [List.map_append, List.map_cons] at hn
  have hnot := (List.nodup_cons.mp (List.perm_middle.nodup hn)).1
  rw [← List.map_append] at hnot
  intro hkind
  exact hnot (hkind ▸ List.mem_map_of_mem h)

/-- A column of which a default has a call with one loss is written with
that call and that loss. Where its modifiers do not repeat, it has no other
loss, and is written if its identities have modes. -/
theorem drizzleColumn_lossy (hk : t.kind.BuiltIn) (hd : ⟨.default, setting⟩ ∈ t.modifiers)
    (hcall : Drizzle.defaultCall t name setting = ⟨[loss], .ok written⟩)
    (options : Option Variant) (generatedAs : Option String) :
    (∀ text, (Drizzle.column t name options generatedAs).outcome = .ok text →
      loss ∈ (Drizzle.column t name options generatedAs).notes ∧
        ∃ before after, text = before ++ written ++ after) ∧
    (t.modifierKinds.Nodup → HasModes t.modifiers →
      (Drizzle.column t name options generatedAs).Returns ∧
        (Drizzle.column t name options generatedAs).notes = [loss]) := by
  obtain ⟨builder, hbase⟩ :=
    base_builtIn hk (d := .drizzle) (by decide) name options s!"text('{name}')"
  have hmodifier : Drizzle.modifierCall t name ⟨.default, setting⟩ = ⟨[loss], .ok written⟩ := hcall
  have hcolumn : Drizzle.column t name options generatedAs = (fun calls =>
      builder ++ String.join calls ++ Drizzle.computedCall generatedAs) <$>
        each (Drizzle.modifierCall t name) t.modifiers := by
    unfold Drizzle.column
    rw [hbase, done_bind, map_eq_pure_bind]
  rw [hcolumn, notes_map]
  constructor
  · intro text htext
    obtain ⟨calls, hcalls, rfl⟩ := outcome_map_ok.mp htext
    rw [notes_each_ok ⟨calls, hcalls⟩]
    refine ⟨List.mem_flatMap.mpr ⟨_, hd, by rw [hmodifier]; simp⟩, ?_⟩
    obtain ⟨call, hmem, hcall⟩ := exists_of_mem_forall₂ (outcome_each_iff.mp hcalls).flip hd
    rw [hmodifier] at hcall
    obtain rfl := Except.ok.inj hcall
    obtain ⟨before, after, rfl⟩ := List.append_of_mem hmem
    refine ⟨builder ++ String.join before, String.join after ++ Drizzle.computedCall generatedAs,
      ?_⟩
    simp only [String.join_append, String.join_cons, String.append_assoc]
  · intro hn hmodes
    obtain ⟨before, after, hchain⟩ := List.append_of_mem hd
    unfold ColumnType.modifierKinds at hn
    rw [hchain] at hn hmodes ⊢
    have hplain : ∀ m ∈ before ++ after, (Drizzle.modifierCall t name m).notes = [] ∧
        (Drizzle.modifierCall t name m).Returns := by
      intro m hm
      have hmem : m ∈ before ++ ⟨.default, setting⟩ :: after := by
        rcases List.mem_append.mp hm with h | h <;> simp [h]
      obtain ⟨hnotes, hreturns⟩ := modifierCall_plain (kind_ne_of_nodup hn hm)
      exact ⟨hnotes, hreturns (hmodes m hmem)⟩
    have hreturns : (each (Drizzle.modifierCall t name)
        (before ++ (⟨.default, setting⟩ : Modifier) :: after)).Returns := by
      rw [returns_each, List.forall_mem_append, List.forall_mem_cons]
      exact ⟨fun m hm => (hplain m (List.mem_append_left _ hm)).2, ⟨written, by rw [hmodifier]⟩,
        fun m hm => (hplain m (List.mem_append_right _ hm)).2⟩
    have hbefore : before.flatMap (fun m => (Drizzle.modifierCall t name m).notes) = [] :=
      List.flatMap_eq_nil_iff.mpr fun m hm => (hplain m (List.mem_append_left _ hm)).1
    have hafter : after.flatMap (fun m => (Drizzle.modifierCall t name m).notes) = [] :=
      List.flatMap_eq_nil_iff.mpr fun m hm => (hplain m (List.mem_append_right _ hm)).1
    refine ⟨returns_map.mpr hreturns, ?_⟩
    rw [notes_each_ok hreturns, List.flatMap_append, List.flatMap_cons, hmodifier, hbefore, hafter]
    rfl

/-- The flags of a column give its identity a mode. -/
theorem hasModes_resolved {c : Column} (h : HasModes c.type.modifiers) :
    HasModes c.resolved.modifiers := by
  intro m hm hkind
  rw [Column.resolved_eq_setAll] at hm
  rcases ColumnType.mem_setAll hm with hflag | hown
  · obtain ⟨mode, hmode⟩ := c.flags_mode m hflag hkind
    exact ⟨mode, by rw [hmode]; rfl⟩
  · exact h m hown hkind

end Emit

/-! ## Rejected defaults -/

/-- A text that a column has by default although its type turns it down is
noted as a loss, once in each dialect, and written with a clause in SQL and
a call in Drizzle. The clause holds one literal, which denotes the text,
unless the column holds decimals; the call holds one, unless the column
holds lists or a carriage return stands in the text. -/
theorem rejected_default {c : Column} {s : String} (h : c.TurnsDown s) (name : String)
    (key : List String) (options : Option Variant) :
    let loss := Loss.outOfDomain (.str s) name c.type.name
    let sql := Emit.columnIn .sql key options name c
    let drizzle := Emit.columnIn .drizzle key options name c
    ∃ clause call : String,
      Emit.Sql.defaultClause c.resolved name (.data (.str s)) (Variant.ofOptions options) =
        ⟨[loss], .ok (some clause)⟩ ∧
      Emit.Drizzle.defaultCall c.resolved name (.data (.str s)) = ⟨[loss], .ok call⟩ ∧
      sql.notes = [loss] ∧
      (∀ text, sql.outcome = .ok text →
        ∃ before after, text = " ".intercalate (before ++ clause :: after)) ∧
      (∀ text, drizzle.outcome = .ok text →
        loss ∈ drizzle.notes ∧ ∃ before after, text = before ++ call ++ after) ∧
      (c.type.modifierKinds.Nodup → Emit.HasModes c.type.modifiers →
        sql.Returns ∧ drizzle.Returns ∧ drizzle.notes = [loss]) ∧
      (sqlQuoting.Once clause s ↔ ¬ ∃ shape, c.type.kind = .decimal shape) ∧
      (scriptQuoting.Once call s ↔
        (¬ ∃ element modifiers, c.type.kind = .array element modifiers) ∧
          ScriptReader.hasReturn s = false) := by
  intro loss sql drizzle
  let keyed := c.withPrimary (key == [name])
  have hkeyed : keyed.TurnsDown s := h.withPrimary _
  have hclause := Emit.defaultClause_rejected c.resolved_kind h.rejects name
    (Variant.ofOptions options)
  have hcall {t : ColumnType} (ht : t.kind = c.type.kind) :=
    Emit.defaultCall_rejected ht h.rejects name
  obtain ⟨hnotes, htext, hreturns⟩ := Emit.definition_lossy h.builtIn h.default hclause
  obtain ⟨hwritten, hexact⟩ := Emit.drizzleColumn_lossy (keyed.resolved_kind ▸ h.builtIn)
    (Emit.mem_of_lastSetting? hkeyed.default) (hcall keyed.resolved_kind) options c.generatedAs
  refine ⟨_, _, hclause, hcall c.resolved_kind, hnotes, htext, hwritten, ?_,
    Kind.once_clause_iff h.builtIn s, Kind.once_call_iff h.builtIn h.rejects⟩
  intro hn hmodes
  have hkeyedNodup : keyed.resolved.modifierKinds.Nodup := by
    rw [Column.resolved_eq_setAll]
    exact ColumnType.nodup_setAll _ hn _
  obtain ⟨hdrizzle, hloss⟩ := hexact hkeyedNodup (Emit.hasModes_resolved hmodes)
  exact ⟨hreturns (Emit.hasModes_resolved hmodes), hdrizzle, hloss⟩

/-- A column of codes with a text by default that is too long for them. -/
def codeColumn : Column :=
  { Column.plain (.plain (.string (some 2))) with
    default := some (.str "it's long")
    computed_alone := rfl }

theorem rejected_default_code :
    let loss := Loss.outOfDomain (.str "it's long") "code" "string"
    codeColumn.TurnsDown "it's long" ∧
      Emit.columnIn .sql ["id"] none "code" codeColumn =
        ⟨[loss], .ok "code VARCHAR(2) NOT NULL DEFAULT 'it''s long'"⟩ ∧
      sqlQuoting.Once "DEFAULT 'it''s long'" "it's long" ∧
      (Emit.columnIn .drizzle ["id"] none "code" codeColumn).notes = [loss] := by
  intro loss
  have h : codeColumn.TurnsDown "it's long" :=
    Column.turnsDown_of_default (fun _ => Kind.noConfusion) List.nodup_nil rfl rfl
  obtain ⟨clause, call, hclause, -, -, -, -, hreturns, honce, -⟩ :=
    rejected_default h "code" ["id"] none
  have hclause : "DEFAULT 'it''s long'" = clause :=
    Option.some.inj (Except.ok.inj (congrArg Noted.outcome hclause))
  have hplain : ¬ ∃ shape, codeColumn.type.kind = .decimal shape := by
    rintro ⟨shape, ⟨⟩⟩
  refine ⟨h, rfl, hclause ▸ honce.mpr hplain, ?_⟩
  exact (hreturns (by decide) nofun).2.2

/-- A column of prices with a text by default. -/
def pricedColumn : Column :=
  { Column.plain (.plain (.decimal (.free none))) with
    default := some (.str "0, paid BOOLEAN")
    computed_alone := rfl }

/-- A column of lists with a text by default. -/
def listedColumn : Column :=
  { Column.plain (.plain (.array .integer [])) with
    default := some (.str "[]).primaryKey(")
    computed_alone := rfl }

/-- A text by default of a decimal becomes a column of its own in SQL, and
one of a list a method call in Drizzle. -/
theorem rejected_default_unquoted :
    pricedColumn.TurnsDown "0, paid BOOLEAN" ∧
      (Emit.columnIn .sql ["id"] (some .postgres) "price" pricedColumn).outcome =
        .ok "price DECIMAL NOT NULL DEFAULT 0, paid BOOLEAN" ∧
      ¬ sqlQuoting.Once "DEFAULT 0, paid BOOLEAN" "0, paid BOOLEAN" ∧
      listedColumn.TurnsDown "[]).primaryKey(" ∧
      (Emit.columnIn .drizzle ["id"] none "tags" listedColumn).outcome =
        .ok "jsonb('tags').notNull().default([]).primaryKey()" ∧
      ¬ scriptQuoting.Once ".default([]).primaryKey()" "[]).primaryKey(" := by
  have hpriced : pricedColumn.TurnsDown "0, paid BOOLEAN" :=
    Column.turnsDown_of_default (fun _ => Kind.noConfusion) List.nodup_nil rfl rfl
  have hlisted : listedColumn.TurnsDown "[]).primaryKey(" :=
    Column.turnsDown_of_default (fun _ => Kind.noConfusion) List.nodup_nil rfl rfl
  refine ⟨hpriced, rfl, ?_, hlisted, rfl, ?_⟩
  · exact Quoting.not_once_raw "DEFAULT ".toList [] (by decide) (by decide) (by decide)
  · exact Quoting.not_once_raw ".default(".toList [')'] (by decide) (by decide) (by decide)

end Polyschema
