/-
Polyschema.Proofs.BackslashLiteral — SQL literals where a backslash is an
escape.

MySQL reads a backslash within a literal as the beginning of an escape, and
a literal is written with its quotes doubled and its backslashes as they
are. So a literal is read back where no backslash of its text escapes
anything.

* `BackslashReader` — what a literal means to MySQL.
* `Faithful` — the texts that survive: a backslash stands in them only
  before a percent sign or an underscore.
* `literal?_sqlString_iff` — a literal is read back as its text exactly
  then.
* `Weaves` — a text holds literals in turn.
* `mysql_literals_read` — the columns and the tables of MySQL hold those of
  their members, defaults and comments.
-/
import Mathlib.Data.List.Chain
import Mathlib.Data.List.Induction
import Polyschema.Proofs.RejectedDefault

namespace Polyschema

open Polyschema.Text Polyschema.Noted

/-! ## Reading -/

namespace BackslashReader

/-- What an escape denotes. Before a character that needs none, the
backslash is left out, but it stays in the escapes for patterns. -/
def unescape : Char → List Char
  | '0' => [Char.ofNat 0]
  | 'b' => [Char.ofNat 0x08]
  | 't' => ['\t']
  | 'n' => ['\n']
  | 'r' => ['\r']
  | 'Z' => [Char.ofNat 0x1a]
  | '%' => [backslash, '%']
  | '_' => [backslash, '_']
  | c => [c]

/-- The body of a literal up to its closing quote, and what follows that.
A quote within the text is doubled or escaped. -/
def body? : List Char → Option (List Char × List Char)
  | [] => none
  | [c] => if c = quote then some ([], []) else none
  | c :: d :: rest =>
    if c = backslash then (body? rest).map fun (cs, after) => (unescape d ++ cs, after)
    else if c = quote then
      if d = quote then (body? rest).map fun (cs, after) => (quote :: cs, after)
      else some ([], d :: rest)
    else (body? (d :: rest)).map fun (cs, after) => (c :: cs, after)

/-- The text of a literal, and what follows it. -/
def literal? : List Char → Option (String × List Char) := single? body?

/-- What no backslash changes: each stands before a percent sign or an
underscore, and none before the closing quote. -/
def Faithful (cs : List Char) : Prop :=
  (cs ++ [quote]).IsChain fun c d => c = backslash → d = '%' ∨ d = '_'

instance (cs : List Char) : Decidable (Faithful cs) :=
  inferInstanceAs (Decidable (List.IsChain _ _))

theorem faithful_nil : Faithful [] := List.isChain_singleton _

theorem faithful_singleton {c : Char} : Faithful [c] ↔ c ≠ backslash := by
  refine List.isChain_cons_cons.trans ⟨fun h hc => absurd (h.1 hc) (by decide), fun hc => ?_⟩
  exact ⟨fun h => absurd h hc, List.isChain_singleton _⟩

theorem faithful_cons_cons {c d : Char} {cs : List Char} :
    Faithful (c :: d :: cs) ↔ (c = backslash → d = '%' ∨ d = '_') ∧ Faithful (d :: cs) :=
  List.isChain_cons_cons

theorem faithful_cons {c : Char} (hc : c ≠ backslash) {cs : List Char} :
    Faithful (c :: cs) ↔ Faithful cs := by
  cases cs with
  | nil => exact iff_of_true (faithful_singleton.mpr hc) faithful_nil
  | cons d cs => exact faithful_cons_cons.trans (and_iff_right fun h => absurd h hc)

theorem body?_escape (d : Char) (rest : List Char) :
    body? (backslash :: d :: rest) =
      (body? rest).map fun (cs, after) => (unescape d ++ cs, after) := by
  rw [body?, if_pos rfl]

theorem body?_quote {rest : List Char} (h : rest.head? ≠ some quote) :
    body? (quote :: rest) = some ([], rest) := by
  cases rest with
  | nil => rfl
  | cons d rest =>
    have hd : d ≠ quote := by simpa using h
    rw [body?, if_neg (by decide), if_pos rfl, if_neg hd]

/-- A character that is no backslash is read as itself. -/
theorem body?_sqlBody_cons {c : Char} (hc : c ≠ backslash) (cs rest : List Char) :
    body? (sqlBody (c :: cs) ++ rest) =
      (body? (sqlBody cs ++ rest)).map fun (cs, after) => (c :: cs, after) := by
  by_cases hquote : c = quote
  · have hbody : sqlBody (c :: cs) = quote :: quote :: sqlBody cs := by simp [sqlBody, hquote]
    rw [hbody, List.cons_append, List.cons_append, body?, if_neg (by decide), if_pos rfl,
      if_pos rfl, hquote]
  · have hbody : sqlBody (c :: cs) = c :: sqlBody cs := by simp [sqlBody, hquote]
    rw [hbody, List.cons_append]
    cases sqlBody cs ++ rest with
    | nil => simp [body?, hquote]
    | cons d rest => rw [body?, if_neg hc, if_neg hquote]

/-- An escape for patterns stays, and any other denotes one character,
which is a backslash for a backslash only. -/
theorem unescape_cases (d : Char) :
    ((d = '%' ∨ d = '_') ∧ unescape d = [backslash, d]) ∨
      ∃ e, unescape d = [e] ∧ (e = backslash → d = backslash) := by
  unfold unescape
  split
  case h_7 => exact .inl ⟨.inl rfl, rfl⟩
  case h_8 => exact .inl ⟨.inr rfl, rfl⟩
  case h_9 => exact .inr ⟨_, rfl, id⟩
  all_goals exact .inr ⟨_, rfl, by decide⟩

theorem sqlBody_cons {c : Char} (hc : c ≠ quote) (cs : List Char) :
    sqlBody (c :: cs) = c :: sqlBody cs := by
  simp [sqlBody, hc]

theorem pattern_ne {d : Char} (h : d = '%' ∨ d = '_') : d ≠ quote ∧ d ≠ backslash := by
  rcases h with rfl | rfl <;> decide

/-- An escape for patterns is read as it is written. -/
theorem body?_pattern {d : Char} (hd : d = '%' ∨ d = '_') (cs rest : List Char) :
    body? (sqlBody (backslash :: d :: cs) ++ rest) =
      (body? (sqlBody cs ++ rest)).map fun (cs, after) => (backslash :: d :: cs, after) := by
  have hescape : unescape d = [backslash, d] := by rcases hd with rfl | rfl <;> rfl
  rw [sqlBody_cons (by decide), sqlBody_cons (pattern_ne hd).1, List.cons_append,
    List.cons_append, body?_escape, hescape]
  rfl

theorem body?_of_faithful {cs rest : List Char} (hrest : rest.head? ≠ some quote)
    (h : Faithful cs) : body? (sqlBody cs ++ quote :: rest) = some (cs, rest) := by
  induction cs using List.twoStepInduction with
  | nil => exact body?_quote hrest
  | singleton c =>
    rw [body?_sqlBody_cons (faithful_singleton.mp h)]
    exact congrArg (Option.map _) (body?_quote hrest)
  | cons_cons c d cs ih ih' =>
    by_cases hc : c = backslash
    · obtain ⟨hstep, htail⟩ := faithful_cons_cons.mp h
      have hd := hstep hc
      rw [hc, body?_pattern hd, ih ((faithful_cons (pattern_ne hd).2).mp htail)]
      rfl
    · rw [body?_sqlBody_cons hc, ih' d ((faithful_cons hc).mp h)]
      rfl

/-- The backslashes before a backslash may as well stand after it. -/
theorem replicate_append_backslash (count : Nat) (cs : List Char) :
    List.replicate count backslash ++ backslash :: cs =
      backslash :: (List.replicate count backslash ++ cs) := by
  rw [← List.cons_append, ← List.replicate_succ, List.replicate_succ', List.append_assoc]
  rfl

/-- An escaped quote is no backslash. -/
theorem body?_escaped_quote (cs after rest : List Char) :
    body? (backslash :: quote :: rest) ≠ some (backslash :: cs, after) := by
  intro h
  rw [body?_escape] at h
  obtain ⟨⟨body, left⟩, -, heq⟩ := Option.map_eq_some_iff.mp h
  exact absurd (List.cons.inj (Prod.mk.inj heq).1).1 (by decide)

/-- What is read as a text with more backslashes before it has none more, and
none of the text changes it. -/
def Recovers (cs rest : List Char) : Prop :=
  ∀ count, body? (sqlBody cs ++ quote :: rest) = some (List.replicate count backslash ++ cs, rest) →
    count = 0 ∧ Faithful cs

theorem recovers_nil {rest : List Char} (hrest : rest.head? ≠ some quote) : Recovers [] rest := by
  intro count h
  rw [sqlBody, List.flatMap_nil, List.nil_append, body?_quote hrest] at h
  obtain ⟨hcount, -⟩ := Prod.mk.inj (Option.some.inj h)
  cases count with
  | zero => exact ⟨rfl, faithful_nil⟩
  | succ count => cases hcount

/-- A backslash at the end escapes the closing quote. -/
theorem recovers_backslash (rest : List Char) : Recovers [backslash] rest := by
  intro count h
  rw [sqlBody_cons (by decide), replicate_append_backslash] at h
  exact absurd h (body?_escaped_quote _ _ _)

/-- A plain character is read alone, so that nothing was before it. -/
theorem Recovers.plain {c : Char} (hc : c ≠ backslash) {cs rest : List Char}
    (ih : Recovers cs rest) : Recovers (c :: cs) rest := by
  intro count h
  rw [body?_sqlBody_cons hc] at h
  obtain ⟨⟨body, left⟩, hread, heq⟩ := Option.map_eq_some_iff.mp h
  obtain ⟨hbody, rfl⟩ := Prod.mk.inj heq
  cases count with
  | zero =>
    obtain ⟨-, rfl⟩ := List.cons.inj hbody
    exact ⟨rfl, (faithful_cons hc).mpr (ih 0 hread).2⟩
  | succ count => exact absurd (List.cons.inj hbody).1 hc

theorem Recovers.escape {cs rest : List Char} (ih : Recovers cs rest) (d : Char) :
    Recovers (backslash :: d :: cs) rest := by
  intro count h
  rw [sqlBody_cons (by decide), replicate_append_backslash] at h
  by_cases hd : d = quote
  · rw [hd] at h
    exact absurd h (body?_escaped_quote _ _ _)
  rw [sqlBody_cons hd, List.cons_append, List.cons_append, body?_escape] at h
  obtain ⟨⟨body, left⟩, hread, heq⟩ := Option.map_eq_some_iff.mp h
  obtain ⟨hbody, rfl⟩ := Prod.mk.inj heq
  obtain ⟨hpattern, hescape⟩ | ⟨e, hescape, hback⟩ := unescape_cases d
  · rw [hescape] at hbody
    have htail := (List.cons.inj hbody).2
    cases count with
    | zero =>
      obtain ⟨-, rfl⟩ := List.cons.inj htail
      have hcs := (faithful_cons (pattern_ne hpattern).2).mpr (ih 0 hread).2
      exact ⟨rfl, faithful_cons_cons.mpr ⟨fun _ => hpattern, hcs⟩⟩
    | succ count => exact absurd (List.cons.inj htail).1 (pattern_ne hpattern).2
  · -- a backslash that is left out is missing from then on
    rw [hescape] at hbody
    obtain ⟨rfl, rfl⟩ := List.cons.inj hbody
    rw [hback rfl, replicate_append_backslash, ← List.cons_append, ← List.replicate_succ] at hread
    exact absurd (ih _ hread).1 (Nat.succ_ne_zero _)

theorem recovers (cs : List Char) {rest : List Char} (hrest : rest.head? ≠ some quote) :
    Recovers cs rest := by
  induction cs using List.twoStepInduction with
  | nil => exact recovers_nil hrest
  | singleton c =>
    by_cases hc : c = backslash
    · exact hc ▸ recovers_backslash rest
    · exact (recovers_nil hrest).plain hc
  | cons_cons c d cs ih ih' =>
    by_cases hc : c = backslash
    · exact hc ▸ ih.escape d
    · exact (ih' d).plain hc

/-- A literal is read back where no backslash changes its text, whatever
follows it but a quote. -/
theorem literal?_sqlString_iff (s : String) {after : List Char}
    (hafter : after.head? ≠ some quote) :
    literal? ((sqlString s).toList ++ after) = some (s, after) ↔ Faithful s.toList := by
  have htext : (sqlString s).toList ++ after = quote :: (sqlBody s.toList ++ quote :: after) := by
    simp [sqlString]
  rw [htext]
  constructor
  · intro h
    obtain ⟨rest, heq, hread⟩ := single?_eq_some h
    obtain ⟨-, rfl⟩ := List.cons.inj heq
    exact (recovers _ hafter 0 hread).2
  · intro h
    rw [literal?, single?, if_pos rfl, body?_of_faithful hafter h]
    simp

end BackslashReader

/-! ## Literals within a text -/

/-- A text that is written as a literal, and what stands right before
that. -/
structure Quoted where
  opening : String
  text : String

/-- A text holds literals in turn, each right after its opening. Of what
each denotes and of what follows it, `p` holds. -/
inductive Weaves (p : String → List Char → Prop) : List Char → List Quoted → Prop
  | nil (cs : List Char) : Weaves p cs []
  | cons (before : List Char) {opening s : String} {after : List Char} {literals : List Quoted} :
      p s after → Weaves p after literals →
      Weaves p (before ++ (opening.toList ++ ((sqlString s).toList ++ after)))
        (⟨opening, s⟩ :: literals)

namespace Weaves

variable {p : String → List Char → Prop} {cs ds : List Char} {literals others : List Quoted}

theorem imp {q : String → List Char → Prop} (hq : ∀ s after, p s after → q s after)
    (h : Weaves p cs literals) : Weaves q cs literals := by
  induction h with
  | nil cs => exact nil cs
  | cons before hp _ ih => exact cons before (hq _ _ hp) ih

theorem prepend (before : List Char) (h : Weaves p cs literals) :
    Weaves p (before ++ cs) literals := by
  cases h with
  | nil => exact nil _
  | cons front hp hrest =>
    rw [← List.append_assoc]
    exact cons _ hp hrest

end Weaves

/-- No quote follows. -/
def Unquoted (_ : String) (after : List Char) : Prop := after.head? ≠ some quote

/-- Texts that follow each other hold their literals in turn, if the second
does not begin with a quote. -/
theorem Weaves.append {cs ds : List Char} {literals others : List Quoted}
    (h : Weaves Unquoted cs literals) (h' : Weaves Unquoted ds others)
    (hd : ds.head? ≠ some quote) : Weaves Unquoted (cs ++ ds) (literals ++ others) := by
  induction h with
  | nil cs => exact h'.prepend cs
  | cons before hp _ ih =>
    simp only [List.append_assoc]
    refine cons before ?_ ih
    rename_i after _ _
    cases after with
    | nil => exact hd
    | cons c after => exact hp

/-- Texts that hold literals, one text after the other. -/
inductive EachWeaves : List String → List Quoted → Prop
  | nil : EachWeaves [] []
  | cons {t : String} {texts : List String} {literals others : List Quoted} :
      Weaves Unquoted t.toList literals → EachWeaves texts others →
      EachWeaves (t :: texts) (literals ++ others)

theorem Weaves.single {t : String} {literals : List Quoted}
    (h : Weaves Unquoted t.toList literals) : EachWeaves [t] literals := by
  simpa using EachWeaves.cons h .nil

namespace EachWeaves

variable {texts texts' : List String} {literals others : List Quoted}

theorem plain (texts : List String) : EachWeaves texts [] := by
  induction texts with
  | nil => exact nil
  | cons t texts ih => exact cons (.nil _) ih

theorem append (h : EachWeaves texts literals) (h' : EachWeaves texts' others) :
    EachWeaves (texts ++ texts') (literals ++ others) := by
  induction h with
  | nil => exact h'
  | cons ht _ ih =>
    rw [List.cons_append, List.append_assoc]
    exact cons ht ih

/-- Texts with a separator between each two hold their literals, if that
does not begin with a quote. -/
theorem intercalate {sep : String} {c : Char} {rest : List Char} (hsep : sep.toList = c :: rest)
    (hc : c ≠ quote) (h : EachWeaves texts literals) :
    Weaves Unquoted (sep.intercalate texts).toList literals := by
  induction h with
  | nil => exact .nil _
  | @cons t texts literals others ht hrest ih =>
    cases texts with
    | nil =>
      cases hrest
      simpa using ht
    | cons u texts =>
      rw [String.intercalate_cons_cons, String.append_assoc, String.toList_append]
      refine ht.append ?_ ?_
      · rw [String.toList_append]
        exact ih.prepend _
      · rw [String.toList_append, hsep]
        simpa using hc

/-- Of parts that may be missing, those that are there hold theirs. -/
theorem filterMap {part : Option String} {parts : List (Option String)}
    (h : EachWeaves part.toList literals) (h' : EachWeaves (parts.filterMap id) others) :
    EachWeaves ((part :: parts).filterMap id) (literals ++ others) := by
  have hsplit : (part :: parts).filterMap id = part.toList ++ parts.filterMap id := by
    cases part <;> rfl
  rw [hsplit]
  exact h.append h'

end EachWeaves

/-! ## Columns -/

/-- Members in a row, the first right after its opening. -/
def quotedItems (opening : String) : List String → List Quoted
  | [] => []
  | m :: rest => ⟨opening, m⟩ :: quotedItems ", " rest

/-- The members of an enumeration, which MySQL has in its type. -/
def Kind.quoted : Kind → List Quoted
  | enum members => quotedItems "ENUM(" members.list
  | _ => []

/-- A text that columns with texts have by default. -/
def ColumnType.quotedDefault (t : ColumnType) : List Quoted :=
  match t.kind, (Emit.lastSetting? .default t.modifiers).map Emit.settingValue with
  | .string _, some (.str s) | .enum _, some (.str s) => [⟨"DEFAULT ", s⟩]
  | _, _ => []

/-- A comment that is not empty, right after its opening. -/
def quotedComment (opening : String) (comment : Option String) : List Quoted :=
  (Emit.Sql.givenWhen true comment).toList.map (⟨opening, ·⟩)

/-- The texts that a column writes as literals in MySQL. -/
def ColumnType.quoted (t : ColumnType) (comment : Option String) : List Quoted :=
  t.kind.quoted ++ (t.quotedDefault ++ quotedComment "COMMENT " comment)

/-- The texts that a table writes as literals in MySQL. -/
def Table.quoted (t : Table) : List Quoted :=
  (t.columns.entries.flatMap fun entry => entry.2.resolved.quoted entry.2.comment) ++
    quotedComment ") COMMENT=" t.comment

namespace Emit

theorem weaves_literal (opening s : String) {after : List Char}
    (hafter : after.head? ≠ some quote) :
    Weaves Unquoted (opening.toList ++ ((sqlString s).toList ++ after)) [⟨opening, s⟩] :=
  .cons [] hafter (.nil after)

theorem eachWeaves_literal (opening s : String) :
    EachWeaves [opening ++ sqlString s] [⟨opening, s⟩] := by
  have hend : [].head? ≠ some quote := by decide
  have hliteral := weaves_literal opening s hend
  rw [List.append_nil, ← String.toList_append] at hliteral
  exact hliteral.single

theorem weaves_members (opening : String) (members : List String) {after : List Char}
    (hafter : after.head? ≠ some quote) :
    Weaves Unquoted (opening.toList ++ ((commas (members.map sqlString)).toList ++ after))
      (quotedItems opening members) := by
  induction members generalizing opening with
  | nil => exact .nil _
  | cons m members ih =>
    cases members with
    | nil => simpa [commas, quotedItems] using weaves_literal opening m hafter
    | cons n members =>
      have hcommas : (commas ((m :: n :: members).map sqlString)).toList ++ after =
          (sqlString m).toList ++
            (", ".toList ++ ((commas ((n :: members).map sqlString)).toList ++ after)) := by
        simp [commas, String.intercalate_cons_cons]
      rw [hcommas]
      exact .cons [] (by simp [Unquoted, quote]) (ih ", ")

/-- The fragment of a type holds the members of its enumeration. -/
theorem weaves_base {t : ColumnType} {name fallback fragment : String}
    (h : (base t .sql name (some .mysql) fallback).outcome = .ok fragment) :
    Weaves Unquoted fragment.toList t.kind.quoted := by
  unfold base at h
  cases hkind : t.kind with
  | enum members =>
    rw [hkind] at h
    cases h
    have hclosed : (")".toList).head? ≠ some quote := by decide
    have hmembers := (weaves_members "ENUM(" members.list hclosed).prepend (name ++ " ").toList
    rw [← String.toList_append, ← String.toList_append, ← String.toList_append] at hmembers
    show Weaves Unquoted (_ ++ "").toList _
    rw [String.append_empty]
    exact hmembers
  | _ => exact .nil _

/-- A text is stored as it is, in its domain or not. -/
theorem outcome_storedDefault_str {t : ColumnType} {s name : String} {stored : Value}
    (ht : (∃ max, t.kind = .string max) ∨ ∃ members, t.kind = .enum members)
    (h : (storedDefault t (.str s) name).outcome = .ok stored) : stored = .str s := by
  obtain ⟨accepted, -, h⟩ := outcome_bind_ok.mp h
  have hstored : t.serialize (.str s) = .ok (.str s) := by
    unfold ColumnType.serialize
    rcases ht with ⟨max, ht⟩ | ⟨members, ht⟩ <;> rw [ht] <;> rfl
  cases accepted with
  | true => exact (Except.ok.inj (hstored.symm.trans h)).symm
  | false => exact (Except.ok.inj h).symm

theorem outcome_defaultClause_str {t : ColumnType} {s name : String} {setting : Setting}
    {clause : Option String} {v : Variant}
    (ht : (∃ max, t.kind = .string max) ∨ ∃ members, t.kind = .enum members)
    (hs : settingValue setting = .str s)
    (h : (Sql.defaultClause t name setting v).outcome = .ok clause) :
    clause = some ("DEFAULT " ++ sqlString s) := by
  unfold Sql.defaultClause at h
  rw [hs] at h
  obtain ⟨stored, hstored, h⟩ := outcome_bind_ok.mp h
  obtain rfl := outcome_storedDefault_str ht hstored
  have hname : (t.name == "decimal") = false := by
    unfold ColumnType.name
    rcases ht with ⟨max, ht⟩ | ⟨members, ht⟩ <;> rw [ht] <;> rfl
  rw [hname] at h
  exact (Except.ok.inj h).symm

theorem weaves_default {t : ColumnType} {name : String} {v : Variant} {default : Option String}
    (h : (Sql.defaultPart t name v).outcome = .ok default) :
    EachWeaves default.toList t.quotedDefault := by
  have htext {s : String} (ht : (∃ max, t.kind = .string max) ∨ ∃ members, t.kind = .enum members)
      (hs : (lastSetting? .default t.modifiers).map settingValue = some (.str s)) :
      EachWeaves default.toList [⟨"DEFAULT ", s⟩] := by
    obtain ⟨setting, hlast, hs⟩ := Option.map_eq_some_iff.mp hs
    rw [Sql.defaultPart, hlast] at h
    obtain rfl := outcome_defaultClause_str ht hs h
    exact eachWeaves_literal "DEFAULT " s
  unfold ColumnType.quotedDefault
  split
  next max s hkind hs => exact htext (.inl ⟨max, hkind⟩) hs
  next members s hkind hs => exact htext (.inr ⟨members, hkind⟩) hs
  next => exact .plain _

theorem weaves_comment (comment : Option String) :
    EachWeaves (Sql.commentClause .mysql comment).toList (quotedComment "COMMENT " comment) := by
  unfold Sql.commentClause quotedComment Sql.givenWhen
  by_cases hgiven : isGiven comment = true
  · cases comment with
    | none => cases hgiven
    | some c =>
      simp only [hgiven, Bool.and_true, if_true, and_self, Option.map_some, Option.toList_some]
      exact eachWeaves_literal "COMMENT " c
  · simp only [hgiven]
    exact .nil

/-- A column holds its literals in turn. -/
theorem weaves_column {t : ColumnType} {name text : String} {generatedAs comment : Option String}
    (h : (Sql.column t name (some .mysql) generatedAs comment).outcome = .ok text) :
    Weaves Unquoted text.toList (t.quoted comment) := by
  obtain ⟨parts, hparts, htext⟩ := outcome_bind_ok.mp h
  obtain rfl := Except.ok.inj htext
  unfold Sql.columnParts at hparts
  obtain ⟨fragment, hfragment, hparts⟩ := outcome_bind_ok.mp hparts
  obtain ⟨default, hdefault, hparts⟩ := outcome_bind_ok.mp hparts
  obtain ⟨identity, hidentity, hparts⟩ := outcome_bind_ok.mp hparts
  obtain rfl := Except.ok.inj hparts
  have hnone : EachWeaves (([] : List (Option String)).filterMap id) [] := .nil
  have hclauses := EachWeaves.cons (weaves_base hfragment) <|
    .filterMap (.plain (Sql.nullClause t.modifiers).toList) <|
    .filterMap (.plain (Sql.uniqueClause t.modifiers).toList) <|
    .filterMap (weaves_default hdefault) <|
    .filterMap (.plain identity.toList) <|
    .filterMap (.plain (Sql.computedClause generatedAs).toList) <|
    .filterMap (weaves_comment comment) hnone
  have hblank : " ".toList = [' '] := rfl
  have htext := hclauses.intercalate hblank (by decide)
  simp only [List.nil_append, List.append_nil] at htext
  exact htext

/-! ## Tables -/

/-- The lines of a body hold what its entries hold. -/
theorem weaves_bodyLines {entries : List Sql.Entry} {literals : List Quoted}
    (h : EachWeaves (entries.map Sql.Entry.text) literals) :
    EachWeaves (Sql.bodyLines entries) literals := by
  induction entries generalizing literals with
  | nil => exact h
  | cons entry rest ih =>
    obtain _ | ⟨hentry, hrest⟩ := h
    have hcomments := EachWeaves.plain (entry.comments.map ("  " ++ ·))
    have hindented : ∀ tail : String, tail.toList.head? ≠ some quote →
        Weaves Unquoted ("  " ++ entry.text ++ tail).toList _ := fun tail htail => by
      rw [String.append_assoc, String.toList_append, String.toList_append]
      have hclosed := (hentry.append (.nil tail.toList) htail).prepend "  ".toList
      rwa [List.append_nil] at hclosed
    cases rest with
    | nil =>
      have hline := hindented "" (by decide)
      rw [String.append_empty] at hline
      cases hrest
      exact hcomments.append (.cons hline .nil)
    | cons next rest =>
      exact hcomments.append (.cons (hindented "," (by decide)) (ih hrest))

theorem weaves_closingLine (comment : Option String) :
    Weaves Unquoted (Sql.closingLine .mysql comment).toList
      (quotedComment ") COMMENT=" comment) := by
  have hmysql : (Variant.mysql == .mysql) = true := rfl
  unfold Sql.closingLine quotedComment
  rw [hmysql]
  cases Sql.givenWhen true comment with
  | none => exact .nil _
  | some c =>
    have hend : (";".toList).head? ≠ some quote := by decide
    have hliteral := weaves_literal ") COMMENT=" c hend
    rw [← List.append_assoc, ← String.toList_append, ← String.toList_append] at hliteral
    exact hliteral

theorem weaves_entries {columns : List (String × Column)} {entries : List Sql.Entry}
    (h : (each (fun e : String × Column => Sql.columnEntry (some .mysql) e.1 e.2) columns).outcome =
      .ok entries) :
    EachWeaves (entries.map Sql.Entry.text)
      (columns.flatMap fun e => e.2.resolved.quoted e.2.comment) := by
  have hall := outcome_each_iff.mp h
  clear h
  induction hall with
  | nil => exact .nil
  | cons hentry _ ih =>
    obtain ⟨text, htext, hentry⟩ := outcome_bind_ok.mp hentry
    obtain rfl := Except.ok.inj hentry
    exact .cons (weaves_column htext) ih

/-- A table holds the literals of its columns in turn, and at its end that of
its comment. -/
theorem weaves_createTable {t : Table} {s : Sql.CreateTable}
    (h : (Sql.createTable t (some .mysql)).outcome = .ok s) :
    Weaves Unquoted s.text.toList t.quoted := by
  by_cases hk : t.primaryKey = []
  · rw [createTable_of_undeclared hk] at h
    cases h
  rw [createTable_of_declared hk] at h
  obtain ⟨_, -, h⟩ := outcome_bind_ok.mp h
  obtain ⟨columns, hcolumns, h⟩ := outcome_bind_ok.mp h
  obtain rfl := Except.ok.inj h
  have hentries := (weaves_entries hcolumns).append
    (.plain ((.primaryKey t.primaryKey :: (t.uniques.map .unique ++ t.checks.map .check)).map
      Sql.Entry.text))
  rw [List.append_nil, ← List.map_append] at hentries
  have hbody := weaves_bodyLines hentries
  have hclosing := (weaves_closingLine t.comment).single
  have hopening := EachWeaves.plain [s!"CREATE TABLE {t.name} ("]
  have hfeed : "\n".toList = ['\n'] := rfl
  exact ((hopening.append hbody).append hclosing).intercalate hfeed (by decide)

end Emit

/-- A literal is read back as its text, up to its closing quote, exactly
where no backslash changes the text. -/
def ReadIfFaithful (s : String) (after : List Char) : Prop :=
  BackslashReader.literal? ((sqlString s).toList ++ after) = some (s, after) ↔
    BackslashReader.Faithful s.toList

/-- In MySQL, columns and tables hold the literals of their members, of
their defaults that are texts, and of their comments. Each of them is read
back exactly where no backslash changes its text. -/
theorem mysql_literals_read (t : ColumnType) (name : String) (generatedAs comment : Option String)
    (table : Table) :
    (∀ text, (Emit.Sql.column t name (some .mysql) generatedAs comment).outcome = .ok text →
      Weaves ReadIfFaithful text.toList (t.quoted comment)) ∧
    ∀ s, (Emit.Sql.createTable table (some .mysql)).outcome = .ok s →
      Weaves ReadIfFaithful s.text.toList table.quoted := by
  have hread (s : String) (after : List Char) (h : Unquoted s after) : ReadIfFaithful s after :=
    BackslashReader.literal?_sqlString_iff s h
  constructor
  · intro text h
    exact (Emit.weaves_column h).imp hread
  · intro s h
    exact (Emit.weaves_createTable h).imp hread

/-- Kinds of rates, with a quote and with a percent sign that is escaped. -/
def rateKinds : Kind := .enum ⟨["it's", "50\\%"], by decide, by decide, by decide⟩

/-- A table of rates with members, a default and comments. -/
def ratesTable : Table where
  name := "rates"
  columns := ⟨[
    ("id", .plain (.plain .integer)),
    ("kind", { Column.plain (.plain rateKinds) with
      default := some (.str "it's")
      comment := some "It's 50\\%"
      computed_alone := rfl })], by decide⟩
  primaryKey := ["id"]
  uniques := []
  checks := []
  comment := some "Today's"

theorem mysql_literals_read_rates :
    (∃ text, (Emit.Sql.column (.plain rateKinds) "kind" (some .mysql) none
        (some "It's")).outcome = .ok text ∧
      text = "kind ENUM('it''s', '50\\%') COMMENT 'It''s'" ∧
      Weaves ReadIfFaithful text.toList
        [⟨"ENUM(", "it's"⟩, ⟨", ", "50\\%"⟩, ⟨"COMMENT ", "It's"⟩]) ∧
    ∃ s, (Emit.Sql.createTable ratesTable (some .mysql)).outcome = .ok s ∧
      s.text = lines ["CREATE TABLE rates (", "  id INTEGER NOT NULL,",
        "  kind ENUM('it''s', '50\\%') NOT NULL DEFAULT 'it''s' COMMENT 'It''s 50\\%',",
        "  PRIMARY KEY (id)", ") COMMENT='Today''s';"] ∧
      Weaves ReadIfFaithful s.text.toList [⟨"ENUM(", "it's"⟩, ⟨", ", "50\\%"⟩,
        ⟨"DEFAULT ", "it's"⟩, ⟨"COMMENT ", "It's 50\\%"⟩, ⟨") COMMENT=", "Today's"⟩] := by
  obtain ⟨hcolumn, htable⟩ :=
    mysql_literals_read (.plain rateKinds) "kind" none (some "It's") ratesTable
  exact ⟨⟨_, rfl, by decide +kernel, hcolumn _ rfl⟩, _, rfl, by decide +kernel, htable _ rfl⟩

/-- A member that is a backslash escapes the quote that should close it. A
backslash before a quote ends a literal early. -/
theorem backslash_escapes_quote :
    (Emit.Sql.column (.plain (.enum ⟨["\\"], by decide, by decide, by decide⟩)) "n" (some .mysql)
      none none).outcome = .ok "n ENUM('\\')" ∧
    BackslashReader.literal? "'\\')".toList = none ∧
    BackslashReader.literal? (sqlString "\\'); DROP TABLE users; -- ").toList =
      some ("'", "); DROP TABLE users; -- '".toList) := by
  refine ⟨rfl, by decide, by decide +kernel⟩

end Polyschema
