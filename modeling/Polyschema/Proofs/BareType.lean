/-
Polyschema.Proofs.BareType — the bare SQL type of a column type.

It is what a stand-in column of the type says before its first check. The
key columns of a junction have it, so it must be the type that the columns
say to which they refer.

* `infix_commas_iff` — a word without quotes stands among quoted members
  where it stands in one of them.
* `Kind.described` — a column that says a bare type.
* `bareType_described_iff` — each column of a built-in kind says its bare
  type, but where the opening of a check stands in a member in MySQL.
-/
import Polyschema.Emit.Relationship
import Polyschema.Proofs.Digits
import Polyschema.Proofs.Nullable

namespace Polyschema

open Polyschema.Text Polyschema.Noted

namespace Text

/-! ## Words within quoted members -/

section

variable {word : List Char} (hquote : quote ∉ word) (hne : word ≠ [])
include hquote hne

/-- A word without quotes stands in the body of a literal where it stands
in the text. -/
theorem infix_sqlBody_iff (front cs : List Char) :
    word <:+: front ++ sqlBody cs ↔ word <:+: front ++ cs := by
  induction cs generalizing front with
  | nil => rfl
  | cons c cs ih =>
    by_cases hc : c = quote
    · have hbody : sqlBody (c :: cs) = quote :: quote :: sqlBody cs := by simp [sqlBody, hc]
      rw [hbody, hc, infix_append_cons_iff hquote hne, infix_append_cons_iff hquote hne,
        infix_cons_of_not_mem hquote hne]
      exact or_congr_right (ih [])
    · have hbody : sqlBody (c :: cs) = c :: sqlBody cs := by simp [sqlBody, hc]
      rw [hbody, List.append_cons, ih, ← List.append_cons]

/-- It stands before a literal, in its text or after it. -/
theorem infix_sqlString_iff (front : List Char) (s : String) (rest : List Char) :
    word <:+: front ++ ((sqlString s).toList ++ rest) ↔
      word <:+: front ∨ word <:+: s.toList ∨ word <:+: rest := by
  have htext : (sqlString s).toList ++ rest = quote :: (sqlBody s.toList ++ quote :: rest) := by
    simp [sqlString]
  have hbody : word <:+: sqlBody s.toList ↔ word <:+: s.toList :=
    infix_sqlBody_iff hquote hne [] s.toList
  rw [htext, infix_append_cons_iff hquote hne, infix_append_cons_iff hquote hne, hbody]

/-- It stands before literals with commas between them, in one of their
texts, or after them, where it does not stand between two of them. -/
theorem infix_commas_iff (hcomma : ¬ word <:+: [',', ' ']) (front : List Char)
    {members : List String} (hmembers : members ≠ []) (rest : List Char) :
    word <:+: front ++ ((commas (members.map sqlString)).toList ++ rest) ↔
      word <:+: front ∨ (∃ m ∈ members, word <:+: m.toList) ∨ word <:+: rest := by
  induction members generalizing front with
  | nil => exact absurd rfl hmembers
  | cons m members ih =>
    cases members with
    | nil =>
      have htext : commas ([m].map sqlString) = sqlString m := by simp [commas]
      rw [htext, infix_sqlString_iff hquote hne]
      simp
    | cons next members =>
      have htext : (commas ((m :: next :: members).map sqlString)).toList ++ rest =
          (sqlString m).toList ++
            ([',', ' '] ++ ((commas ((next :: members).map sqlString)).toList ++ rest)) := by
        simp [commas, String.intercalate_cons_cons]
      have hrest := ih [',', ' '] (List.cons_ne_nil next members)
      rw [htext, infix_sqlString_iff hquote hne, hrest]
      simp only [hcomma, false_or, List.exists_mem_cons_iff, or_assoc]

end

end Text

/-! ## Bare types -/

namespace Kind

variable {k : Kind}

/-- The word at which a check opens. -/
def checkOpening : String := " CHECK ("

/-- The type of an enumeration in MySQL holds the opening of a check where
a member holds it. -/
theorem infix_sqlType_enum_iff (members : Members) :
    checkOpening.toList <:+: ((Kind.enum members).sqlType .mysql).toList ↔
      ∃ m ∈ members.list, checkOpening.toList <:+: m.toList := by
  have htext : ((Kind.enum members).sqlType .mysql).toList =
      "ENUM(".toList ++ ((commas (members.list.map sqlString)).toList ++ [')']) := by
    show ("ENUM(" ++ sqlMembers members ++ ")").toList = _
    rw [String.toList_append, String.toList_append, List.append_assoc]
    rfl
  have hfront : ¬ checkOpening.toList <:+: "ENUM(".toList := by decide
  have hrest : ¬ checkOpening.toList <:+: [')'] := by decide
  rw [htext, infix_commas_iff (by decide) (by decide) (by decide) _ members.some_member]
  simp only [hfront, hrest, false_or, or_false]

theorem blank_not_mem_digits (n : Nat) : ' ' ∉ Nat.toDigits 10 n := by
  intro h
  exact absurd (isDigit_toDigits n ' ' h) (by decide)

/-- No other type has a blank. -/
theorem blank_not_mem_sqlType {v : Variant} (h : ¬ (v = .mysql ∧ ∃ members, k = .enum members)) :
    ' ' ∉ (k.sqlType v).toList := by
  cases k with
  | string max =>
    cases max with
    | none => simp [sqlType]
    | some max =>
      show ' ' ∉ ("VARCHAR(" ++ toString max ++ ")").toList
      simp [blank_not_mem_digits]
  | decimal shape =>
    cases shape with
    | free scale => simp [sqlType]
    | fixed precision scale positive fits =>
      show ' ' ∉ ("DECIMAL(" ++ toString precision ++ "," ++ toString scale ++ ")").toList
      simp [blank_not_mem_digits]
  | enum members =>
    cases v with
    | mysql => exact absurd ⟨rfl, members, rfl⟩ h
    | _ => simp [sqlType]
  | _ => cases v <;> simp [sqlType]

/-- A column that says a bare type: its name and the type, and for an
enumeration its members, where the variant has no type for them. -/
def described (k : Kind) (v : Variant) (name type : String) : String :=
  match k, v with
  | enum members, .postgres | enum members, .sqlite =>
    s!"{name} {type} CHECK ({name} IN ({sqlMembers members}))"
  | _, _ => s!"{name} {type}"

theorem described_eq (k : Kind) (v : Variant) (name type : String) :
    k.described v name type = name ++ " " ++ type ++ k.sqlCheck v name := by
  have hplain : name ++ " " ++ type = name ++ " " ++ type ++ "" := String.append_empty.symm
  cases k with
  | enum members =>
    cases v with
    | mysql => exact hplain
    | _ =>
      show name ++ " " ++ type ++ " CHECK (" ++ name ++ " IN (" ++ sqlMembers members ++ "))" =
        name ++ " " ++ type ++ (" CHECK (" ++ name ++ " IN (" ++ sqlMembers members ++ "))")
      simp only [String.append_assoc]
  | _ => exact hplain

/-- A built-in kind says its type. -/
theorem BuiltIn.sqlFragment (hk : k.BuiltIn) (name : String) (options : Option Variant) :
    k.fragment? .sql name options = some (.ok (k.described (Variant.ofOptions options) name
      (k.sqlType (Variant.ofOptions options)))) := by
  rw [described_eq]
  cases k with
  | custom spec => exact absurd rfl (hk spec)
  | _ => rfl

theorem described_inj {v : Variant} {name type type' : String} :
    k.described v name type = k.described v name type' ↔ type = type' := by
  rw [described_eq, described_eq, String.append_left_inj, String.append_right_inj]

/-- What follows a type opens a check, if anything does. -/
theorem sqlCheck_cases (k : Kind) (v : Variant) (name : String) :
    k.sqlCheck v name = "" ∨ ∃ rest, k.sqlCheck v name = checkOpening ++ rest := by
  cases k with
  | enum members =>
    cases v with
    | mysql => exact .inl rfl
    | _ =>
      refine .inr ⟨name ++ " IN (" ++ sqlMembers members ++ "))", ?_⟩
      show " CHECK (" ++ name ++ " IN (" ++ sqlMembers members ++ "))" = _
      simp only [checkOpening, String.append_assoc]
  | _ => exact .inl rfl

/-- What a column says before a check is its type, but where the opening of
a check stands in a member in MySQL. -/
theorem beforeFirst_check_iff (k : Kind) (v : Variant) (name : String) :
    beforeFirst checkOpening (k.sqlType v ++ k.sqlCheck v name) = k.sqlType v ↔
      ¬ (v = .mysql ∧ ∃ members, k = .enum members ∧
        ∃ m ∈ members.list, checkOpening.toList <:+: m.toList) := by
  by_cases hmysql : v = .mysql ∧ ∃ members, k = .enum members
  · obtain ⟨rfl, members, rfl⟩ := hmysql
    have hcheck : (Kind.enum members).sqlCheck .mysql name = "" := rfl
    rw [hcheck, String.append_empty, beforeFirst_eq_iff (by decide), infix_sqlType_enum_iff]
    simp
  · have hblank := blank_not_mem_sqlType hmysql
    have hcut : beforeFirst checkOpening (k.sqlType v ++ k.sqlCheck v name) = k.sqlType v := by
      obtain hcheck | ⟨rest, hcheck⟩ := sqlCheck_cases k v name
      · rw [hcheck, String.append_empty, beforeFirst, cut_of_not_mem (c := ' ') rfl hblank]
      · rw [hcheck, ← String.append_assoc, beforeFirst, cut_append (c := ' ') rfl hblank]
    have hnone : ¬ (v = .mysql ∧ ∃ members, k = .enum members ∧
        ∃ m ∈ members.list, checkOpening.toList <:+: m.toList) := by
      rintro ⟨hv, members, hk, -⟩
      exact hmysql ⟨hv, members, hk⟩
    exact iff_of_true hcut hnone

end Kind

namespace Emit

/-- The bare type of a built-in kind is what a stand-in column says before
a check. -/
theorem bareType_eq {t : ColumnType} (hk : t.kind.BuiltIn) (options : Option Variant) :
    Sql.bareType t options = .done (beforeFirst Kind.checkOpening
      (t.kind.sqlType (Variant.ofOptions options) ++
        t.kind.sqlCheck (Variant.ofOptions options) "__column__")) := by
  have hbase : base t.base .sql "__column__" options ("__column__" ++ " TEXT") =
      .done ("__column__" ++ " " ++ (t.kind.sqlType (Variant.ofOptions options) ++
        t.kind.sqlCheck (Variant.ofOptions options) "__column__")) := by
    have hfragment := hk.sqlFragment "__column__" options
    rw [Kind.described_eq, String.append_assoc] at hfragment
    unfold base
    rw [ColumnType.base, hfragment]
    rfl
  unfold Sql.bareType
  dsimp only
  rw [hbase, done_bind, dropOpening_append]
  rfl

/-- The bare type of a built-in kind exists, and the key columns of a
junction have it if they refer to a column of the kind, whatever its
modifiers are. Each column of the kind says this type, but for those of an
enumeration in MySQL with a member that holds the opening of a check. -/
theorem bareType_described_iff {t : ColumnType} (hk : t.kind.BuiltIn) (options : Option Variant) :
    let v := Variant.ofOptions options
    ∃ type, Sql.bareType t options = .done type ∧
      (∀ (table : Table) column c, table.columns.get? column = some c → c.type = t →
        keyType (some table) column options = .done type) ∧
      ∀ name, ∃ fragment, t.kind.fragment? .sql name options = some (.ok fragment) ∧
        (fragment = t.kind.described v name type ↔
          ¬ (v = .mysql ∧ ∃ members, t.kind = .enum members ∧
            ∃ m ∈ members.list, Kind.checkOpening.toList <:+: m.toList)) := by
  intro v
  refine ⟨_, bareType_eq hk options, ?_, ?_⟩
  · intro table column c hc ht
    have hside : ((some table).bind fun t => t.columns.get? column) = some c := hc
    unfold keyType
    rw [hside]
    dsimp only
    rw [ht, bareType_eq hk options]
  · intro name
    refine ⟨_, hk.sqlFragment name options, ?_⟩
    rw [Kind.described_inj, eq_comm]
    exact t.kind.beforeFirst_check_iff v "__column__"

/-- A price that is unique and may be missing. -/
def priceType : ColumnType :=
  ⟨.decimal (.fixed 10 2 (by decide) (by decide)),
    [⟨.unique, .flag true⟩, ⟨.nullable, .flag true⟩]⟩

theorem bareType_described_price :
    priceType.kind.BuiltIn ∧ Sql.bareType priceType (some .mysql) = .done "DECIMAL(10,2)" ∧
      ∃ fragment, priceType.kind.fragment? .sql "price" (some .mysql) = some (.ok fragment) ∧
        fragment = "price DECIMAL(10,2)" := by
  have hk : priceType.kind.BuiltIn := fun _ => Kind.noConfusion
  have hbare : Sql.bareType priceType (some .mysql) = .done "DECIMAL(10,2)" := rfl
  obtain ⟨type, htype, -, hfragment⟩ := bareType_described_iff hk (some .mysql)
  obtain ⟨fragment, hwritten, hdescribed⟩ := hfragment "price"
  have hsame : type = "DECIMAL(10,2)" :=
    Except.ok.inj (congrArg Noted.outcome (htype.symm.trans hbare))
  refine ⟨hk, hbare, fragment, hwritten, (hdescribed.mpr ?_).trans ?_⟩
  · rintro ⟨-, members, hmembers, -⟩
    cases hmembers
  · rw [hsame]
    rfl

/-- An enumeration whose only member holds the opening of a check. -/
def checkedType : ColumnType :=
  .plain (.enum ⟨["a CHECK (b"], by decide, by decide, by decide⟩)

/-- In MySQL its bare type ends within that member, so the key column of a
junction has another type than the column to which it refers. -/
theorem bareType_cut_in_member :
    Sql.bareType checkedType (some .mysql) = .done "ENUM('a" ∧
      checkedType.kind.fragment? .sql "n" (some .mysql) = some (.ok "n ENUM('a CHECK (b')") ∧
      "n ENUM('a CHECK (b')" ≠ checkedType.kind.described .mysql "n" "ENUM('a" := by
  refine ⟨rfl, rfl, ?_⟩
  decide

end Emit

end Polyschema
