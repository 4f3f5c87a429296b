/-
Polyschema.Proofs.ScriptLiteral — single-quoted literals of TypeScript,
and the closed sets of texts that are written with them.

A literal ends at its first quote that is not escaped, and no line feed
and no carriage return may stand in it. Backslash, quote and line feed
are escaped on the way out; a carriage return is not.

* `ScriptReader` — what a literal, a list of literals and a validator of
  literals mean.
* `literal?_scriptString` — a literal is read back where its text has no
  carriage return, and is no literal where it has one.
* `items?_intercalate` — so it is with items between commas.
* `scriptLiterals_read` — so it is with the members of an enumeration.
-/
import Polyschema.Kind.Fragment
import Polyschema.Value.JsonReader

namespace Polyschema

open Polyschema.Text
open Polyschema.JsonReader (isGap skip afterWord)

namespace ScriptReader

/-! ## What is read -/

/-- The character for which an escape of one character stands. Longer
escapes and continued lines are not read. -/
def unescape? (c : Char) : Option Char :=
  match c with
  | 'b' => some (Char.ofNat 0x08)
  | 't' => some '\t'
  | 'n' => some '\n'
  | 'v' => some (Char.ofNat 0x0b)
  | 'f' => some (Char.ofNat 0x0c)
  | 'r' => some '\r'
  | 'x' | 'u' | '\n' | '\r' => none
  | c => if c.isDigit || c.toNat == 0x2028 || c.toNat == 0x2029 then none else some c

/-- The body of a literal up to its closing quote, its escapes undone, and
what follows the quote. No line ends inside a literal. -/
def body? : List Char → Option (List Char × List Char)
  | [] => none
  | c :: rest =>
    if c = quote then some ([], rest)
    else if c = backslash then match rest with
      | [] => none
      | d :: rest => match unescape? d, body? rest with
        | some e, some (cs, after) => some (e :: cs, after)
        | _, _ => none
    else if c = '\n' ∨ c = '\r' then none
    else (body? rest).map fun (cs, after) => (c :: cs, after)
termination_by structural cs => cs

/-- The text of a literal, and what follows it. -/
def literal? : List Char → Option (String × List Char)
  | c :: rest =>
    if c = quote then (body? rest).map fun (cs, after) => (String.ofList cs, after) else none
  | [] => none

/-- Items between commas up to a closing character, and what follows it.
Blanks may stand around a comma. The fuel bounds the number of items. -/
def items? {α : Type} (item? : List Char → Option (α × List Char)) (close : Char) :
    Nat → List Char → Option (List α × List Char)
  | 0, _ => none
  | fuel + 1, cs =>
    match item? cs with
    | none => none
    | some (a, rest) => match skip rest with
      | [] => none
      | c :: rest =>
        if c = ',' then
          (items? item? close fuel (skip rest)).map fun (as, after) => (a :: as, after)
        else if c = close then some ([a], rest)
        else none

/-- The text that a validator of one literal admits. -/
def literalCall? (cs : List Char) : Option (String × List Char) := do
  let rest ← afterWord "v.literal(" cs
  match ← literal? rest with
  | (s, ')' :: rest) => some (s, rest)
  | _ => none

/-- The texts that a validator of literals admits: one literal, or a union
of literals. -/
def literals? (cs : List Char) : Option (List String × List Char) :=
  match afterWord "v.union(" cs with
  | some rest => items? literalCall? ')' rest.length rest
  | none => (literalCall? cs).map fun (s, rest) => ([s], rest)

/-- The members that the option of a Drizzle column lists. -/
def builderMembers? (name text : String) : Option (List String) := do
  let rest ← afterWord s!"text('{name}', \x7b enum: [" text.toList
  let (members, rest) ← items? literal? ']' rest.length rest
  if rest = " \x7d)".toList then some members else none

/-- The members that a Convex member admits. -/
def validatorMembers? (name text : String) : Option (List String) := do
  let rest ← afterWord s!"{name}: " text.toList
  let (members, rest) ← literals? rest
  if rest = [] then some members else none

/-! ## Literals -/

theorem body?_escape {d e : Char} (h : unescape? d = some e) (rest : List Char) :
    body? (backslash :: d :: rest) = (body? rest).map fun (cs, after) => (e :: cs, after) := by
  rw [body?, if_neg (by decide), if_pos rfl]
  simp only [h]
  cases body? rest <;> rfl

/-- A character that is no escape stands for itself, if it may stand
there. -/
theorem body?_plain {c : Char} (hquote : c ≠ quote) (hback : c ≠ backslash) (rest : List Char) :
    body? (c :: rest) = if c = '\n' ∨ c = '\r' then none
      else (body? rest).map fun (cs, after) => (c :: cs, after) := by
  rw [body?.eq_def]
  simp only [if_neg hquote, if_neg hback]

theorem body?_quote (rest : List Char) : body? (quote :: rest) = some ([], rest) := by
  rw [body?.eq_def]
  rfl

/-- A character is read back from how it is written. A carriage return is
written as itself and is not read. -/
theorem body?_scriptEscape (c : Char) (rest : List Char) :
    body? (scriptEscape c ++ rest) =
      if c = '\r' then none else (body? rest).map fun (cs, after) => (c :: cs, after) := by
  unfold scriptEscape
  by_cases hback : c = backslash
  · rw [if_pos hback, hback, if_neg (by decide)]
    exact body?_escape rfl rest
  rw [if_neg hback]
  by_cases hquote : c = quote
  · rw [if_pos hquote, hquote, if_neg (by decide)]
    exact body?_escape rfl rest
  rw [if_neg hquote]
  by_cases hline : c = '\n'
  · rw [if_pos hline, hline, if_neg (by decide)]
    exact body?_escape rfl rest
  rw [if_neg hline, List.singleton_append, body?_plain hquote hback]
  simp only [hline, false_or]

/-- The body of a literal is read back up to its closing quote, unless a
carriage return stands in it. -/
theorem body?_flatMap (cs rest : List Char) :
    body? (cs.flatMap scriptEscape ++ quote :: rest) =
      if '\r' ∈ cs then none else some (cs, rest) := by
  induction cs with
  | nil => rw [List.flatMap_nil, List.nil_append, body?_quote, if_neg List.not_mem_nil]
  | cons c cs ih =>
    rw [List.flatMap_cons, List.append_assoc, body?_scriptEscape, ih]
    by_cases hc : c = '\r'
    · rw [if_pos hc, hc, if_pos List.mem_cons_self]
    · rw [if_neg hc]
      by_cases hmem : '\r' ∈ cs
      · rw [if_pos hmem, if_pos (List.mem_cons_of_mem _ hmem)]
        rfl
      · have hnot : '\r' ∉ c :: cs := fun h =>
          (List.mem_cons.mp h).elim (fun heq => hc heq.symm) hmem
        rw [if_neg hmem, if_neg hnot]
        rfl

/-- Whether a carriage return stands in a text. -/
def hasReturn (s : String) : Bool := s.toList.contains '\r'

theorem toList_scriptString (s : String) :
    (scriptString s).toList = quote :: (s.toList.flatMap scriptEscape ++ [quote]) := by
  rw [scriptString, String.toList_ofList]

/-- A literal is read back, unless a carriage return stands in its text:
then it is no literal. -/
theorem literal?_scriptString (s : String) (rest : List Char) :
    literal? ((scriptString s).toList ++ rest) =
      if hasReturn s then none else some (s, rest) := by
  rw [toList_scriptString, List.cons_append, List.append_assoc, List.singleton_append, literal?,
    if_pos rfl, body?_flatMap]
  unfold hasReturn
  by_cases h : '\r' ∈ s.toList
  · rw [if_pos h, if_pos (List.contains_iff_mem.mpr h)]
    rfl
  · rw [if_neg h, if_neg (fun hc => h (List.contains_iff_mem.mp hc))]
    simp

/-! ## Items between commas -/

/-- How items are written and read: with no blank before them, and each up
to where it ends unless it is spoilt. -/
structure Items {α : Type} (item? : List Char → Option (α × List Char)) (text : α → List Char)
    (spoilt : α → Bool) : Prop where
  opens : ∀ a, ∃ c after, text a = c :: after ∧ isGap c = false
  reads : ∀ a rest, item? (text a ++ rest) = if spoilt a then none else some (a, rest)

variable {α : Type} {item? : List Char → Option (α × List Char)} {text : α → List Char}
  {spoilt : α → Bool} {close : Char}

/-- A blank before items is passed over, and nothing of the items. -/
theorem Items.skip_blank (h : Items item? text spoilt) (a : α) (as : List α) (after : List Char) :
    skip (' ' :: ([',', ' '].intercalate (text a :: as.map text) ++ after)) =
      [',', ' '].intercalate (text a :: as.map text) ++ after := by
  obtain ⟨c, next, hc, hgap⟩ := h.opens a
  rw [hc, List.intercalate_cons_cons_left, List.cons_append, skip,
    List.dropWhile_cons_of_pos (by decide), List.dropWhile_cons_of_neg (by simp [hgap])]

/-- Items between commas are read back, unless one of them is spoilt. -/
theorem items?_intercalate (h : Items item? text spoilt) (hcomma : close ≠ ',')
    (hgap : isGap close = false) (a : α) (as : List α) {fuel : Nat} (hfuel : as.length < fuel)
    (after : List Char) :
    items? item? close fuel ([',', ' '].intercalate (text a :: as.map text) ++ close :: after) =
      if (a :: as).any spoilt then none else some (a :: as, after) := by
  induction as generalizing a fuel with
  | nil =>
    obtain ⟨k, rfl⟩ : ∃ k, fuel = k + 1 := ⟨fuel - 1, by omega⟩
    rw [List.map_nil, List.intercalate_singleton, items?, h.reads]
    have hskip : skip (close :: after) = close :: after := by simp [skip, hgap]
    cases hbad : spoilt a <;> simp [hskip, hcomma, hbad]
  | cons b as ih =>
    rw [List.length_cons] at hfuel
    obtain ⟨k, rfl⟩ : ∃ k, fuel = k + 1 := ⟨fuel - 1, by omega⟩
    have hsplit : [',', ' '].intercalate (text a :: (b :: as).map text) =
        text a ++ ',' :: ' ' :: [',', ' '].intercalate (text b :: as.map text) := by
      simp
    have hrest := ih b (show as.length < k by omega)
    have hskip (rest : List Char) : skip (',' :: rest) = ',' :: rest := rfl
    rw [hsplit, List.append_assoc, List.cons_append, List.cons_append, items?, h.reads,
      List.any_cons]
    cases hbad : spoilt a with
    | true => rfl
    | false =>
      simp only [hskip, h.skip_blank, hrest, Bool.false_or, Bool.false_eq_true, if_false, if_true]
      cases (b :: as).any spoilt <;> rfl

/-- Each item has a character or more. -/
theorem Items.length_le (h : Items item? text spoilt) (as : List α) :
    as.length ≤ ([',', ' '].intercalate (as.map text)).length := by
  induction as with
  | nil => exact Nat.le_refl _
  | cons a as ih =>
    obtain ⟨c, after, hc, -⟩ := h.opens a
    cases as with
    | nil => simp [hc]
    | cons b as =>
      rw [List.map_cons, List.map_cons, List.intercalate_cons_cons, hc, List.length_append,
        List.length_append]
      rw [List.map_cons] at ih
      simp only [List.length_cons] at ih ⊢
      omega

/-- Items between commas are read back with as much fuel as they have
characters. -/
theorem items?_commas (h : Items item? text spoilt) (hcomma : close ≠ ',')
    (hgap : isGap close = false) {as : List α} (hne : as ≠ []) {cs after : List Char}
    (hcs : cs = [',', ' '].intercalate (as.map text) ++ close :: after) :
    items? item? close cs.length cs = if as.any spoilt then none else some (as, after) := by
  obtain ⟨a, as, rfl⟩ := List.exists_cons_of_ne_nil hne
  have hlength : as.length < cs.length := by
    have := h.length_le (a :: as)
    rw [hcs, List.length_append, List.length_cons]
    rw [List.length_cons] at this
    omega
  rw [hcs, List.map_cons] at hlength ⊢
  exact items?_intercalate h hcomma hgap a as hlength after

/-! ## Enumerations -/

theorem afterWord_append (word : String) (rest : List Char) :
    afterWord word (word.toList ++ rest) = some rest := by
  rw [afterWord, if_pos (by simp), ← String.length_toList, List.drop_left]

theorem items_literal : Items literal? (fun s => (scriptString s).toList) hasReturn := by
  refine ⟨fun s => ⟨quote, _, toList_scriptString s, by decide⟩, literal?_scriptString⟩

/-- A validator of one literal. -/
def literalCall (s : String) : String := s!"v.literal({scriptString s})"

theorem toList_literalCall (s : String) :
    (literalCall s).toList = "v.literal(".toList ++ ((scriptString s).toList ++ [')']) := by
  show ("v.literal(" ++ scriptString s ++ ")").toList = _
  simp

theorem items_literalCall : Items literalCall? (fun s => (literalCall s).toList) hasReturn := by
  refine ⟨fun s => ⟨'v', _, toList_literalCall s, by decide⟩, fun s rest => ?_⟩
  rw [toList_literalCall, List.append_assoc, literalCall?, afterWord_append, List.append_assoc]
  simp only [Option.bind_eq_bind, Option.bind_some, literal?_scriptString]
  cases hasReturn s <;> rfl

/-- The members of an enumeration are read back from its Drizzle column. -/
theorem builderMembers?_read (members : Members) (name : String) (options : Option Variant) :
    ∃ text, (Kind.enum members).fragment? .drizzle name options = some (.ok text) ∧
      builderMembers? name text =
        if members.list.any hasReturn then none else some members.list := by
  refine ⟨_, rfl, ?_⟩
  have htext : (Kind.callText (Kind.enum members).builder
      (s!"'{name}'" :: (Kind.enum members).builderOptions)).toList =
      (s!"text('{name}', \x7b enum: [").toList ++
        ([',', ' '].intercalate (members.list.map fun s => (scriptString s).toList) ++
          ']' :: " \x7d)".toList) := by
    show ("text" ++ "(" ++ commas ["'" ++ name ++ "'", "\x7b enum: [" ++
      commas (members.list.map scriptString) ++ "] \x7d"] ++ ")").toList =
        ("text('" ++ name ++ "', \x7b enum: [").toList ++ _
    simp [commas, String.toList_intercalate, Function.comp_def]
  rw [builderMembers?, htext, afterWord_append]
  simp only [Option.bind_eq_bind, Option.bind_some]
  rw [items?_commas items_literal (by decide) (by decide) members.some_member rfl]
  cases members.list.any hasReturn <;> simp

/-- The texts of a union are read back, and so is the text of a single
literal. -/
theorem literals?_literalUnion {members : List String} (hne : members ≠ []) :
    literals? (Kind.literalUnion members).toList =
      if members.any hasReturn then none else some (members, []) := by
  match members, hne with
  | [only], _ =>
    have hcall : literalCall? (literalCall only).toList =
        if hasReturn only then none else some (only, []) := by
      simpa using items_literalCall.reads only []
    have hunion : afterWord "v.union(" (literalCall only).toList = none := by
      rw [toList_literalCall]
      rfl
    show literals? (literalCall only).toList = _
    rw [literals?, hunion, List.any_cons, List.any_nil, Bool.or_false]
    simp only [hcall]
    cases hasReturn only <;> rfl
  | m :: m' :: rest, _ =>
    have htext : (Kind.literalUnion (m :: m' :: rest)).toList = "v.union(".toList ++
        ([',', ' '].intercalate ((m :: m' :: rest).map fun s => (literalCall s).toList) ++
          ')' :: []) := by
      show ("v.union(" ++ commas ((m :: m' :: rest).map literalCall) ++ ")").toList = _
      rw [commas, String.toList_append, String.toList_append, String.toList_intercalate,
        List.map_map, List.append_assoc]
      rfl
    rw [literals?, htext, afterWord_append]
    exact items?_commas items_literalCall (by decide) (by decide) (List.cons_ne_nil _ _) rfl

/-- The members of an enumeration are read back from its Convex member. -/
theorem validatorMembers?_read (members : Members) (name : String) (options : Option Variant) :
    ∃ text, (Kind.enum members).fragment? .convex name options = some (.ok text) ∧
      validatorMembers? name text =
        if members.list.any hasReturn then none else some members.list := by
  refine ⟨Kind.memberText name (Kind.literalUnion members.list), rfl, ?_⟩
  have htext : (Kind.memberText name (Kind.literalUnion members.list)).toList =
      (s!"{name}: ").toList ++ (Kind.literalUnion members.list).toList := by
    show (name ++ ": " ++ _).toList = (name ++ ": ").toList ++ _
    simp
  rw [validatorMembers?, htext, afterWord_append]
  simp only [Option.bind_eq_bind, Option.bind_some,
    literals?_literalUnion members.some_member]
  cases members.list.any hasReturn <;> rfl

/-- A literal is one literal and denotes its text exactly where no carriage
return stands in the text; where one does, it is no literal. So the list
in a Drizzle column and the union in a Convex member denote the members of
an enumeration, in order, exactly where no member has a carriage return. -/
theorem scriptLiterals_read (s : String) (rest : List Char) (members : Members) (name : String)
    (options : Option Variant) :
    (literal? ((scriptString s).toList ++ rest) = if hasReturn s then none else some (s, rest)) ∧
    (∃ text, (Kind.enum members).fragment? .drizzle name options = some (.ok text) ∧
      builderMembers? name text =
        if members.list.any hasReturn then none else some members.list) ∧
    ∃ text, (Kind.enum members).fragment? .convex name options = some (.ok text) ∧
      validatorMembers? name text =
        if members.list.any hasReturn then none else some members.list :=
  ⟨literal?_scriptString s rest, builderMembers?_read members name options,
    validatorMembers?_read members name options⟩

/-- A carriage return is written as it is, so the line ends inside the
literal. -/
theorem carriageReturn_raw :
    scriptString "a\rb" = "'a\rb'" ∧ literal? (scriptString "a\rb").toList = none := by
  decide

end ScriptReader

end Polyschema
