/-
Polyschema.Proofs.ScanLiteral — the literals of a file, as it is scanned.

* `Lettered`, `inert_camel` — names, and the names made from them.
* `inert_intText`, `inert_floatText` — numbers.
* `scans_scriptString` — a literal of TypeScript: only an opening of a
  template is seen in it, and exactly where its text holds one.
* `silent_json` — nothing is called in JSON text.
-/
import Polyschema.Proofs.Digits
import Polyschema.Proofs.Noted
import Polyschema.Proofs.Scan
import Polyschema.Proofs.Sort
import Polyschema.Value.Json

namespace Polyschema

open Polyschema.Text Polyschema.Number

namespace Emit

/-! ## Names and numbers -/

theorem bland_of_continuesName {c : Char} (h : continuesName c = true) : Bland c := by
  have hne {d : Char} (hd : continuesName d = false) : c ≠ d := by
    rintro rfl
    rw [h] at hd
    cases hd
  have hmarks : plain c = true := by
    simp only [plain, Bool.and_eq_true, bne_iff_ne]
    exact ⟨⟨⟨hne (by decide), hne (by decide)⟩, hne (by decide)⟩, hne (by decide)⟩
  exact ⟨hmarks, hne (by decide)⟩

theorem bland_of_isAlphanum {c : Char} (h : c.isAlphanum = true) : Bland c :=
  bland_of_continuesName (by simp [continuesName, h])

theorem bland_of_isDigit {c : Char} (h : c.isDigit = true) : Bland c :=
  bland_of_isAlphanum (by simp [Char.isAlphanum, h])

/-- A name of letters, digits and underscores. -/
def Lettered (name : String) : Prop := ∀ c ∈ name.toList, continuesName c = true

instance (name : String) : Decidable (Lettered name) := List.decidableBAll _ _

theorem Lettered.append {s t : String} (hs : Lettered s) (ht : Lettered t) :
    Lettered (s ++ t) := by
  intro c hc
  rw [String.toList_append, List.mem_append] at hc
  exact hc.elim (hs c) (ht c)

theorem Lettered.inert {name : String} (h : Lettered name) : Inert name :=
  fun c hc => bland_of_continuesName (h c hc)

/-- Only letters and digits are in the words of a name. -/
theorem isAlphanum_of_mem_casedWords {cs word : List Char} (h : word ∈ casedWords cs) :
    ∀ c ∈ word, c.isAlphanum = true := by
  induction cs generalizing word with
  | nil => cases h
  | cons d rest ih =>
    rw [casedWords] at h
    split at h
    next hd =>
      split at h
      · cases hw : casedWords rest with
        | nil =>
          rw [hw] at h
          obtain rfl := List.mem_singleton.mp h
          exact List.forall_mem_singleton.mpr hd
        | cons first others =>
          rw [hw] at h ih
          rcases List.mem_cons.mp h with rfl | h
          · exact List.forall_mem_cons.mpr ⟨hd, ih List.mem_cons_self⟩
          · exact ih (List.mem_cons_of_mem _ h)
      · rcases List.mem_cons.mp h with rfl | h
        · exact List.forall_mem_singleton.mpr hd
        · exact ih h
    next => exact ih h

theorem isAlphanum_case {c : Char} (h : c.isAlphanum = true) :
    c.toLower.isAlphanum = true ∧ c.toUpper.isAlphanum = true := by
  have hall : ∀ n < 0x80, (Char.ofNat n).isAlphanum = true →
      (Char.ofNat n).toLower.isAlphanum = true ∧ (Char.ofNat n).toUpper.isAlphanum = true := by
    decide
  have hc := hall c.toNat (toNat_lt_of_isAlphanum h)
  rw [Char.ofNat_toNat] at hc
  exact hc h

theorem isAlphanum_of_mem_words {name : String} {word : List Char} (h : word ∈ words name) :
    ∀ c ∈ word, c.isAlphanum = true := by
  obtain ⟨cased, hw, rfl⟩ := List.mem_map.mp h
  intro c hc
  obtain ⟨d, hd, rfl⟩ := List.mem_map.mp hc
  exact (isAlphanum_case (isAlphanum_of_mem_casedWords hw d hd)).1

/-- The name under which a table is exported calls nothing and hides
nothing, whatever the name of the table is. -/
theorem inert_camel (name : String) : Inert (camel name) := by
  have hword := @isAlphanum_of_mem_words name
  unfold camel
  split
  next => exact nofun
  next first rest hw =>
    rw [hw] at hword
    intro c hc
    rw [String.toList_ofList, List.mem_append, List.mem_flatten] at hc
    refine bland_of_isAlphanum ?_
    rcases hc with hc | ⟨capital, hmem, hc⟩
    · exact hword List.mem_cons_self c hc
    · obtain ⟨word, hrest, rfl⟩ := List.mem_map.mp hmem
      have hall := hword (List.mem_cons_of_mem _ hrest)
      cases word with
      | nil => cases hc
      | cons d ds =>
        rcases List.mem_cons.mp hc with rfl | hc
        · exact (isAlphanum_case (hall d List.mem_cons_self)).2
        · exact hall c (List.mem_cons_of_mem _ hc)

theorem inert_natText (n : Nat) : Inert (toString n) := by
  intro c hc
  rw [toList_natText] at hc
  exact bland_of_isDigit (isDigit_toDigits n c hc)

theorem inert_intText (n : Int) : Inert (toString n) := by
  intro c hc
  rw [intText, List.mem_append] at hc
  rcases hc with hc | hc
  · split at hc
    · obtain rfl := List.mem_singleton.mp hc
      decide
    · cases hc
  · exact bland_of_isDigit (isDigit_toDigits _ c hc)

theorem inert_exponentText (n : Int) : Inert (exponentText n) := by
  refine (Inert.append ?_ ?_).append (inert_natText _)
  · split <;> decide
  · split <;> decide

theorem inert_digitsText (d : Digits) : Inert d.text := by
  have hdigit (c : Char) (hc : c ∈ (toString d.digits).toList) : Bland c := inert_natText _ c hc
  have hzero {k : Nat} (c : Char) (hc : c ∈ zeros k) : Bland c := by
    rw [(List.mem_replicate.mp hc).2]
    decide
  have hpoint : Bland '.' := by decide
  unfold Digits.text
  dsimp only
  split
  · split
    · intro c hc
      simp only [String.toList_ofList, List.mem_cons, List.mem_append] at hc
      rcases hc with rfl | rfl | hc | hc
      · decide
      · exact hpoint
      · exact hzero c hc
      · exact hdigit c hc
    · intro c hc
      rw [String.toList_ofList, List.mem_append, List.mem_cons] at hc
      rcases hc with hc | rfl | hc
      · rcases List.mem_append.mp (List.mem_of_mem_take hc) with hc | hc
        · exact hdigit c hc
        · exact hzero c hc
      · exact hpoint
      · split at hc
        · obtain rfl := List.mem_singleton.mp hc
          decide
        · exact hdigit c (List.mem_of_mem_drop hc)
  · refine (Inert.append ?_ (by decide)).append (inert_exponentText _)
    intro c hc
    rw [String.toList_ofList, List.mem_append] at hc
    rcases hc with hc | hc
    · exact hdigit c (List.mem_of_mem_take hc)
    · split at hc
      · cases hc
      · rcases List.mem_cons.mp hc with rfl | hc
        · exact hpoint
        · exact hdigit c (List.mem_of_mem_drop hc)

theorem inert_floatText (x : Binary64) : Inert x.text := by
  cases x with
  | nan => decide
  | infinite negative => cases negative <;> decide
  | finite negative units =>
    refine Inert.append ?_ ?_
    · split <;> decide
    · split
      · decide
      · exact inert_digitsText _

/-! ## Quoted texts -/

variable {mark : Char}

theorem quotable_of_forall {cs : List Char}
    (h : ∀ c ∈ cs, c ≠ mark ∧ c ≠ '\n' ∧ c.toNat ≠ 0x5c) : Quotable mark cs := by
  induction cs with
  | nil => exact .nil
  | cons c cs ih =>
    obtain ⟨⟨hmark, hline, hback⟩, hrest⟩ := List.forall_mem_cons.mp h
    exact .char hmark hline hback (ih hrest)

/-- A pair that a backslash opens, and what follows it. -/
theorem quotable_pair (hm : IsMark mark) {d : Char} (hd : d ≠ '\n') {cs : List Char}
    (h : Quotable mark cs) : Quotable mark (backslash :: d :: cs) :=
  .pair (by rcases hm with rfl | rfl <;> decide) (by decide) hd h

theorem ne_backslash {c : Char} (h : c ≠ backslash) : c.toNat ≠ 0x5c := by
  intro hcode
  exact h (by rw [← Char.ofNat_toNat c, hcode]; rfl)

theorem quotable_scriptEscape (c : Char) : Quotable quote (scriptEscape c) := by
  unfold scriptEscape
  split
  next => exact quotable_pair (.inl rfl) (by decide) .nil
  next hback =>
    split
    next => exact quotable_pair (.inl rfl) (by decide) .nil
    next hquote =>
      split
      next => exact quotable_pair (.inl rfl) (by decide) .nil
      next hline => exact .char hquote hline (ne_backslash hback) .nil

theorem keepsOpenings_scriptEscape : KeepsOpenings scriptEscape := by
  have hpair {d : Char} (hd : d ∉ sqlOpening) : ∀ e ∈ [backslash, d], e ∉ sqlOpening :=
    List.forall_mem_cons.mpr ⟨by decide, List.forall_mem_singleton.mpr hd⟩
  intro c
  unfold scriptEscape
  split
  next h => exact .inr ⟨by rw [h]; decide, List.cons_ne_nil _ _, hpair (by decide)⟩
  next =>
    split
    next h => exact .inr ⟨by rw [h]; decide, List.cons_ne_nil _ _, hpair (by decide)⟩
    next =>
      split
      next h => exact .inr ⟨by rw [h]; decide, List.cons_ne_nil _ _, hpair (by decide)⟩
      next => exact .inl rfl

/-- A literal of TypeScript is left out, and an opening of a template is
seen in it where its text holds one. -/
theorem scans_scriptString (s : String) : Scans (scriptString s) ∅ (Opens s.toList) :=
  (scans_quoted (.inl rfl) (quotable_flatMap quotable_scriptEscape s.toList)).congr rfl rfl
    (opens_flatMap keepsOpenings_scriptEscape s.toList).symm

/-- A name between quotes is left out. -/
theorem scans_name {name : String} (h : Lettered name) :
    Scans (String.singleton quote ++ name ++ String.singleton quote) ∅ False := by
  have hquotable : Quotable quote name.toList := quotable_of_forall fun c hc => by
    have hne {d : Char} (hd : continuesName d = false) : c ≠ d := by
      rintro rfl
      rw [h c hc] at hd
      cases hd
    exact ⟨hne (by decide), hne (by decide), ne_backslash (hne (by decide))⟩
  have htick : backtick ∉ name.toList := fun hmem =>
    absurd (h _ hmem) (by decide)
  refine (scans_quoted (.inl rfl) hquotable).congr ?_ rfl
    (iff_of_false not_false (not_opens htick))
  apply String.toList_injective
  simp

/-! ## JSON text -/

theorem quotable_hexDigits (hm : IsMark mark) (n width : Nat) :
    Quotable mark (hexDigits n width) := by
  have hdigit : ∀ k < 16, Nat.digitChar k ≠ quote ∧ Nat.digitChar k ≠ doubleQuote ∧
      Nat.digitChar k ≠ '\n' ∧ (Nat.digitChar k).toNat ≠ 0x5c := by
    decide
  induction width generalizing n with
  | zero => exact .nil
  | succ width ih =>
    obtain ⟨hquote, hdouble, hline, hback⟩ := hdigit (n % 16) (Nat.mod_lt n (by decide))
    refine (ih (n / 16)).append (.char ?_ hline hback .nil)
    rcases hm with rfl | rfl
    · exact hquote
    · exact hdouble

theorem quotable_jsonEscape (c : Char) : Quotable doubleQuote (jsonEscape c) := by
  have hm : IsMark doubleQuote := .inr rfl
  have hpair {d : Char} (hd : d ≠ '\n') : Quotable doubleQuote [backslash, d] :=
    quotable_pair hm hd .nil
  have hunit (n : Nat) : Quotable doubleQuote (unitEscape n) :=
    quotable_pair hm (by decide) (quotable_hexDigits hm n 4)
  unfold jsonEscape
  dsimp only
  split
  next => exact hpair (by decide)
  next hquote =>
    split
    next => exact hpair (by decide)
    next hback =>
      split
      next => exact hpair (by decide)
      next =>
        split
        next => exact hpair (by decide)
        next =>
          split
          next => exact hpair (by decide)
          next hline =>
            split
            next => exact hpair (by decide)
            next =>
              split
              next => exact hpair (by decide)
              next =>
                split
                next => exact .char hquote hline (ne_backslash hback) .nil
                next =>
                  split
                  next => exact hunit _
                  next => exact (hunit _).append (hunit _)

/-- A text in which nothing is called. -/
def Quiet (s : String) : Prop := Scans s ∅ (Opens s.toList)

variable {s t : String} {p : Prop}

theorem Scans.quiet (h : Scans s ∅ p) : Quiet s := h.congr rfl rfl h.opens

theorem Quiet.append (hs : Quiet s) (ht : Quiet t) : Quiet (s ++ t) :=
  Scans.quiet ((Scans.append hs ht).congr rfl (by simp) Iff.rfl)

theorem quiet_jsonString (s : String) : Quiet (jsonString s) :=
  (scans_quoted (.inr rfl) (quotable_flatMap quotable_jsonEscape s.toList)).quiet

/-- A character that may follow a literal. -/
def closes (c : Char) : Bool := parts c && plain c && c != '('

/-- A text in which nothing is called, and which may end in a name or a
number that something has to follow. -/
def Silent (s : String) : Prop := ∀ c, closes c = true → Quiet (s ++ String.singleton c)

theorem Inert.silent (h : Inert s) : Silent s := by
  intro c hc
  simp only [closes, Bool.and_eq_true, bne_iff_ne] at hc
  have hone : Inert (String.singleton c) := by
    intro d hd
    obtain rfl : d = c := by simpa using hd
    exact ⟨hc.1.2, hc.2⟩
  have hborder : Bordered (String.singleton c).toList := by
    rw [String.toList_singleton]
    exact hc.1.1
  exact (h.scans_before hone (by simp) hborder).quiet

theorem quiet_closing {c : Char} (hc : closes c = true) : Quiet (String.singleton c) := by
  have hnone : Inert "" := nofun
  simpa using hnone.silent c hc

theorem Quiet.silent (h : Quiet s) : Silent s := fun _ hc => h.append (quiet_closing hc)

theorem Quiet.append_silent (hs : Quiet s) (ht : Silent t) : Silent (s ++ t) := by
  intro c hc
  rw [String.append_assoc]
  exact hs.append (ht c hc)

theorem Silent.scans (h : Silent s) {c : Char} (hc : closes c = true) :
    Scans (s ++ String.singleton c) ∅ (Opens s.toList) := by
  have htick : c ≠ backtick := by
    rintro rfl
    revert hc
    decide
  refine Scans.congr (h c hc) rfl rfl ?_
  rw [String.toList_append, String.toList_singleton, opens_concat htick]

/-- Such texts one after the other, with commas between them. -/
theorem quiet_listed {texts : List String} (h : ∀ s ∈ texts, Silent s) {c : Char}
    (hc : closes c = true) : Quiet (",".intercalate texts ++ String.singleton c) := by
  induction texts with
  | nil => simpa using quiet_closing hc
  | cons s texts ih =>
    obtain ⟨hs, hrest⟩ := List.forall_mem_cons.mp h
    cases texts with
    | nil => simpa using hs c hc
    | cons t texts =>
      rw [String.intercalate_cons_cons, String.append_assoc]
      exact (hs ',' (by decide)).append (ih hrest)

/-- Such texts between brackets. -/
theorem silent_bracketed {opening closing : String} {c : Char} {texts : List String}
    (h : ∀ s ∈ texts, Silent s) (ho : Quiet opening) (hc : closes c = true)
    (hclosing : closing = String.singleton c) :
    Silent (opening ++ ",".intercalate texts ++ closing) := by
  rw [hclosing, String.append_assoc]
  exact (ho.append (quiet_listed h hc)).silent

/-- The marks that open a list or an object, or follow a key. -/
theorem quiet_marks : Quiet "[" ∧ Quiet "\x7b" ∧ Quiet ":" :=
  ⟨(Inert.scans (by decide) (by decide)).quiet, (Inert.scans (by decide) (by decide)).quiet,
    (Inert.scans (by decide) (by decide)).quiet⟩

theorem inert_floatJson {finiteOnly : Bool} {x : Binary64} {text : String}
    (h : Value.floatJson finiteOnly x = .ok text) : Inert text := by
  cases x with
  | nan =>
    cases finiteOnly with
    | true => cases h
    | false => cases h; decide
  | infinite negative =>
    cases finiteOnly with
    | true => cases h
    | false => cases h; cases negative <;> decide
  | finite negative units =>
    cases h
    exact inert_floatText _

/-- Nothing is called in the text of an object if nothing is in the texts
of its values. -/
theorem silent_objectJson {entries : List (Value × Except Misuse String)} {text : String}
    (hall : ∀ e ∈ entries, ∀ s, e.2 = .ok s → Silent s)
    (h : Value.objectJson .canonical entries = .ok text) : Silent text := by
  obtain ⟨ordered, ho, h⟩ := bind_eq_ok.mp h
  obtain ⟨members, hm, h⟩ := bind_eq_ok.mp h
  cases h
  have hsub : ∀ e ∈ ordered, e ∈ entries := fun e he => (sortBy_perm ho).mem_iff.mp he
  refine silent_bracketed (c := '\x7d') (fun s hs => ?_) quiet_marks.2.1 (by decide) rfl
  obtain ⟨e, he, hmember⟩ := mem_of_mapM hm hs
  obtain ⟨name, _, hmember⟩ := bind_eq_ok.mp hmember
  obtain ⟨written, hw, hmember⟩ := bind_eq_ok.mp hmember
  cases hmember
  have hkey : Quiet (jsonString name ++ ":") := (quiet_jsonString name).append quiet_marks.2.2
  exact hkey.append_silent (hall e (hsub e he) written hw)

mutual
/-- Nothing is called in the JSON text of a value. -/
theorem silent_json : (v : Value) → ∀ {text : String}, v.json .canonical = .ok text → Silent text
  | .null, _, h => by cases h; exact Inert.silent (by decide)
  | .bool b, _, h => by cases h; cases b <;> exact Inert.silent (by decide)
  | .int n, _, h => by cases h; exact (inert_intText n).silent
  | .float _, _, h => (inert_floatJson h).silent
  | .str s, _, h => by cases h; exact (quiet_jsonString s).silent
  | .list items, _, h => by
    obtain ⟨texts, ht, h⟩ := bind_eq_ok.mp h
    cases h
    exact silent_bracketed (silent_jsonItems items ht) quiet_marks.1 (c := ']') (by decide) rfl
  | .tuple items, _, h => by
    obtain ⟨texts, ht, h⟩ := bind_eq_ok.mp h
    cases h
    exact silent_bracketed (silent_jsonItems items ht) quiet_marks.1 (c := ']') (by decide) rfl
  | .dict entries, _, h => silent_objectJson (silent_jsonEntries entries) h
  | .decimal _, _, h | .date _, _, h | .timestamp _, _, h | .generator, _, h
  | .typeRef _ _, _, h => nomatch h
termination_by structural v => v

theorem silent_jsonItems : (items : List Value) → ∀ {texts : List String},
    Value.jsonItems .canonical items = .ok texts → ∀ s ∈ texts, Silent s
  | [], _, h => by cases h; exact nofun
  | v :: rest, _, h => by
    obtain ⟨first, hf, h⟩ := bind_eq_ok.mp h
    obtain ⟨others, ho, h⟩ := bind_eq_ok.mp h
    cases h
    exact List.forall_mem_cons.mpr ⟨silent_json v hf, silent_jsonItems rest ho⟩
termination_by structural items => items

theorem silent_jsonEntries : (entries : List (Value × Value)) →
    ∀ e ∈ Value.jsonEntries .canonical entries, ∀ s, e.2 = .ok s → Silent s
  | [] => nofun
  | (_, v) :: rest =>
    List.forall_mem_cons.mpr ⟨fun _ h => silent_json v h, silent_jsonEntries rest⟩
termination_by structural entries => entries
end

end Emit

end Polyschema
