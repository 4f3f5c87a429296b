/-
Polyschema.Proofs.Sort — what sorting by comparisons does.

* `sortBy_perm` — what is sorted has the same items.
* `failsIn_sortBy` — sorting fails only as the comparison of an item with an
  earlier one does.
* `sortBy_ordered` — comparisons that do not fail and make an order put the
  items in this order.
* `sortBy_map` — items are sorted like what they are compared by.
* `Value.failsIn_sortEntries`, `Value.sortEntries_named` — which keys can be
  put in order, and that texts always can.
-/
import Polyschema.Proofs.Noted
import Polyschema.Value.Json

namespace Polyschema

variable {α β ε : Type} {before : α → α → Except ε Bool}

/-! ## Items -/

theorem runAfter_append {falls : Bool} {last : α} {items run others : List α}
    (h : runAfter before falls last items = .ok (run, others)) : items = run ++ others := by
  induction items generalizing last run with
  | nil =>
    cases h
    rfl
  | cons x rest ih =>
    rw [runAfter] at h
    obtain ⟨b, -, h⟩ := bind_eq_ok.mp h
    split at h
    · obtain ⟨⟨run', others'⟩, hrun, h⟩ := bind_eq_ok.mp h
      cases h
      rw [ih hrun, List.cons_append]
    · cases h
      rfl

/-- The run at the front has the items before those that follow it. -/
theorem firstRun_perm {items run others : List α}
    (h : firstRun before items = .ok (run, others)) :
    ∃ front, items = front ++ others ∧ run.Perm front := by
  unfold firstRun at h
  split at h
  next x y rest =>
    obtain ⟨falls, -, h⟩ := bind_eq_ok.mp h
    obtain ⟨⟨run', others'⟩, hrun, h⟩ := bind_eq_ok.mp h
    cases h
    refine ⟨x :: y :: run', by rw [runAfter_append hrun]; rfl, ?_⟩
    cases falls with
    | true => exact List.reverse_perm _
    | false => exact .refl _
  next =>
    cases h
    exact ⟨items, (List.append_nil items).symm, .refl _⟩

theorem insertBy_perm {x : α} {fuel : Nat} {items sorted : List α}
    (h : insertBy before x fuel items = .ok sorted) : sorted.Perm (x :: items) := by
  induction fuel generalizing items sorted with
  | zero =>
    cases h
    exact .refl _
  | succ fuel ih =>
    rw [insertBy] at h
    split at h
    next =>
      cases h
      exact .refl _
    next middle others hdrop =>
      have hitems : items = items.take (items.length / 2) ++ middle :: others := by
        rw [← hdrop, List.take_append_drop]
      generalize items.take (items.length / 2) = half at h hitems
      rw [hitems]
      obtain ⟨b, -, hput⟩ := bind_eq_ok.mp h
      split at hput
      · obtain ⟨low, hlow, hput⟩ := bind_eq_ok.mp hput
        cases hput
        exact (ih hlow).append_right _
      · obtain ⟨high, hhigh, hput⟩ := bind_eq_ok.mp hput
        cases hput
        calc half ++ middle :: high
          _ |>.Perm (half ++ middle :: x :: others) := ((ih hhigh).cons middle).append_left half
          _ |>.Perm (half ++ x :: middle :: others) :=
            (List.Perm.swap x middle others).append_left half
          _ |>.Perm (x :: (half ++ middle :: others)) := List.perm_middle

theorem insertAll_perm {run others sorted : List α}
    (h : insertAll before run others = .ok sorted) : sorted.Perm (run ++ others) := by
  induction others generalizing run with
  | nil =>
    cases h
    rw [List.append_nil]
  | cons x rest ih =>
    obtain ⟨more, hmore, h⟩ := bind_eq_ok.mp h
    calc sorted
      _ |>.Perm (more ++ rest) := ih h
      _ |>.Perm (x :: run ++ rest) := (insertBy_perm hmore).append_right rest
      _ |>.Perm (run ++ x :: rest) := List.perm_middle.symm

/-- What is sorted has the same items. -/
theorem sortBy_perm {items sorted : List α} (h : sortBy before items = .ok sorted) :
    sorted.Perm items := by
  obtain ⟨⟨run, others⟩, hrun, hall⟩ := bind_eq_ok.mp h
  obtain ⟨front, rfl, hperm⟩ := firstRun_perm hrun
  exact (insertAll_perm hall).trans (hperm.append_right others)

/-! ## Failures -/

section

variable {P : ε → Prop}

theorem failsIn_runAfter (falls : Bool) {last : α} {items : List α}
    (h : (last :: items).Pairwise fun x y => FailsIn P (before y x)) :
    FailsIn P (runAfter before falls last items) := by
  induction items generalizing last with
  | nil => exact failsIn_pure _
  | cons x rest ih =>
    obtain ⟨hlast, hrest⟩ := List.pairwise_cons.mp h
    refine (hlast x List.mem_cons_self).bind fun b _ => ?_
    split
    · exact (ih hrest).bind fun _ _ => failsIn_pure _
    · exact failsIn_pure _

theorem failsIn_firstRun {items : List α}
    (h : items.Pairwise fun x y => FailsIn P (before y x)) :
    FailsIn P (firstRun before items) := by
  unfold firstRun
  split
  next x y rest =>
    obtain ⟨hx, hrest⟩ := List.pairwise_cons.mp h
    refine (hx y List.mem_cons_self).bind fun falls _ => ?_
    exact (failsIn_runAfter falls hrest).bind fun _ _ => failsIn_pure _
  next => exact failsIn_pure _

theorem failsIn_insertBy {x : α} (fuel : Nat) {items : List α}
    (h : ∀ y ∈ items, FailsIn P (before x y)) : FailsIn P (insertBy before x fuel items) := by
  induction fuel generalizing items with
  | zero => exact failsIn_pure _
  | succ fuel ih =>
    rw [insertBy]
    split
    next => exact failsIn_pure _
    next middle others hdrop =>
      have hafter : ∀ y ∈ middle :: others, y ∈ items :=
        fun y hy => List.mem_of_mem_drop (hdrop ▸ hy)
      refine (h middle (hafter middle List.mem_cons_self)).bind fun b _ => ?_
      split
      · exact (ih fun y hy => h y (List.mem_of_mem_take hy)).bind fun _ _ => failsIn_pure _
      · refine (ih fun y hy => ?_).bind fun _ _ => failsIn_pure _
        exact h y (hafter y (List.mem_cons_of_mem _ hy))

theorem failsIn_insertAll {run others : List α}
    (h : ∀ x ∈ others, ∀ y ∈ run, FailsIn P (before x y))
    (hothers : others.Pairwise fun x y => FailsIn P (before y x)) :
    FailsIn P (insertAll before run others) := by
  induction others generalizing run with
  | nil => exact failsIn_pure _
  | cons x rest ih =>
    obtain ⟨hx, hrest⟩ := List.pairwise_cons.mp hothers
    refine (failsIn_insertBy _ (h x List.mem_cons_self)).bind fun more hmore => ?_
    refine ih (fun z hz y hy => ?_) hrest
    rcases List.mem_cons.mp ((insertBy_perm hmore).mem_iff.mp hy) with rfl | hy
    · exact hx z hz
    · exact h z (List.mem_cons_of_mem _ hz) y hy

/-- Only an item and an earlier one are compared. -/
theorem failsIn_sortBy {items : List α}
    (h : items.Pairwise fun x y => FailsIn P (before y x)) :
    FailsIn P (sortBy before items) := by
  refine (failsIn_firstRun h).bind fun (run, others) hrun => ?_
  obtain ⟨front, rfl, hperm⟩ := firstRun_perm hrun
  obtain ⟨_, hothers, hacross⟩ := List.pairwise_append.mp h
  exact failsIn_insertAll (fun x hx y hy => hacross y (hperm.mem_iff.mp hy) x hx) hothers

end

/-! ## Order -/

/-- Items none of which comes before an earlier one. -/
def Ordered (lt : α → α → Bool) (items : List α) : Prop :=
  items.Pairwise fun x y => lt y x = false

section

variable {lt : α → α → Bool} (hbefore : ∀ x y, before x y = .ok (lt x y))
  (hasymm : ∀ x y, lt x y = true → lt y x = false)
  (htrans : ∀ x y z, lt y x = false → lt z y = false → lt z x = false)

include hbefore

theorem isChain_runAfter {falls : Bool} {last : α} {items run others : List α}
    (h : runAfter before falls last items = .ok (run, others)) :
    (last :: run).IsChain fun x y => lt y x = falls := by
  induction items generalizing last run with
  | nil =>
    cases h
    exact .singleton last
  | cons x rest ih =>
    rw [runAfter] at h
    obtain ⟨b, hb, h⟩ := bind_eq_ok.mp h
    obtain rfl := Except.ok.inj ((hbefore x last).symm.trans hb)
    split at h
    next hfalls =>
      obtain ⟨⟨run', others'⟩, hrun, h⟩ := bind_eq_ok.mp h
      cases h
      exact .cons_cons (beq_iff_eq.mp hfalls) (ih hrun)
    next =>
      cases h
      exact .singleton last

include hasymm htrans

/-- A run that rises is ordered, and one that falls is ordered backwards. -/
theorem ordered_firstRun {items run others : List α}
    (h : firstRun before items = .ok (run, others)) : Ordered lt run := by
  have hrises : IsTrans α fun x y => lt y x = false := ⟨htrans⟩
  have hfalls : IsTrans α fun x y => lt x y = false :=
    ⟨fun x y z hxy hyz => htrans z y x hyz hxy⟩
  unfold firstRun at h
  split at h
  next x y rest =>
    obtain ⟨falls, hb, h⟩ := bind_eq_ok.mp h
    obtain rfl := Except.ok.inj ((hbefore y x).symm.trans hb)
    obtain ⟨⟨run', others'⟩, hrun, h⟩ := bind_eq_ok.mp h
    cases h
    have hchain : (x :: y :: run').IsChain fun a b => lt b a = lt y x :=
      .cons_cons rfl (isChain_runAfter hbefore hrun)
    cases hfirst : lt y x with
    | true =>
      rw [hfirst] at hchain
      refine List.pairwise_reverse.mpr (List.isChain_iff_pairwise.mp ?_)
      exact hchain.imp fun a b => hasymm b a
    | false =>
      rw [hfirst] at hchain
      exact List.isChain_iff_pairwise.mp hchain
  next hshort =>
    cases h
    match items, hshort with
    | [], _ => exact .nil
    | [x], _ => exact List.pairwise_singleton _ x
    | x :: y :: rest, hshort => exact absurd rfl (hshort x y rest)

theorem ordered_insertBy {x : α} {fuel : Nat} {items sorted : List α}
    (hitems : Ordered lt items) (hfuel : items.length ≤ fuel)
    (h : insertBy before x fuel items = .ok sorted) : Ordered lt sorted := by
  induction fuel generalizing items sorted with
  | zero =>
    obtain rfl := List.length_eq_zero_iff.mp (Nat.le_zero.mp hfuel)
    cases h
    exact List.pairwise_singleton _ x
  | succ fuel ih =>
    rw [insertBy] at h
    split at h
    next hdrop =>
      have hempty : items = [] := by
        rw [List.drop_eq_nil_iff] at hdrop
        exact List.length_eq_zero_iff.mp (by omega)
      subst hempty
      cases h
      exact List.pairwise_singleton _ x
    next middle others hdrop =>
      have hsplit : items = items.take (items.length / 2) ++ middle :: others := by
        rw [← hdrop, List.take_append_drop]
      generalize items.take (items.length / 2) = half at h hsplit
      subst hsplit
      obtain ⟨hhalf, hafter, hacross⟩ := List.pairwise_append.mp hitems
      obtain ⟨hmiddle, hothers⟩ := List.pairwise_cons.mp hafter
      have hlength : half.length ≤ fuel ∧ others.length ≤ fuel := by
        rw [List.length_append, List.length_cons] at hfuel
        omega
      obtain ⟨less, hless, hput⟩ := bind_eq_ok.mp h
      obtain rfl := Except.ok.inj ((hbefore x middle).symm.trans hless)
      split at hput
      next hless =>
        obtain ⟨low, hlow, hput⟩ := bind_eq_ok.mp hput
        cases hput
        refine List.pairwise_append.mpr ⟨ih hhalf hlength.1 hlow, hafter, fun a ha b hb => ?_⟩
        rcases List.mem_cons.mp ((insertBy_perm hlow).mem_iff.mp ha) with rfl | ha
        · -- the new item is not greater than the middle, nor than what follows it
          rcases List.mem_cons.mp hb with rfl | hb
          · exact hasymm _ _ hless
          · exact htrans _ _ _ (hasymm _ _ hless) (hmiddle b hb)
        · exact hacross a ha b hb
      next hless =>
        obtain ⟨high, hhigh, hput⟩ := bind_eq_ok.mp hput
        cases hput
        have hx : lt x middle = false := by simpa using hless
        have hmem {b : α} (hb : b ∈ high) : b = x ∨ b ∈ others :=
          List.mem_cons.mp ((insertBy_perm hhigh).mem_iff.mp hb)
        refine List.pairwise_append.mpr ⟨hhalf, ?_, fun a ha b hb => ?_⟩
        · refine List.pairwise_cons.mpr ⟨fun b hb => ?_, ih hothers hlength.2 hhigh⟩
          rcases hmem hb with rfl | hb
          · exact hx
          · exact hmiddle b hb
        · have ham := hacross a ha middle List.mem_cons_self
          rcases List.mem_cons.mp hb with rfl | hb
          · exact ham
          · rcases hmem hb with rfl | hb
            · exact htrans _ _ _ ham hx
            · exact hacross a ha b (List.mem_cons_of_mem _ hb)

theorem ordered_insertAll {run others sorted : List α} (hrun : Ordered lt run)
    (h : insertAll before run others = .ok sorted) : Ordered lt sorted := by
  induction others generalizing run with
  | nil =>
    cases h
    exact hrun
  | cons x rest ih =>
    obtain ⟨more, hmore, h⟩ := bind_eq_ok.mp h
    exact ih (ordered_insertBy hbefore hasymm htrans hrun (Nat.le_refl _) hmore) h

/-- Comparisons that never fail, and that make an order, put the items in
this order. -/
theorem sortBy_ordered (items : List α) :
    ∃ sorted, sortBy before items = .ok sorted ∧ sorted.Perm items ∧ Ordered lt sorted := by
  have hok : FailsIn (fun _ => False) (sortBy before items) :=
    failsIn_sortBy (List.pairwise_of_forall fun x y => by simp [hbefore])
  obtain ⟨sorted, hsorted⟩ | ⟨_, _, hfalse⟩ := hok.ok_or_error
  · refine ⟨sorted, hsorted, sortBy_perm hsorted, ?_⟩
    obtain ⟨⟨run, others⟩, hrun, hall⟩ := bind_eq_ok.mp hsorted
    exact ordered_insertAll hbefore hasymm htrans
      (ordered_firstRun hbefore hasymm htrans hrun) hall
  · exact hfalse.elim

end

/-! ## What items are compared by -/

section

variable {compare : β → β → Except ε Bool} (f : α → β)

theorem runAfter_map (falls : Bool) (last : α) (items : List α) :
    runAfter compare falls (f last) (items.map f) =
      (fun p => (p.1.map f, p.2.map f)) <$>
        runAfter (fun x y => compare (f x) (f y)) falls last items := by
  induction items generalizing last with
  | nil => rfl
  | cons x rest ih =>
    rw [List.map_cons, runAfter, runAfter, map_bind]
    refine bind_congr fun b => ?_
    rw [ih]
    split <;> simp

theorem firstRun_map (items : List α) :
    firstRun compare (items.map f) =
      (fun p => (p.1.map f, p.2.map f)) <$>
        firstRun (fun x y => compare (f x) (f y)) items := by
  match items with
  | [] => rfl
  | [x] => rfl
  | x :: y :: rest =>
    rw [List.map_cons, List.map_cons, firstRun, firstRun, map_bind]
    refine bind_congr fun falls => ?_
    rw [runAfter_map]
    cases falls <;> simp

theorem insertBy_map (x : α) (fuel : Nat) (items : List α) :
    insertBy compare (f x) fuel (items.map f) =
      List.map f <$> insertBy (fun x y => compare (f x) (f y)) x fuel items := by
  induction fuel generalizing items with
  | zero => rfl
  | succ fuel ih =>
    rw [insertBy, insertBy, List.length_map, ← List.map_take, ← List.map_drop]
    cases items.drop (items.length / 2) with
    | nil => rfl
    | cons middle others =>
      simp only [List.map_cons, ih, map_bind]
      refine bind_congr fun b => ?_
      split <;> simp

theorem insertAll_map (run others : List α) :
    insertAll compare (run.map f) (others.map f) =
      List.map f <$> insertAll (fun x y => compare (f x) (f y)) run others := by
  induction others generalizing run with
  | nil => rfl
  | cons x rest ih =>
    rw [List.map_cons, insertAll, insertAll, List.length_map, insertBy_map]
    cases insertBy (fun x y => compare (f x) (f y)) x run.length run with
    | error e => rfl
    | ok more => exact ih more

/-- Items are put in order like what they are compared by. -/
theorem sortBy_map (items : List α) :
    sortBy compare (items.map f) =
      List.map f <$> sortBy (fun x y => compare (f x) (f y)) items := by
  rw [sortBy, sortBy, firstRun_map]
  cases firstRun (fun x y => compare (f x) (f y)) items with
  | error e => rfl
  | ok p => exact insertAll_map f p.1 p.2

end

namespace Value

/-! ## Keys -/

theorem failsIn_momentBefore (s t : Calendar.Timestamp) :
    FailsIn (fun m => m = .wrongKind ∨ m = .signaling) (momentBefore s t) := by
  unfold momentBefore
  split
  · exact failsIn_pure _
  · exact failsIn_pure _
  · exact failsIn_error.mpr (.inl rfl)

theorem failsIn_scalarBefore (a b : Value) :
    FailsIn (fun m => m = .wrongKind ∨ m = .signaling) (scalarBefore a b) := by
  unfold scalarBefore
  split
  · split
    · exact failsIn_error.mpr (.inr rfl)
    · exact failsIn_pure _
  · split
    · exact failsIn_pure _
    · exact failsIn_pure _
    · exact failsIn_momentBefore _ _
    · exact failsIn_error.mpr (.inl rfl)

mutual
/-- Two keys are of different sorts, or one that is no number breaks their
comparison, or they can be compared. -/
theorem failsIn_keyBefore : (a b : Value) →
    FailsIn (fun m => m = .wrongKind ∨ m = .signaling) (keyBefore a b)
  | tuple as, b => by
    cases b with
    | tuple bs => exact failsIn_itemsBefore as bs
    | _ => exact failsIn_error.mpr (.inl rfl)
  | null, b | bool _, b | int _, b | float _, b | decimal _, b | str _, b | date _, b
  | timestamp _, b | list _, b | dict _, b | generator, b | typeRef _ _, b => by
    unfold keyBefore
    exact failsIn_scalarBefore _ b
termination_by structural a => a

theorem failsIn_itemsBefore : (as bs : List Value) →
    FailsIn (fun m => m = .wrongKind ∨ m = .signaling) (itemsBefore as bs)
  | [], _ => failsIn_pure _
  | a :: as, bs => by
    cases bs with
    | nil => exact failsIn_pure _
    | cons b bs =>
      rw [itemsBefore]
      split
      · exact failsIn_itemsBefore as bs
      · exact failsIn_keyBefore a b
termination_by structural as => as
end

/-- No key breaks the comparison with an earlier one. -/
def Unbroken (keys : List Value) : Prop :=
  keys.Pairwise fun a b => keyBefore b a ≠ .error .signaling

/-- What keeps entries from being put in order. -/
theorem failsIn_sortEntries (entries : List (Value × α)) :
    FailsIn (fun m => m = .wrongKind ∨ m = .signaling ∧ ¬ Unbroken (entries.map Prod.fst))
      (sortEntries entries) := by
  by_cases h : Unbroken (entries.map Prod.fst)
  · refine failsIn_sortBy ((List.pairwise_map.mp h).imp fun {a b} hab m hm => ?_)
    refine (failsIn_keyBefore b.1 a.1 m hm).imp_right fun hs => ?_
    exact absurd (hs ▸ hm) hab
  · refine failsIn_sortBy (List.pairwise_of_forall fun a b m hm => ?_)
    exact (failsIn_keyBefore b.1 a.1 m hm).imp_right (⟨·, h⟩)

/-! ## Texts as keys -/

/-- Entries with texts as keys. -/
def named (members : List (String × α)) : List (Value × α) :=
  members.map fun m => (str m.1, m.2)

theorem exists_named {entries : List (Value × α)} (h : ∀ e ∈ entries, ∃ s, e.1 = .str s) :
    ∃ members, entries = named members := by
  induction entries with
  | nil => exact ⟨[], rfl⟩
  | cons e rest ih =>
    obtain ⟨⟨s, hs⟩, hrest⟩ := List.forall_mem_cons.mp h
    obtain ⟨members, rfl⟩ := ih hrest
    exact ⟨(s, e.2) :: members, congrArg (· :: named members) (Prod.ext hs rfl)⟩

/-- Entries with texts as keys are put in the order of the texts. -/
theorem sortEntries_named (members : List (String × α)) :
    ∃ sorted, sortEntries (named members) = .ok (named sorted) ∧ sorted.Perm members ∧
      sorted.Pairwise fun a b => a.1 ≤ b.1 := by
  let less (a b : String × α) : Bool := decide (a.1 < b.1)
  let before (a b : String × α) : Except Misuse Bool := .ok (less a b)
  obtain ⟨sorted, hsorted, hperm, hordered⟩ : ∃ sorted, sortBy before members = .ok sorted ∧
      sorted.Perm members ∧ Ordered less sorted := by
    refine sortBy_ordered (fun _ _ => rfl) (fun a b h => ?_) (fun a b c hab hbc => ?_) members
    · simp only [less, decide_eq_true_eq, decide_eq_false_iff_not] at h ⊢
      exact String.lt_asymm h
    · simp only [less, decide_eq_false_iff_not, String.not_lt] at hab hbc ⊢
      exact String.le_trans hab hbc
  refine ⟨sorted, ?_, hperm, hordered.imp fun h => ?_⟩
  · rw [sortEntries, named, sortBy_map]
    exact congrArg (List.map _ <$> ·) hsorted
  · simpa only [less, decide_eq_false_iff_not, String.not_lt] using h

end Value

end Polyschema
