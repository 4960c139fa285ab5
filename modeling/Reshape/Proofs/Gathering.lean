/-
Sets of diagnostics, gathered in two ways.

A set is made of a list at once, by a stable sort, or of one diagnostic after the other, each put where halving finds
that those after it come later.  Halving finds that place only in a set that is in order, and a set stays in order as
each is put behind all that may stand before it.  So both ways give the same set: a list in order is determined by what
it holds at each place of the order, and in which sequence.

* `bisect_append` — what halving finds;
* `eq_of_pairwise_of_filter` — lists in order that hold the same at each place of the order;
* `Diagnostics.ordered_insert`, `Diagnostics.insert_ofList` — one more diagnostic;
* `Diagnostics.foldl_insert_ofList` — both ways, and the order of the set;
* `Diagnostics.foldl_insert_far` — a region so far away that what has no region stands before it.
-/
import Mathlib.Data.List.Basic
import Mathlib.Data.Prod.Lex
import Reshape.Diagnostic.Basic

namespace Reshape

/-! ### Halving -/

/-- Halving finds how many items pass, if they stand before all others. -/
theorem bisect_append {α : Type} {passes : α → Bool} {front back : List α} (hfront : ∀ x ∈ front, passes x = true)
    (hback : ∀ x ∈ back, passes x = false) : bisect passes (front ++ back) = front.length := by
  generalize hitems : front ++ back = items
  fun_induction bisect passes items generalizing front back with
  | case1 items hdrop =>
    have hlength := congrArg List.length hdrop
    have hsum := congrArg List.length hitems
    simp only [List.length_drop, List.length_append, List.length_nil] at hlength hsum
    omega
  | case2 items middle later hdrop hmiddle ih =>
    -- the middle is one of those that pass, and so is all before it
    have hnot : middle ∉ back := fun h => Bool.noConfusion ((hback middle h).symm.trans hmiddle)
    have hcut : front ++ back = items.take (items.length / 2) ++ middle :: later := by
      rw [hitems, ← hdrop, List.take_append_drop]
    have hlength : (items.take (items.length / 2)).length = items.length / 2 := by
      rw [List.length_take]
      omega
    rcases List.append_eq_append_iff.1 hcut with ⟨between, -, rfl⟩ | ⟨between, rfl, hlater⟩
    · exact absurd (List.mem_append_right _ List.mem_cons_self) hnot
    · cases between with
      | nil => exact absurd (List.nil_append back ▸ hlater ▸ List.mem_cons_self) hnot
      | cons x between =>
        obtain ⟨rfl, rfl⟩ := List.cons.inj hlater
        rw [ih (fun y hy => hfront y (List.mem_append_right _ (List.mem_cons_of_mem _ hy))) hback rfl,
          List.length_append, hlength, List.length_cons]
        omega
  | case3 items middle later hdrop hmiddle ih =>
    have hnot : middle ∉ front := fun h => hmiddle (hfront middle h)
    have hcut : front ++ back = items.take (items.length / 2) ++ middle :: later := by
      rw [hitems, ← hdrop, List.take_append_drop]
    rcases List.append_eq_append_iff.1 hcut with ⟨between, htake, rfl⟩ | ⟨between, rfl, hlater⟩
    · exact ih hfront (fun y hy => hback y (List.mem_append_left _ hy)) htake.symm
    · cases between with
      | nil =>
        have hnone : ∀ y ∈ ([] : List α), passes y = false := List.forall_mem_nil _
        rw [List.append_nil] at *
        exact ih hfront hnone (List.append_nil _)
      | cons x between =>
        obtain ⟨rfl, -⟩ := List.cons.inj hlater
        exact absurd (List.mem_append_right _ List.mem_cons_self) hnot

/-! ### Lists in order -/

section Order

variable {α κ : Type} [LinearOrder κ] {key : α → κ}

/-- A list in order is what does not come after a place of the order, and what does. -/
theorem exists_split_of_pairwise {xs : List α} (h : xs.Pairwise fun x y => key x ≤ key y) (k : κ) :
    ∃ front back, xs = front ++ back ∧ (∀ x ∈ front, key x ≤ k) ∧ ∀ x ∈ back, k < key x := by
  induction h with
  | nil => exact ⟨[], [], rfl, List.forall_mem_nil _, List.forall_mem_nil _⟩
  | @cons x xs hx _ ih =>
    rcases le_or_gt (key x) k with hle | hlt
    · obtain ⟨front, back, rfl, hfront, hback⟩ := ih
      exact ⟨x :: front, back, rfl, List.forall_mem_cons.2 ⟨hle, hfront⟩, hback⟩
    · exact ⟨[], x :: xs, rfl, List.forall_mem_nil _,
        List.forall_mem_cons.2 ⟨hlt, fun y hy => hlt.trans_le (hx y hy)⟩⟩

theorem mem_iff_of_filter {xs ys : List α} (h : ∀ k, xs.filter (key · = k) = ys.filter (key · = k)) (x : α) :
    x ∈ xs ↔ x ∈ ys := by
  simpa [List.mem_filter] using iff_of_eq (congrArg (x ∈ ·) (h (key x)))

/-- A list in order is determined by what it holds at each place of the order, and in which sequence. -/
theorem eq_of_pairwise_of_filter {xs ys : List α} (hx : xs.Pairwise fun x y => key x ≤ key y)
    (hy : ys.Pairwise fun x y => key x ≤ key y) (h : ∀ k, xs.filter (key · = k) = ys.filter (key · = k)) :
    xs = ys := by
  induction xs generalizing ys with
  | nil => exact (List.eq_nil_iff_forall_not_mem.2 fun y hy => List.not_mem_nil ((mem_iff_of_filter h y).2 hy)).symm
  | cons x xs ih =>
    cases ys with
    | nil => cases (mem_iff_of_filter h x).1 List.mem_cons_self
    | cons y ys =>
      rw [List.pairwise_cons] at hx hy
      have hyx : key y ≤ key x := by
        rcases List.mem_cons.1 ((mem_iff_of_filter h x).1 List.mem_cons_self) with rfl | hmem
        · exact le_rfl
        · exact hy.1 x hmem
      have hxy : key x ≤ key y := by
        rcases List.mem_cons.1 ((mem_iff_of_filter h y).2 List.mem_cons_self) with rfl | hmem
        · exact le_rfl
        · exact hx.1 y hmem
      have hkey : key y = key x := le_antisymm hyx hxy
      obtain rfl : x = y := by
        have hfirst := h (key x)
        simp only [List.filter_cons, hkey, decide_true, if_true] at hfirst
        exact (List.cons.inj hfirst).1
      have htails : ∀ k, xs.filter (key · = k) = ys.filter (key · = k) := fun k => by
        by_cases hk : key x = k
        · simpa [hk] using h k
        · simpa [hk] using h k
      rw [ih hx.2 hy.2 htails]

end Order

/-! ### Sets of diagnostics -/

namespace Diagnostic

/-- The place of a diagnostic in the order of starts, and of ends where the starts are the same. -/
def rank (d : Diagnostic) : ℕ ×ₗ ℕ :=
  toLex d.orderKey

theorem comesBefore_iff {a b : Diagnostic} : a.comesBefore b = true ↔ a.rank ≤ b.rank := by
  rw [rank, rank, Prod.Lex.toLex_le_toLex, comesBefore, Bool.or_eq_true, Bool.and_eq_true, decide_eq_true_iff,
    beq_iff_eq, decide_eq_true_iff]

theorem comesBefore_trans (a b c : Diagnostic) (hab : a.comesBefore b = true) (hbc : b.comesBefore c = true) :
    a.comesBefore c = true :=
  comesBefore_iff.2 ((comesBefore_iff.1 hab).trans (comesBefore_iff.1 hbc))

theorem comesBefore_total (a b : Diagnostic) : (a.comesBefore b || b.comesBefore a) = true := by
  rw [Bool.or_eq_true, comesBefore_iff, comesBefore_iff]
  exact le_total a.rank b.rank

end Diagnostic

namespace Diagnostics

open Diagnostic (rank comesBefore_iff comesBefore_trans comesBefore_total)

/-- No diagnostic stands before one that comes earlier in the order. -/
def Ordered (ds : Diagnostics) : Prop :=
  ds.items.Pairwise fun a b => a.rank ≤ b.rank

/-- The diagnostics at a place of the order, in their sequence. -/
def atRank (items : List Diagnostic) (k : ℕ ×ₗ ℕ) : List Diagnostic :=
  items.filter fun d => d.rank = k

theorem atRank_append (xs ys : List Diagnostic) (k : ℕ ×ₗ ℕ) : atRank (xs ++ ys) k = atRank xs k ++ atRank ys k :=
  List.filter_append ..

theorem ordered_ofList (source : String) (items : List Diagnostic) : (ofList source items).Ordered :=
  (List.pairwise_mergeSort comesBefore_trans comesBefore_total items).imp comesBefore_iff.1

theorem perm_ofList (source : String) (items : List Diagnostic) : (ofList source items).items.Perm items :=
  List.mergeSort_perm items Diagnostic.comesBefore

/-- The sort is stable. -/
theorem atRank_ofList (source : String) (items : List Diagnostic) (k : ℕ ×ₗ ℕ) :
    atRank (ofList source items).items k = atRank items k := by
  have hrank : ∀ a ∈ atRank items k, a.rank = k := fun a ha => of_decide_eq_true (List.mem_filter.1 ha).2
  have hequal : (atRank items k).Pairwise fun a b => a.comesBefore b = true :=
    List.pairwise_of_forall_mem_list fun a ha b hb =>
      comesBefore_iff.2 ((hrank a ha).trans (hrank b hb).symm).le
  have hsorted : (atRank items k).Sublist (ofList source items).items :=
    List.sublist_mergeSort comesBefore_trans comesBefore_total hequal List.filter_sublist
  have hsub : (atRank items k).Sublist (atRank (ofList source items).items k) := by
    have hself : atRank (atRank items k) k = atRank items k :=
      List.filter_eq_self.2 fun a ha => decide_eq_true (hrank a ha)
    exact hself ▸ hsorted.filter _
  exact (hsub.eq_of_length ((perm_ofList source items).filter _).length_eq.symm).symm

/-- One more diagnostic is put behind those that may stand before it. -/
theorem items_insert {ds : Diagnostics} {d : Diagnostic} {front back : List Diagnostic}
    (hitems : ds.items = front ++ back) (hfront : ∀ a ∈ front, a.rank ≤ d.rank) (hback : ∀ b ∈ back, d.rank < b.rank) :
    (ds.insert d).items = front ++ d :: back := by
  have hplace : bisect (·.comesBefore d) ds.items = front.length := by
    rw [hitems]
    refine bisect_append (fun a ha => comesBefore_iff.2 (hfront a ha)) fun b hb => ?_
    rw [Bool.eq_false_iff, ne_eq, comesBefore_iff, not_le]
    exact hback b hb
  rw [insert, hplace, hitems]
  exact List.modifyTailIdx_add _ 0 front back

theorem ordered_insert {ds : Diagnostics} (h : ds.Ordered) (d : Diagnostic) : (ds.insert d).Ordered := by
  obtain ⟨front, back, hitems, hfront, hback⟩ := exists_split_of_pairwise h d.rank
  rw [Ordered, hitems, List.pairwise_append] at h
  obtain ⟨hfronts, hbacks, hacross⟩ := h
  rw [Ordered, items_insert hitems hfront hback, List.pairwise_append, List.pairwise_cons]
  refine ⟨hfronts, ⟨fun b hb => (hback b hb).le, hbacks⟩, fun a ha b hb => ?_⟩
  rcases List.mem_cons.1 hb with rfl | hb
  · exact hfront a ha
  · exact hacross a ha b hb

/-- It stands last of those at its place of the order. -/
theorem atRank_insert {ds : Diagnostics} (h : ds.Ordered) (d : Diagnostic) (k : ℕ ×ₗ ℕ) :
    atRank (ds.insert d).items k = atRank (ds.items ++ [d]) k := by
  obtain ⟨front, back, hitems, hfront, hback⟩ := exists_split_of_pairwise h d.rank
  have hswap : atRank [d] k ++ atRank back k = atRank back k ++ atRank [d] k := by
    by_cases hk : d.rank = k
    · have hnone : atRank back k = [] :=
        List.filter_eq_nil_iff.2 fun b hb => by simpa [← hk] using (hback b hb).ne'
      rw [hnone, List.append_nil, List.nil_append]
    · have hnone : atRank [d] k = [] := List.filter_eq_nil_iff.2 (by simpa using hk)
      rw [hnone, List.append_nil, List.nil_append]
  rw [items_insert hitems hfront hback, hitems]
  calc atRank (front ++ ([d] ++ back)) k
      = atRank front k ++ (atRank [d] k ++ atRank back k) := by rw [atRank_append, atRank_append]
    _ = atRank (front ++ back ++ [d]) k := by rw [hswap, atRank_append, atRank_append, List.append_assoc]

/-- A diagnostic put into the set of a list is one behind the list. -/
theorem insert_ofList (source : String) (items : List Diagnostic) (d : Diagnostic) :
    (ofList source items).insert d = ofList source (items ++ [d]) := by
  have hatRank : ∀ k, atRank ((ofList source items).insert d).items k =
      atRank (ofList source (items ++ [d])).items k := fun k => by
    rw [atRank_insert (ordered_ofList source items), atRank_append, atRank_ofList, atRank_ofList, atRank_append]
  have hitems : ((ofList source items).insert d).items = (ofList source (items ++ [d])).items :=
    eq_of_pairwise_of_filter (ordered_insert (ordered_ofList source items) d) (ordered_ofList source _) hatRank
  exact congrArg (mk source) hitems

theorem foldl_insert_eq (source : String) (items more : List Diagnostic) :
    more.foldl insert (ofList source items) = ofList source (items ++ more) := by
  induction more generalizing items with
  | nil => rw [List.foldl_nil, List.append_nil]
  | cons d more ih => rw [List.foldl_cons, insert_ofList, ih, List.append_assoc, List.singleton_append]

theorem foldl_insert_empty (source : String) (items : List Diagnostic) :
    items.foldl insert (empty source) = ofList source items := by
  have hnone : ofList source [] = empty source := congrArg (mk source) List.mergeSort_nil
  rw [← hnone, foldl_insert_eq, List.nil_append]

/-- Diagnostics put one after the other into the empty set, or into the set of others, are the set of the whole list.
It holds what the list does, by start and then end of the regions, and at one place of this order in the sequence of the
list.  What has no region has the place of one that starts at the greatest offset and ends at 0, and so stands behind
every region that starts before that offset. -/
theorem foldl_insert_ofList (source : String) (items more : List Diagnostic) :
    items.foldl insert (empty source) = ofList source items ∧
      more.foldl insert (ofList source items) = ofList source (items ++ more) ∧
      (ofList source items).items.Perm items ∧ (ofList source items).Ordered ∧
      (ofList source items).items.Pairwise (fun a b => ∀ s t, a.span = some s → b.span = some t →
        s.start < t.start ∨ s.start = t.start ∧ s.stop ≤ t.stop) ∧
      (∀ k, atRank (ofList source items).items k = atRank items k) ∧
      ((∀ d ∈ items, ∀ s, d.span = some s → s.start < 0xFFFFFFFFFFFFFFFF) →
        (ofList source items).items.Pairwise fun a b => a.span = none → b.span = none) := by
  have hordered : (ofList source items).Ordered := ordered_ofList source items
  refine ⟨foldl_insert_empty source items, foldl_insert_eq source items more, perm_ofList source items, hordered,
    hordered.imp ?_, atRank_ofList source items, fun hnear => ?_⟩
  · intro a b hab s t hs ht
    simpa only [Diagnostic.rank, Diagnostic.orderKey, hs, ht] using Prod.Lex.toLex_le_toLex.1 hab
  · refine List.Pairwise.imp_of_mem (fun {a b} ha hb hab hnone => ?_) hordered
    cases hspan : b.span with
    | none => rfl
    | some t =>
      have hstart := hnear b ((perm_ofList source items).mem_iff.1 hb) t hspan
      have hplace := Prod.Lex.toLex_le_toLex.1 hab
      simp only [Diagnostic.orderKey, hnone, hspan] at hplace
      omega

/-- Regions that start together, one twice, and what has no region among them. -/
theorem foldl_insert_ofList_ties :
    let report : String → Option Span → Diagnostic := fun message span => ⟨.syntaxError, message, span, none, none⟩
    let items := [report "a" none, report "b" (some ⟨4, 9, 1, 5⟩), report "c" (some ⟨4, 6, 1, 5⟩), report "d" none,
      report "e" (some ⟨4, 6, 1, 5⟩), report "f" (some ⟨0, 2, 1, 1⟩)]
    (∀ d ∈ items, ∀ s, d.span = some s → s.start < 0xFFFFFFFFFFFFFFFF) ∧
      (items.foldl insert (empty "")).messages = ["f", "c", "e", "b", "a", "d"] ∧
      (items.foldl insert (empty "")).items.Pairwise fun a b => a.span = none → b.span = none := by
  intro report items
  have hnear : ∀ d ∈ items, ∀ s, d.span = some s → s.start < 0xFFFFFFFFFFFFFFFF := by
    simp [items, report]
  obtain ⟨hfoldl, -, -, -, -, -, hlast⟩ := foldl_insert_ofList "" items []
  refine ⟨hnear, ?_, ?_⟩
  · decide +kernel
  · rw [hfoldl]
    exact hlast hnear

/-- A region that starts at the greatest offset there is stands behind what has no region. -/
theorem foldl_insert_far :
    let far : Diagnostic := ⟨.syntaxError, "far", some ⟨0xFFFFFFFFFFFFFFFF, 0xFFFFFFFFFFFFFFFF, 1, 1⟩, none, none⟩
    let nowhere : Diagnostic := ⟨.syntaxError, "nowhere", none, none, none⟩
    ([far, nowhere].foldl insert (empty ".a = 1")).items = [nowhere, far] ∧
      (ofList ".a = 1" [far, nowhere]).items = [nowhere, far] ∧
      ¬[nowhere, far].Pairwise fun a b => a.span = none → b.span = none := by
  intro far nowhere
  have hinsert : ([far, nowhere].foldl insert (empty ".a = 1")).items = [nowhere, far] := by decide +kernel
  exact ⟨hinsert, foldl_insert_empty ".a = 1" [far, nowhere] ▸ hinsert, by simp [far, nowhere]⟩

end Diagnostics

end Reshape
