/-
Names that are near.

The distance of two texts is the least number of characters to put in, take out or change to make one of the other.  It
is computed row by row, and each entry of a row is the distance of a start of the one text to a start of the other.  The
name that is suggested for another is the nearest of a library, and the first in the alphabet of several, if it is near
enough.

* `Text.Edits` — texts made of others by so many edits;
* `Text.gap` — the distance by the first characters of both texts, `Text.edits_gap` and `Text.Edits.gap_le` — no fewer
  edits do;
* `Text.distance_eq_gap` — what the rows compute;
* `Library.isNearest_of_nearest` — the first of the nearest;
* `Library.suggest?_nearest` — distances and suggestions.
-/
import Mathlib.Data.List.Basic
import Mathlib.Order.Bounds.Defs
import Reshape.Function.Standard

namespace Reshape

namespace Text

variable {α : Type} {a b c : List α} {n : ℕ}

/-! ### Edits -/

/-- One character is put in, taken out or changed. -/
inductive Edit : List α → List α → Prop
  | putIn (front : List α) (x : α) (back : List α) : Edit (front ++ back) (front ++ x :: back)
  | takeOut (front : List α) (x : α) (back : List α) : Edit (front ++ x :: back) (front ++ back)
  | change (front : List α) (x y : α) (back : List α) : Edit (front ++ x :: back) (front ++ y :: back)

/-- So many edits, one after the other, make the second text of the first. -/
inductive Edits : ℕ → List α → List α → Prop
  | none (a : List α) : Edits 0 a a
  | step {n : ℕ} {a b c : List α} : Edit a b → Edits n b c → Edits (n + 1) a c

theorem Edit.cons (x : α) (h : Edit a b) : Edit (x :: a) (x :: b) := by
  cases h with
  | putIn front y back => exact .putIn (x :: front) y back
  | takeOut front y back => exact .takeOut (x :: front) y back
  | change front y z back => exact .change (x :: front) y z back

theorem Edit.reverse (h : Edit a b) : Edit a.reverse b.reverse := by
  cases h with
  | putIn front x back => simpa using Edit.putIn back.reverse x front.reverse
  | takeOut front x back => simpa using Edit.takeOut back.reverse x front.reverse
  | change front x y back => simpa using Edit.change back.reverse x y front.reverse

theorem Edits.cons (x : α) (h : Edits n a b) : Edits n (x :: a) (x :: b) := by
  induction h with
  | none a => exact .none _
  | step h _ ih => exact .step (h.cons x) ih

theorem Edits.reverse (h : Edits n a b) : Edits n a.reverse b.reverse := by
  induction h with
  | none a => exact .none _
  | step h _ ih => exact .step h.reverse ih

theorem edits_reverse_iff : Edits n a.reverse b.reverse ↔ Edits n a b :=
  ⟨fun h => by simpa using h.reverse, Edits.reverse⟩

theorem edits_nil_left (b : List α) : Edits b.length [] b := by
  induction b with
  | nil => exact .none []
  | cons y b ih => exact .step (.putIn [] y []) (ih.cons y)

theorem edits_nil_right (a : List α) : Edits a.length a [] := by
  induction a with
  | nil => exact .none []
  | cons x a ih => exact .step (.takeOut [] x a) ih

/-! ### The distance by first characters -/

variable [DecidableEq α]

/-- The least of what is left to do once the first character of one text or of both is dealt with. -/
def gap : List α → List α → ℕ
  | [], b => b.length
  | x :: a, [] => a.length + 1
  | x :: a, y :: b => min (min (gap a b + if x = y then 0 else 1) (gap a (y :: b) + 1)) (gap (x :: a) b + 1)
termination_by a b => a.length + b.length

@[simp] theorem gap_nil_left (b : List α) : gap [] b = b.length := by
  rw [gap]

@[simp] theorem gap_nil_right (a : List α) : gap a [] = a.length := by
  cases a <;> simp [gap]

theorem gap_cons_cons (x y : α) (a b : List α) :
    gap (x :: a) (y :: b) =
      min (min (gap a b + if x = y then 0 else 1) (gap a (y :: b) + 1)) (gap (x :: a) b + 1) := by
  rw [gap]

/-- One of the three ways to deal with first characters is the best. -/
theorem gap_cons_cons_cases (x y : α) (a b : List α) :
    (x = y ∧ gap (x :: a) (y :: b) = gap a b) ∨ gap (x :: a) (y :: b) = gap a b + 1 ∨
      gap (x :: a) (y :: b) = gap a (y :: b) + 1 ∨ gap (x :: a) (y :: b) = gap (x :: a) b + 1 := by
  rw [gap_cons_cons]
  by_cases h : x = y
  · simp only [h, if_true, true_and]
    omega
  · simp only [h, if_false, false_and, false_or]
    omega

/-- So many edits do. -/
theorem edits_gap (a b : List α) : Edits (gap a b) a b := by
  induction a, b using gap.induct with
  | case1 b =>
    rw [gap_nil_left]
    exact edits_nil_left b
  | case2 x a =>
    rw [gap_nil_right]
    exact edits_nil_right (x :: a)
  | case3 x a y b both left right =>
    rcases gap_cons_cons_cases x y a b with ⟨rfl, h⟩ | h | h | h
    · exact h ▸ both.cons x
    · exact h ▸ .step (.change [] x y a) (both.cons y)
    · exact h ▸ .step (.takeOut [] x a) left
    · exact h ▸ .step (.putIn [] y (x :: a)) (right.cons y)

theorem gap_le_gap_cons_left (x : α) (a c : List α) : gap (x :: a) c ≤ gap a c + 1 := by
  cases c with
  | nil => simp
  | cons y c =>
    rw [gap_cons_cons]
    omega

theorem gap_cons_right_le (y : α) (a c : List α) : gap a (y :: c) ≤ gap a c + 1 := by
  cases a with
  | nil => simp
  | cons x a =>
    rw [gap_cons_cons]
    omega

theorem gap_le_gap_cons (x : α) (a c : List α) : gap a c ≤ gap (x :: a) c + 1 := by
  induction c with
  | nil =>
    simp
    omega
  | cons y c ih =>
    have hright := gap_cons_right_le y a c
    rw [gap_cons_cons]
    omega

theorem gap_change_le (x y : α) (a c : List α) : gap (x :: a) c ≤ gap (y :: a) c + 1 := by
  induction c with
  | nil => simp
  | cons z c ih =>
    rw [gap_cons_cons, gap_cons_cons]
    split <;> split <;> omega

/-- An edit behind a character is an edit. -/
theorem gap_cons_le_of_gap_le (x : α) (h : ∀ c, gap a c ≤ gap b c + 1) (c : List α) :
    gap (x :: a) c ≤ gap (x :: b) c + 1 := by
  induction c with
  | nil => simpa using h []
  | cons y c ih =>
    have hboth := h c
    have hleft := h (y :: c)
    rw [gap_cons_cons, gap_cons_cons]
    omega

theorem gap_append_le_of_gap_le (front : List α) (h : ∀ c, gap a c ≤ gap b c + 1) (c : List α) :
    gap (front ++ a) c ≤ gap (front ++ b) c + 1 := by
  induction front generalizing c with
  | nil => exact h c
  | cons x front ih => exact gap_cons_le_of_gap_le x ih c

/-- An edit changes a distance by no more than one. -/
theorem Edit.gap_le (h : Edit a b) (c : List α) : gap a c ≤ gap b c + 1 := by
  cases h with
  | putIn front x back => exact gap_append_le_of_gap_le front (gap_le_gap_cons x back) c
  | takeOut front x back => exact gap_append_le_of_gap_le front (gap_le_gap_cons_left x back) c
  | change front x y back => exact gap_append_le_of_gap_le front (gap_change_le x y back) c

theorem gap_self (a : List α) : gap a a = 0 := by
  induction a with
  | nil => exact gap_nil_left []
  | cons x a ih =>
    rw [gap_cons_cons, ih, if_pos rfl]
    omega

/-- No fewer edits do. -/
theorem Edits.gap_le (h : Edits n a b) : gap a b ≤ n := by
  induction h with
  | none a => exact Nat.le_of_eq (gap_self a)
  | step h _ ih => exact Nat.le_trans (h.gap_le _) (Nat.succ_le_succ ih)

/-! ### Rows -/

/-- The distances of a text to the starts of another, both read from their ends: the second text is `v` and what of
the rest is read so far. -/
def rowFrom (u v : List α) : List α → List ℕ
  | [] => [gap u v]
  | y :: rest => gap u v :: rowFrom u (y :: v) rest

theorem cons_tail_rowFrom (u v rest : List α) : gap u v :: (rowFrom u v rest).tail = rowFrom u v rest := by
  cases rest <;> rfl

theorem rowFrom_nil (v rest : List α) : rowFrom [] v rest = List.range' v.length (rest.length + 1) := by
  induction rest generalizing v with
  | nil => simp [rowFrom]
  | cons y rest ih => rw [rowFrom, ih, gap_nil_left, List.length_cons, List.length_cons, ← List.range'_succ]

theorem firstRow_eq (b : List α) : firstRow b = rowFrom [] [] b := by
  rw [firstRow, rowFrom_nil, List.range_eq_range', List.length_nil]

/-- An entry is made of the three beside it. -/
theorem rowStep_eq (x : α) (u v rest : List α) :
    rowStep x (gap (x :: u) v) rest (rowFrom u v rest) = (rowFrom (x :: u) v rest).tail := by
  induction rest generalizing v with
  | nil => rfl
  | cons y rest ih =>
    have hentry := (gap_cons_cons x y u v).symm
    have hrest := ih (y :: v)
    rw [← cons_tail_rowFrom u (y :: v)] at hrest
    rw [rowFrom, ← cons_tail_rowFrom u (y :: v), rowStep, hentry, hrest, cons_tail_rowFrom]
    rfl

theorem nextRow_eq (x : α) (u b : List α) : nextRow b (rowFrom u [] b) x = rowFrom (x :: u) [] b := by
  have hfirst : (rowFrom u [] b).headD 0 + 1 = gap (x :: u) [] := by
    rw [← cons_tail_rowFrom, List.headD_cons, gap_nil_right, gap_nil_right, List.length_cons]
  rw [nextRow, hfirst, rowStep_eq, cons_tail_rowFrom]

theorem foldl_nextRow (a u b : List α) :
    a.foldl (nextRow b) (rowFrom u [] b) = rowFrom (a.reverse ++ u) [] b := by
  induction a generalizing u with
  | nil => rfl
  | cons x a ih => rw [List.foldl_cons, nextRow_eq, ih, List.reverse_cons, List.append_assoc, List.singleton_append]

theorem getLastD_rowFrom (u v rest : List α) (k : ℕ) :
    (rowFrom u v rest).getLastD k = gap u (rest.reverse ++ v) := by
  induction rest generalizing v k with
  | nil => rfl
  | cons y rest ih => rw [rowFrom, List.getLastD_cons, ih, List.reverse_cons, List.append_assoc, List.singleton_append]

theorem distance_eq_gap (a b : List α) : distance a b = gap a.reverse b.reverse := by
  rw [distance, firstRow_eq, foldl_nextRow, getLastD_rowFrom, List.append_nil, List.append_nil]

/-- The distance is the least number of edits. -/
theorem isLeast_distance (a b : List α) : IsLeast {n | Edits n a b} (distance a b) := by
  rw [distance_eq_gap]
  exact ⟨edits_reverse_iff.1 (edits_gap _ _), fun n h => (edits_reverse_iff.2 h).gap_le⟩

end Text

/-! ### Suggestions -/

namespace Library

open Text (Edits distance)

/-- Of some names the one at the least distance, and of several the first in the alphabet. -/
def IsNearest (name : String) (names : List String) (candidate : String) : Prop :=
  candidate ∈ names ∧ ∀ other ∈ names,
    distance name.toList candidate.toList < distance name.toList other.toList ∨
      distance name.toList candidate.toList = distance name.toList other.toList ∧ candidate ≤ other

variable {library : Library} {name candidate other : String} {names : List String} {d : ℕ}

theorem IsNearest.unique (h : IsNearest name names candidate) (h' : IsNearest name names other) :
    candidate = other := by
  have hle := h.2 other h'.1
  have hge := h'.2 candidate h.1
  rcases hle with hlt | ⟨heq, hle⟩
  · omega
  · rcases hge with hlt | ⟨-, hge⟩
    · omega
    · exact String.le_antisymm hle hge

theorem nearest_eq_none_iff {name : List Char} : nearest name names = none ↔ names = [] := by
  cases names with
  | nil => simp [nearest]
  | cons first rest =>
    rw [nearest]
    split
    · split <;> simp
    · simp

/-- Of names in the order of the alphabet, the nearest that is found is the first. -/
theorem isNearest_of_nearest (hsorted : names.Pairwise (· ≤ ·)) (h : nearest name.toList names = some (d, candidate)) :
    d = distance name.toList candidate.toList ∧ IsNearest name names candidate := by
  induction names generalizing d candidate with
  | nil => cases h
  | cons first rest ih =>
    rw [List.pairwise_cons] at hsorted
    rw [nearest] at h
    split at h
    · rename_i d' other hrest
      obtain ⟨rfl, hmem, hleast⟩ := ih hsorted.2 hrest
      split at h
      · rename_i hle
        cases h
        refine ⟨rfl, List.mem_cons_self, List.forall_mem_cons.2 ⟨.inr ⟨rfl, String.le_refl _⟩, fun o ho => ?_⟩⟩
        have hleast := hleast o ho
        rcases Nat.lt_or_ge (distance name.toList first.toList) (distance name.toList o.toList) with hlt | hge
        · exact .inl hlt
        · exact .inr ⟨by omega, hsorted.1 o ho⟩
      · rename_i hlt
        cases h
        refine ⟨rfl, List.mem_cons_of_mem _ hmem, List.forall_mem_cons.2 ⟨.inl (by omega), hleast⟩⟩
    · rename_i hrest
      cases h
      obtain rfl := nearest_eq_none_iff.1 hrest
      exact ⟨rfl, List.mem_cons_self, List.forall_mem_singleton.2 (.inr ⟨rfl, String.le_refl _⟩)⟩

theorem pairwise_names (library : Library) : library.names.Pairwise (· ≤ ·) := by
  have htrans (a b c : String) (hab : decide (a ≤ b) = true) (hbc : decide (b ≤ c) = true) : decide (a ≤ c) = true :=
    decide_eq_true (String.le_trans (of_decide_eq_true hab) (of_decide_eq_true hbc))
  have htotal (a b : String) : (decide (a ≤ b) || decide (b ≤ a)) = true := by
    simpa using String.le_total a b
  exact (List.pairwise_mergeSort htrans htotal (library.map (·.name))).imp of_decide_eq_true

theorem mem_names : candidate ∈ library.names ↔ ∃ f ∈ library, f.name = candidate := by
  rw [names, List.mem_mergeSort, List.mem_map]

/-- What is suggested is the nearest name, if it is near enough. -/
theorem suggest?_eq_some_iff :
    library.suggest? name = some candidate ↔
      IsNearest name library.names candidate ∧ distance name.toList candidate.toList ≤ tolerance name.toList := by
  rw [suggest?]
  cases hnearest : nearest name.toList library.names with
  | none =>
    have hnames := nearest_eq_none_iff.1 hnearest
    simp [IsNearest, hnames]
  | some found =>
    obtain ⟨d, first⟩ := found
    obtain ⟨rfl, hfirst⟩ := isNearest_of_nearest library.pairwise_names hnearest
    dsimp only
    constructor
    · intro h
      split at h
      · rename_i hnear
        obtain rfl := Option.some.inj h
        exact ⟨hfirst, hnear⟩
      · cases h
    · rintro ⟨hcandidate, hnear⟩
      obtain rfl := hcandidate.unique hfirst
      exact if_pos hnear

theorem suggest?_eq_none_iff :
    library.suggest? name = none ↔ ∀ f ∈ library, tolerance name.toList < distance name.toList f.name.toList := by
  rw [suggest?]
  cases hnearest : nearest name.toList library.names with
  | none =>
    have hnames := nearest_eq_none_iff.1 hnearest
    have hnone : ∀ f ∈ library, tolerance name.toList < distance name.toList f.name.toList := fun f hf => by
      have hmem : f.name ∈ library.names := mem_names.2 ⟨f, hf, rfl⟩
      rw [hnames] at hmem
      cases hmem
    exact iff_of_true rfl hnone
  | some found =>
    obtain ⟨d, first⟩ := found
    obtain ⟨rfl, hfirst, hleast⟩ := isNearest_of_nearest library.pairwise_names hnearest
    dsimp only
    constructor
    · intro h f hf
      have hleast := hleast f.name (mem_names.2 ⟨f, hf, rfl⟩)
      split at h
      · cases h
      · omega
    · intro h
      obtain ⟨f, hf, rfl⟩ := mem_names.1 hfirst
      exact if_neg (Nat.not_le.2 (h f hf))

/-- The distance of two texts is the least number of characters to put in, take out or change to make one of the other.
For a name, the name of a function is suggested exactly if it is the first in the alphabet of those at the least
distance, and this is at most a third of the characters, or 1.  Nothing is suggested exactly if no name is that near. -/
theorem suggest?_nearest (library : Library) (name : String) :
    (∀ a b : String, IsLeast {n | Edits n a.toList b.toList} (distance a.toList b.toList)) ∧
      (∀ candidate, library.suggest? name = some candidate ↔
        (∃ f ∈ library, f.name = candidate) ∧
          (∀ f ∈ library, distance name.toList candidate.toList < distance name.toList f.name.toList ∨
            distance name.toList candidate.toList = distance name.toList f.name.toList ∧ candidate ≤ f.name) ∧
          distance name.toList candidate.toList ≤ max 1 (name.length / 3)) ∧
      (library.suggest? name = none ↔
        ∀ f ∈ library, max 1 (name.length / 3) < distance name.toList f.name.toList) := by
  have htolerance : tolerance name.toList = max 1 (name.length / 3) := by
    rw [tolerance, String.length_toList, Nat.max_comm]
  refine ⟨fun a b => Text.isLeast_distance a.toList b.toList, fun candidate => ?_, ?_⟩
  · rw [suggest?_eq_some_iff, htolerance, IsNearest, mem_names, and_assoc]
    refine and_congr_right fun _ => and_congr_left fun _ => ?_
    constructor
    · exact fun h f hf => h f.name (mem_names.2 ⟨f, hf, rfl⟩)
    · intro h other hother
      obtain ⟨f, hf, rfl⟩ := mem_names.1 hother
      exact h f hf
  · rw [suggest?_eq_none_iff, htolerance]

end Library

end Reshape
