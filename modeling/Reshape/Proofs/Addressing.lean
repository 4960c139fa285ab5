/-
Which place a path means, and what a write does to every place.

A name means a field whether there is one or not; a position means an item only in an array that has it, and two
positions, one counted from the end, can mean the same item.  The `slots` of a path are what its segments mean,
each in the value that the segments before it lead to.  One path is `Within` another if its slots go on from those
of the other, and two paths diverge if neither is within the other, so that at some segment they go different ways.

* `Value.storeFrom_cons` — what a write does at the first segment of its path, in terms of what is read;
* `Value.slots_of_storeFrom` — a write does not change what paths mean, unless they lead on below its place;
* `Value.insert_replaces` — what a write returns, leaves at its place and leaves alone everywhere else.
-/
import Mathlib.Data.List.Infix
import Reshape.Proofs.Place

namespace Reshape

/-- A child of a value: the field of a name, or the item at a position from the front. -/
inductive Slot where
  | field (name : String)
  | item (n : Nat)
deriving DecidableEq, Repr

namespace Value

/-- What a segment means in a value. -/
def slot? : Value → Segment → Option Slot
  | _, .key k => some (.field k)
  | array items, .index i => (resolveIndex i items.length).map .item
  | _, .index _ => none

/-- What the segments of a path mean one after the other. -/
def slots : Value → Path → List (Option Slot)
  | _, [] => []
  | v, segment :: rest => v.slot? segment :: slots ((v.get? [segment]).getD null) rest

/-- The path `q` leads to the place of `p` or on into it. -/
def Within (v : Value) (p q : Path) : Prop :=
  v.slots p <+: v.slots q

/-- The paths part at some segment: there they mean different children. -/
def Diverges (v : Value) (p q : Path) : Prop :=
  ¬ v.Within p q ∧ ¬ v.Within q p

instance (v : Value) (p q : Path) : Decidable (v.Within p q) :=
  inferInstanceAs (Decidable (v.slots p <+: v.slots q))

instance (v : Value) (p q : Path) : Decidable (v.Diverges p q) :=
  inferInstanceAs (Decidable (¬ v.Within p q ∧ ¬ v.Within q p))

example : (array [null, null]).Within [.index 0] [.index (-2), .key "x"] := by decide

/-- The length of an array. -/
def length? : Value → Option Nat
  | array items => some items.length
  | _ => none

variable {new current root root' v : Value} {before rest p q : Path} {s t : Segment} {old : Option Value}

/-! ### Paths segment by segment -/

theorem get?_cons (v : Value) (s : Segment) (rest : Path) :
    v.get? (s :: rest) = (v.get? [s]).bind (·.get? rest) := by
  cases s with
  | key k =>
    cases v with
    | object fields =>
      rw [get?_object, get?_object]
      cases Fields.get? k fields <;> simp
    | _ => rfl
  | index i =>
    cases v with
    | array items =>
      rw [get?, get?]
      cases (resolveIndex i items.length).bind (items[·]?) <;> simp
    | _ => rfl

/-- A name and a position mean different children. -/
theorem slot?_key_ne_index (v : Value) (k : String) (i : Int64) : v.slot? (.key k) ≠ v.slot? (.index i) := by
  cases v with
  | array items => cases h : resolveIndex i items.length <;> simp [slot?, h]
  | _ => simp [slot?]

/-- A field is meant by its name alone. -/
theorem slot?_key_eq_iff {k : String} : v.slot? (.key k) = v.slot? t ↔ .key k = t := by
  refine ⟨fun h => ?_, fun h => h ▸ rfl⟩
  cases t with
  | key k' => exact congrArg _ (Slot.field.inj (Option.some.inj h))
  | index i => exact absurd h (slot?_key_ne_index v k i)

/-- Segments that mean the same child read the same. -/
theorem get?_singleton_congr (h : v.slot? s = v.slot? t) : v.get? [s] = v.get? [t] := by
  cases s with
  | key k => exact slot?_key_eq_iff.1 h ▸ rfl
  | index i =>
    cases t with
    | key k => exact absurd h.symm (slot?_key_ne_index v k i)
    | index j =>
      cases v with
      | array items =>
        have hij : resolveIndex i items.length = resolveIndex j items.length :=
          Option.map_injective (fun _ _ => Slot.item.inj) h
        rw [get?, get?, hij]
      | _ => rfl

theorem not_diverges_nil_left : ¬ v.Diverges [] q :=
  fun h => h.1 List.nil_prefix

theorem not_diverges_nil_right : ¬ v.Diverges p [] :=
  fun h => h.2 List.nil_prefix

/-- Behind first segments that mean the same child. -/
theorem within_cons (h : v.slot? s = v.slot? t) :
    v.Within (s :: p) (t :: q) ↔ ((v.get? [s]).getD null).Within p q := by
  rw [Within, slots, slots, List.cons_prefix_cons, get?_singleton_congr h]
  exact and_iff_right h

theorem diverges_cons (h : v.slot? s = v.slot? t) :
    v.Diverges (s :: p) (t :: q) ↔ ((v.get? [s]).getD null).Diverges p q := by
  rw [Diverges, within_cons h, within_cons h.symm, get?_singleton_congr h, Diverges]

/-- First segments that mean different children. -/
theorem diverges_of_slot?_ne (h : v.slot? s ≠ v.slot? t) : v.Diverges (s :: p) (t :: q) :=
  ⟨fun hpq => h (List.cons_prefix_cons.1 hpq).1, fun hqp => h (List.cons_prefix_cons.1 hqp).1.symm⟩

theorem get?_append (v : Value) (p q : Path) : v.get? (p ++ q) = (v.get? p).bind (·.get? q) := by
  induction p generalizing v with
  | nil => simp
  | cons s p ih =>
    rw [List.cons_append, get?_cons v s (p ++ q), get?_cons v s p]
    cases v.get? [s] with
    | none => rfl
    | some child => exact ih child

theorem slots_append (v : Value) (p q : Path) :
    v.slots (p ++ q) = v.slots p ++ ((v.get? p).getD null).slots q := by
  induction p generalizing v with
  | nil => simp [slots]
  | cons s p ih =>
    rw [List.cons_append, slots, slots, ih, get?_cons v s p]
    by_cases hp : p = []
    · subst hp
      cases v.get? [s] <;> simp
    · rw [get?_getD_null hp]
      rfl

theorem length_slots (v : Value) (p : Path) : (v.slots p).length = p.length := by
  induction p generalizing v with
  | nil => rfl
  | cons s p ih => rw [slots, List.length_cons, ih, List.length_cons]

/-- What a segment means in an array hangs on its length alone, and elsewhere on nothing. -/
theorem slot?_congr {w : Value} (h : v.length? = w.length?) (s : Segment) : v.slot? s = w.slot? s := by
  cases s with
  | key k =>
    have hslot : ∀ v : Value, v.slot? (.key k) = some (.field k) := by
      intro v
      cases v with
      | _ => rfl
    rw [hslot, hslot]
  | index i =>
    have hslot : ∀ v : Value, v.slot? (.index i) = (v.length?.bind (resolveIndex i)).map .item := by
      intro v
      cases v with
      | _ => rfl
    rw [hslot, hslot, h]

/-- Paths with the same slots read the same. -/
theorem get?_of_slots_eq (h : v.slots p = v.slots q) : v.get? p = v.get? q := by
  induction p generalizing v q with
  | nil =>
    have hq : q = [] := List.length_eq_zero_iff.1 (by rw [← v.length_slots q, ← h]; rfl)
    rw [hq]
  | cons s p ih =>
    cases q with
    | nil => cases h
    | cons t q =>
      obtain ⟨hst, hpq⟩ := List.cons.inj h
      rw [get?_cons v s, get?_cons v t, ← get?_singleton_congr hst]
      rw [← get?_singleton_congr hst] at hpq
      cases hchild : v.get? [s] with
      | none => rfl
      | some child =>
        rw [hchild] at hpq
        exact ih hpq

/-- A path within another goes on from one that means the same. -/
theorem exists_of_within (h : v.Within q r) : ∃ r₁ r₂, r = r₁ ++ r₂ ∧ v.slots r₁ = v.slots q := by
  refine ⟨r.take q.length, r.drop q.length, (List.take_append_drop ..).symm, ?_⟩
  have hle : q.length ≤ r.length := by simpa only [length_slots] using h.length_le
  have hslots : v.slots (r.take q.length) <+: v.slots r := by
    conv => rhs; rw [← List.take_append_drop q.length r, slots_append]
    exact List.prefix_append _ _
  have hlength : (v.slots (r.take q.length)).length = (v.slots q).length := by
    rw [length_slots, length_slots, List.length_take, Nat.min_eq_left hle]
  exact (List.prefix_of_prefix_length_le hslots h hlength.le).eq_of_length hlength

/-! ### What a write changes -/

theorem Opens.length?_eq {fields : Fields Value} (h : v.Opens fields) : v.length? = none := by
  rcases h with rfl | ⟨rfl, -⟩ <;> rfl

/-- A write goes on in the child that its first segment means: the changed child is read there afterwards, by
whatever segment means it, the other children are as before, and an array is as long as before. -/
theorem storeFrom_cons (h : storeFrom new before current (s :: rest) = .ok (old, root')) :
    ∃ old' child, storeFrom new (before ++ [s]) ((current.get? [s]).getD null) rest = .ok (old', child) ∧
      (∀ t, root'.get? [t] = if current.slot? s = current.slot? t then some child else current.get? [t]) ∧
        root'.length? = current.length? := by
  cases s with
  | key k =>
    obtain ⟨fields, old', child, hopens, hchild, rfl, -⟩ := storeFrom_key h
    have hget : current.get? [.key k] = Fields.get? k fields := by simp [hopens.get?]
    refine ⟨old', child, hget ▸ hchild, fun t => ?_, hopens.length?_eq.symm⟩
    split
    · rename_i ht
      obtain rfl : Segment.key k = t := slot?_key_eq_iff.1 ht
      simp
    · rename_i ht
      cases t with
      | key k' =>
        have hk : k' ≠ k := fun hk => ht (hk ▸ rfl)
        rw [get?_object, hopens.get?, Fields.get?_insert_of_ne hk]
      | index j => rcases hopens with rfl | ⟨rfl, -⟩ <;> rfl
  | index i =>
    obtain ⟨items, n, child, rfl, hn, hchild, rfl⟩ := storeFrom_index h
    have hlt : n < items.length := resolveIndex_lt hn
    have hitem : ((array items).get? [.index i]).getD null = items.getD n null := by
      rw [get?_array hn, List.getD_eq_getElem?_getD]
      cases items[n]? <;> simp
    refine ⟨old, child, hitem ▸ hchild, fun t => ?_, by simp [length?]⟩
    cases t with
    | key k => rw [if_neg (slot?_key_ne_index (array items) k i).symm]; rfl
    | index j =>
      cases hj : resolveIndex j items.length with
      | none => rw [if_neg (by simp [slot?, hn, hj]), get?, get?, List.length_set, hj]; rfl
      | some m =>
        -- the array is as long as before, so that the position means the same item in it
        have hj' : resolveIndex j (items.set n child).length = some m := by rwa [List.length_set]
        rw [get?_array hj', get?_array hj]
        by_cases hnm : n = m
        · subst hnm
          rw [if_pos (by simp [slot?, hn, hj]), List.getElem?_set_self hlt, Option.bind_some, get?_nil]
        · rw [if_neg (by simp [slot?, hn, hj, hnm]), List.getElem?_set_ne hnm]

/-- What is not there has no length, like null. -/
theorem length?_getD_null (q : Path) (found : Option Value) :
    ((found.getD null).get? q).bind length? = (found.bind (·.get? q)).bind length? := by
  by_cases hq : q = []
  · subst hq
    cases found <;> simp [length?]
  · rw [get?_getD_null hq]

/-- Arrays keep their length wherever the write does not replace them. -/
theorem length?_of_storeFrom (h : storeFrom new before current p = .ok (old, root'))
    (hq : ¬ current.Within p q) : (root'.get? q).bind length? = (current.get? q).bind length? := by
  induction p generalizing before current old root' q with
  | nil =>
    -- the whole value is replaced, and every path is within it
    exact absurd List.nil_prefix hq
  | cons s p ih =>
    obtain ⟨old', child, hchild, hget, hlength⟩ := storeFrom_cons h
    cases q with
    | nil => simpa using hlength
    | cons t q =>
      rw [get?_cons root', get?_cons current, hget t]
      split
      · -- the write goes on in the child that is read
        rename_i hst
        have hq' := mt (within_cons hst).2 hq
        rw [Option.bind_some, ih hchild hq', length?_getD_null, get?_singleton_congr hst]
      · rfl

/-- What is read along another way than the write is as before. -/
theorem get?_of_storeFrom_of_diverges (h : storeFrom new before current p = .ok (old, root'))
    (hq : current.Diverges p q) : root'.get? q = current.get? q := by
  induction p generalizing before current old root' q with
  | nil => exact absurd hq not_diverges_nil_left
  | cons s p ih =>
    obtain ⟨old', child, hchild, hget, -⟩ := storeFrom_cons h
    cases q with
    | nil => exact absurd hq not_diverges_nil_right
    | cons t q =>
      rw [get?_cons root', get?_cons current, hget t]
      split
      · -- the paths go on together, and part further down
        rename_i hst
        have hq' := (diverges_cons hst).1 hq
        have hne : q ≠ [] := fun hnil => not_diverges_nil_right (hnil ▸ hq')
        rw [Option.bind_some, ih hchild hq', get?_getD_null hne, get?_singleton_congr hst]
      · rfl

/-- A write leaves the meaning of every path that does not lead on below its place. -/
theorem slots_of_storeFrom (h : storeFrom new before current p = .ok (old, root'))
    (hq : current.Within p q → current.Within q p) : root'.slots q = current.slots q := by
  induction p generalizing before current old root' q with
  | nil =>
    have hnil : current.slots q = [] := List.prefix_nil.1 (hq List.nil_prefix)
    obtain rfl : q = [] := List.length_eq_zero_iff.1 (by rw [← current.length_slots q, hnil]; rfl)
    rfl
  | cons s p ih =>
    obtain ⟨old', child, hchild, hget, hlength⟩ := storeFrom_cons h
    cases q with
    | nil => rfl
    | cons t q =>
      rw [slots, slots, slot?_congr hlength, hget t]
      split
      · -- the write goes on where the path does
        rename_i hst
        rw [within_cons hst, within_cons hst.symm, ← get?_singleton_congr hst] at hq
        rw [Option.getD_some, ih hchild hq, get?_singleton_congr hst]
      · rfl


/-- Where a write was made, its value is read by every path that means its place. -/
theorem get?_of_storeFrom_of_slots_eq (h : storeFrom new before current p = .ok (old, root'))
    (hq : current.slots q = current.slots p) : root'.get? q = some new := by
  have hp' : root'.slots p = current.slots p := slots_of_storeFrom h fun h => h
  have hq' : root'.slots q = current.slots q := slots_of_storeFrom h fun _ => by rw [Within, hq]
  rw [get?_of_slots_eq (hq'.trans (hq.trans hp'.symm))]
  exact get?_of_storeFrom h

/-- A write returns what was at its place and leaves the new value there.  Everywhere else arrays keep their
length, and along every path that goes another way the same is read as before, there or not. -/
theorem insert_replaces (h : root.insert p new = .ok (old, root')) :
    old = root.get? p ∧ root'.get? p = some new ∧
      (∀ q, ¬ root.Within p q → (root'.get? q).bind length? = (root.get? q).bind length?) ∧
        ∀ q, root.Diverges p q → root'.get? q = root.get? q := by
  have hstore := storeFrom_of_insert h
  exact ⟨eq_get?_of_storeFrom hstore, get?_of_storeFrom hstore,
    fun q hq => length?_of_storeFrom hstore hq, fun q hq => get?_of_storeFrom_of_diverges hstore hq⟩

/-- The first of two items, counted from the end, is null: the write makes an object of it, and the array stays
as long as it was. -/
theorem insert_replaces_null :
    let root : Value := object [("a", array [null, integer 1]), ("b", null)]
    let p : Path := [.key "a", .index (-2), .key "k"]
    ∃ old root', root.insert p (string "v") = .ok (old, root') ∧ old = none ∧ root'.get? p = some (string "v") ∧
      (root'.get? [.key "a"]).bind length? = some 2 ∧ root'.get? [.key "a", .index 1] = some (integer 1) := by
  intro root p
  have hinsert : root.insert p (string "v") =
      .ok (none, object [("a", array [object [("k", string "v")], integer 1]), ("b", null)]) := rfl
  obtain ⟨hold, hnew, hlength, hother⟩ := insert_replaces hinsert
  exact ⟨_, _, hinsert, hold, hnew, hlength [.key "a"] (by decide), hother [.key "a", .index 1] (by decide)⟩

end Value

end Reshape
