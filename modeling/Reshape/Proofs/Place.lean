/-
Writes and reads of one place.

A write that is not refused ends with the new value at its place, whatever the tree was before: the objects
that it makes on the way lead to it, and an array keeps its length, so that a position means the same after
the write.  What one segment of a path does to a tree is said once, for writes (`storeFrom_key`,
`storeFrom_index`) and for removals (`removeFrom_key`, `removeFrom_index`).

* `resolveIndex_lt` — a position that an index means is one of the array;
* `Value.get?_of_insert` — what was written is what is read.
-/
import Mathlib.Data.List.Basic
import Reshape.Value.Place

namespace Reshape

/-- Two computations in a row that end well. -/
theorem bind_eq_ok {ε α β : Type} {x : Except ε α} {f : α → Except ε β} {b : β} :
    x >>= f = .ok b ↔ ∃ a, x = .ok a ∧ f a = .ok b := by
  cases x with
  | error e => simp [bind, Except.bind]
  | ok a => simp [bind, Except.bind]

theorem resolveIndex_lt {i : Int64} {length n : Nat} (h : resolveIndex i length = some n) : n < length := by
  unfold resolveIndex at h
  split at h
  · split at h
    · obtain rfl := Option.some.inj h
      assumption
    · cases h
  · split at h
    · obtain rfl := Option.some.inj h
      omega
    · cases h

namespace Value

variable {new current root root' : Value} {before rest path : Path} {k : String} {i : Int64}
  {old : Option Value}

@[simp] theorem get?_nil (v : Value) : v.get? [] = some v := by
  cases v <;> rfl

@[simp] theorem get?_object (fields : Fields Value) (k : String) (rest : Path) :
    (object fields).get? (.key k :: rest) = (Fields.get? k fields).bind (·.get? rest) := by
  rw [get?]
  cases Fields.get? k fields <;> rfl

theorem get?_array {items : List Value} {n : Nat} (h : resolveIndex i items.length = some n) (rest : Path) :
    (array items).get? (.index i :: rest) = items[n]?.bind (·.get? rest) := by
  rw [get?, h, Option.bind_some]
  cases items[n]? <;> rfl

@[simp] theorem get?_null (segment : Segment) (rest : Path) : null.get? (segment :: rest) = none := by
  cases segment <;> rfl

/-- A value that is not there has nothing in it, like null. -/
theorem get?_getD_null {p : Path} (hp : p ≠ []) (found : Option Value) :
    (found.getD null).get? p = found.bind (·.get? p) := by
  cases found with
  | some v => rfl
  | none =>
    obtain ⟨segment, rest, rfl⟩ := List.exists_cons_of_ne_nil hp
    exact get?_null segment rest

/-! ### One segment of a path -/

/-- A value that can be written into by name: an object, or null, which has no fields yet. -/
def Opens (v : Value) (fields : Fields Value) : Prop :=
  v = object fields ∨ v = null ∧ fields = []

theorem Opens.get? {v : Value} {fields : Fields Value} (h : v.Opens fields) (k : String) (rest : Path) :
    v.get? (.key k :: rest) = (Fields.get? k fields).bind (·.get? rest) := by
  rcases h with rfl | ⟨rfl, rfl⟩
  · exact get?_object fields k rest
  · rfl

theorem Opens.storeFrom_eq {v : Value} {fields : Fields Value} (h : v.Opens fields) (new : Value) (before : Path)
    (k : String) (rest : Path) :
    storeFrom new before v (.key k :: rest) =
      if rest.isEmpty then .ok (Fields.get? k fields, object (Fields.insert k new fields))
      else
        storeFrom new (before ++ [.key k]) ((Fields.get? k fields).getD null) rest >>= fun x =>
          .ok (x.1, object (Fields.insert k x.2 fields)) := by
  rcases h with rfl | ⟨rfl, rfl⟩ <;> rfl

/-- A write below a name opens the value and puts the changed child in the place of the name.  It returns what it
returns below, but for a field that was not there. -/
theorem storeFrom_key (h : storeFrom new before current (.key k :: rest) = .ok (old, root')) :
    ∃ fields old' child, current.Opens fields ∧
      storeFrom new (before ++ [.key k]) ((Fields.get? k fields).getD null) rest = .ok (old', child) ∧
        root' = object (Fields.insert k child fields) ∧
          old = if rest = [] then Fields.get? k fields else old' := by
  obtain ⟨fields, hopens⟩ : ∃ fields, current.Opens fields := by
    cases current with
    | object fields => exact ⟨fields, .inl rfl⟩
    | null => exact ⟨[], .inr ⟨rfl, rfl⟩⟩
    | _ => cases h
  rw [hopens.storeFrom_eq] at h
  split at h
  · -- the last name: the new value is the child
    rename_i hrest
    obtain rfl := List.isEmpty_iff.1 hrest
    obtain ⟨rfl, rfl⟩ := Prod.mk.inj (Except.ok.inj h)
    exact ⟨fields, _, new, hopens, rfl, rfl, rfl⟩
  · rename_i hrest
    obtain ⟨⟨old', child⟩, hchild, h⟩ := bind_eq_ok.1 h
    obtain ⟨rfl, rfl⟩ := Prod.mk.inj (Except.ok.inj h)
    exact ⟨fields, old', child, hopens, hchild, rfl, (if_neg fun hnil => hrest (List.isEmpty_iff.2 hnil)).symm⟩

/-- A write below a position changes the item there. -/
theorem storeFrom_index (h : storeFrom new before current (.index i :: rest) = .ok (old, root')) :
    ∃ items n child, current = array items ∧ resolveIndex i items.length = some n ∧
      storeFrom new (before ++ [.index i]) (items.getD n null) rest = .ok (old, child) ∧
        root' = array (items.set n child) := by
  unfold storeFrom at h
  split at h
  · rename_i items
    split at h
    · rename_i n hn
      obtain ⟨⟨old', child⟩, hchild, h⟩ := bind_eq_ok.1 h
      obtain ⟨rfl, rfl⟩ := Prod.mk.inj (Except.ok.inj h)
      exact ⟨items, n, child, rfl, hn, hchild, rfl⟩
    · cases h
  · cases h
  · cases h

/-- A removal below a name takes out the field, or something in it. -/
theorem removeFrom_key {v : Value} (h : removeFrom current (.key k :: rest) = some (v, root')) :
    ∃ fields child, current = object fields ∧ Fields.get? k fields = some child ∧
      (rest = [] ∧ root' = object (Fields.erase k fields) ∨
        ∃ child', removeFrom child rest = some (v, child') ∧
          root' = object (Fields.insert k child' fields)) := by
  unfold removeFrom at h
  split at h
  · rename_i fields k' hpath
    obtain ⟨hk, rfl⟩ := List.cons.inj hpath
    obtain rfl := Segment.key.inj hk
    obtain ⟨child, hchild, hv⟩ := Option.map_eq_some_iff.1 h
    obtain ⟨-, rfl⟩ := Prod.mk.inj hv
    exact ⟨fields, child, rfl, hchild, .inl ⟨rfl, rfl⟩⟩
  · rename_i hpath
    cases hpath
  · rename_i fields k' rest' hrest hpath
    obtain ⟨hk, rfl⟩ := List.cons.inj hpath
    obtain rfl := Segment.key.inj hk
    obtain ⟨child, hchild, h⟩ := Option.bind_eq_some_iff.1 h
    obtain ⟨⟨old', child'⟩, hchild', h⟩ := Option.bind_eq_some_iff.1 h
    obtain ⟨rfl, rfl⟩ := Prod.mk.inj (Option.some.inj h)
    exact ⟨fields, child, rfl, hchild, .inr ⟨child', hchild', rfl⟩⟩
  · rename_i hpath
    cases hpath
  · cases h

/-- A removal below a position takes out the item, so that the items behind it move up, or something in it. -/
theorem removeFrom_index {v : Value} (h : removeFrom current (.index i :: rest) = some (v, root')) :
    ∃ items n item, current = array items ∧ resolveIndex i items.length = some n ∧ items[n]? = some item ∧
      (rest = [] ∧ root' = array (items.eraseIdx n) ∨
        ∃ child', removeFrom item rest = some (v, child') ∧ root' = array (items.set n child')) := by
  unfold removeFrom at h
  split at h
  · rename_i hpath
    cases hpath
  · rename_i items i' hpath
    obtain ⟨hi, rfl⟩ := List.cons.inj hpath
    obtain rfl := Segment.index.inj hi
    obtain ⟨n, hn, h⟩ := Option.bind_eq_some_iff.1 h
    obtain ⟨item, hitem, h⟩ := Option.bind_eq_some_iff.1 h
    obtain ⟨-, rfl⟩ := Prod.mk.inj (Option.some.inj h)
    exact ⟨items, n, item, rfl, hn, hitem, .inl ⟨rfl, rfl⟩⟩
  · rename_i hpath
    cases hpath
  · rename_i items i' rest' hrest hpath
    obtain ⟨hi, rfl⟩ := List.cons.inj hpath
    obtain rfl := Segment.index.inj hi
    obtain ⟨n, hn, h⟩ := Option.bind_eq_some_iff.1 h
    obtain ⟨item, hitem, h⟩ := Option.bind_eq_some_iff.1 h
    obtain ⟨⟨old', child'⟩, hchild', h⟩ := Option.bind_eq_some_iff.1 h
    obtain ⟨rfl, rfl⟩ := Prod.mk.inj (Option.some.inj h)
    exact ⟨items, n, item, rfl, hn, hitem, .inr ⟨child', hchild', rfl⟩⟩
  · cases h

/-! ### Reading what was written -/

/-- A write returns what was at its place. -/
theorem eq_get?_of_storeFrom (h : storeFrom new before current path = .ok (old, root')) :
    old = current.get? path := by
  induction path generalizing before current old root' with
  | nil =>
    obtain ⟨rfl, -⟩ : some current = old ∧ new = root' := by simpa [storeFrom] using h
    exact (get?_nil current).symm
  | cons segment rest ih =>
    cases segment with
    | key k =>
      obtain ⟨fields, old', child, hopens, hchild, -, rfl⟩ := storeFrom_key h
      rw [hopens.get?]
      split
      · rename_i hrest
        subst hrest
        cases Fields.get? k fields <;> simp
      · rename_i hrest
        rw [ih hchild, get?_getD_null hrest]
    | index i =>
      obtain ⟨items, n, child, rfl, hn, hchild, -⟩ := storeFrom_index h
      have hlt : n < items.length := resolveIndex_lt hn
      have hitem : items[n]? = some items[n] := List.getElem?_eq_getElem hlt
      rw [get?_array hn, ih hchild, List.getD_eq_getElem?_getD, hitem, Option.getD_some, Option.bind_some]

theorem get?_of_storeFrom (h : storeFrom new before current path = .ok (old, root')) :
    root'.get? path = some new := by
  induction path generalizing before current old root' with
  | nil =>
    obtain ⟨-, rfl⟩ : some current = old ∧ new = root' := by simpa [storeFrom] using h
    exact get?_nil new
  | cons segment rest ih =>
    cases segment with
    | key k =>
      obtain ⟨fields, old', child, -, hchild, rfl, -⟩ := storeFrom_key h
      simpa using ih hchild
    | index i =>
      obtain ⟨items, n, child, -, hn, hchild, rfl⟩ := storeFrom_index h
      simpa [get?, hn, resolveIndex_lt hn] using ih hchild

/-- A write that is not refused is made. -/
theorem storeFrom_of_insert (h : root.insert path new = .ok (old, root')) :
    storeFrom new [] root path = .ok (old, root') := by
  rw [insert] at h
  obtain ⟨-, -, h⟩ := bind_eq_ok.1 h
  exact h

/-- After a write, the new value is at its place. -/
theorem get?_of_insert {root new : Value} {path : Path} {old : Option Value} {root' : Value}
    (h : root.insert path new = .ok (old, root')) : root'.get? path = some new :=
  get?_of_storeFrom (storeFrom_of_insert h)

end Value

end Reshape
