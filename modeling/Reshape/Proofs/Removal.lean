/-
What a removal takes away.

A removal walks its path as a read does and creates nothing on the way.  Where it ends, a field or an item is taken
out of the value that it is in, and what is left of that value is written back in its place: but for its last segment,
a removal is a write (`removeFrom_append`), and what writes leave alone removals leave alone.

* `Value.map_fst_removeFrom` — what is taken out is what was read;
* `Value.remove_takesOut` — what a removal returns, takes away and leaves alone.
-/
import Reshape.Proofs.Addressing

namespace Reshape

namespace Value

variable {new current root root' v : Value} {before rest p q : Path} {s : Segment} {k : String} {i : Int64}

/-! ### Removals as writes -/

/-- A write goes on in a child that is there: what is written there is put back in its place. -/
theorem storeFrom_cons_of_some {child child' : Value} (hchild : current.get? [s] = some child)
    (hrest : storeFrom new (before ++ [s]) child rest = .ok (some v, child'))
    (hlast : storeFrom child' before current [s] = .ok (some child, root')) :
    storeFrom new before current (s :: rest) = .ok (some v, root') := by
  cases s with
  | key k =>
    obtain ⟨fields, old', child'', hopens, hput, rfl, -⟩ := storeFrom_key hlast
    obtain rfl : child' = child'' := (Prod.mk.inj (Except.ok.inj hput)).2
    have hfield : Fields.get? k fields = some child := by simpa [hopens.get?] using hchild
    rw [hopens.storeFrom_eq]
    split
    · rename_i hnil
      obtain rfl := List.isEmpty_iff.1 hnil
      obtain ⟨hv, rfl⟩ := Prod.mk.inj (Except.ok.inj hrest)
      rw [hfield, hv]
    · rw [hfield, Option.getD_some, hrest]
      rfl
  | index i =>
    obtain ⟨items, n, child'', rfl, hn, hput, rfl⟩ := storeFrom_index hlast
    obtain rfl : child' = child'' := (Prod.mk.inj (Except.ok.inj hput)).2
    have hitem : items.getD n null = child := (Option.some.inj (Prod.mk.inj (Except.ok.inj hput)).1)
    unfold storeFrom
    simp only [hn, hitem, hrest]
    rfl

/-- A removal below a segment goes on in the child there and puts back what is left of it. -/
theorem removeFrom_cons {v : Value} (hrest : rest ≠ [])
    (h : removeFrom current (s :: rest) = some (v, root')) (before : Path) :
    ∃ child child', current.get? [s] = some child ∧ removeFrom child rest = some (v, child') ∧
      storeFrom child' before current [s] = .ok (some child, root') := by
  cases s with
  | key k =>
    obtain ⟨fields, child, rfl, hchild, ⟨hnil, -⟩ | ⟨child', hchild', rfl⟩⟩ := removeFrom_key h
    · exact absurd hnil hrest
    · refine ⟨child, child', by simp [hchild], hchild', ?_⟩
      rw [Opens.storeFrom_eq (.inl rfl), hchild]
      rfl
  | index i =>
    obtain ⟨items, n, child, rfl, hn, hchild, ⟨hnil, -⟩ | ⟨child', hchild', rfl⟩⟩ := removeFrom_index h
    · exact absurd hnil hrest
    · refine ⟨child, child', by simp [get?_array hn, hchild], hchild', ?_⟩
      unfold storeFrom
      simp only [hn, List.getD_eq_getElem?_getD, hchild]
      rfl

/-- A removal at the end of a path is a write: what is left of the value that the place is in is put in its place. -/
theorem removeFrom_append {v : Value} (h : removeFrom current (q ++ [s]) = some (v, root')) (before : Path) :
    ∃ parent parent', current.get? q = some parent ∧ removeFrom parent [s] = some (v, parent') ∧
      storeFrom parent' before current q = .ok (some parent, root') := by
  induction q generalizing current root' before with
  | nil => exact ⟨current, root', get?_nil current, h, rfl⟩
  | cons t q ih =>
    obtain ⟨child, child', hchild, hremove, hstore⟩ := removeFrom_cons (by simp) h before
    obtain ⟨parent, parent', hparent, hlast, hbelow⟩ := ih hremove (before ++ [t])
    refine ⟨parent, parent', ?_, hlast, storeFrom_cons_of_some hchild hbelow hstore⟩
    rw [get?_cons, hchild]
    exact hparent

@[simp] theorem removeFrom_nil (v : Value) : removeFrom v [] = none := by
  cases v <;> rfl

/-- What a removal takes out is what was read at its place, there or not. -/
theorem map_fst_removeFrom (hp : p ≠ []) (v : Value) : (removeFrom v p).map Prod.fst = v.get? p := by
  fun_induction removeFrom v p with
  | case1 fields k =>
    rw [get?_object]
    cases Fields.get? k fields <;> simp
  | case2 items i =>
    cases hi : resolveIndex i items.length with
    | none => simp [get?, hi]
    | some n =>
      rw [get?_array hi]
      cases hitem : items[n]? <;> simp [hitem]
  | case3 fields k rest hrest ih =>
    rw [get?_object]
    cases Fields.get? k fields with
    | none => rfl
    | some child =>
      rw [Option.bind_some, ← ih child hrest]
      cases hchild : removeFrom child rest <;> simp [hchild]
  | case4 items i rest hrest ih =>
    cases hi : resolveIndex i items.length with
    | none => simp [get?, hi]
    | some n =>
      rw [get?_array hi]
      cases hitem : items[n]? with
      | none => simp [hitem]
      | some child =>
        rw [Option.bind_some, ← ih child hrest]
        cases hchild : removeFrom child rest <;> simp [hitem, hchild]
  | case5 p v _ _ hkeys hindexes =>
    -- neither a name in an object nor a position in an array
    obtain ⟨s, rest, rfl⟩ := List.exists_cons_of_ne_nil hp
    cases s with
    | key k =>
      cases v with
      | object fields => exact absurd rfl (hkeys fields k rest rfl)
      | _ => rfl
    | index i =>
      cases v with
      | array items => exact absurd rfl (hindexes items i rest rfl)
      | _ => rfl

/-! ### What is read afterwards -/

/-- The place of a name that is removed is gone, and what is read along another way is as before. -/
theorem get?_of_removeFrom_key {v : Value} (h : removeFrom root (q ++ [.key k]) = some (v, root')) :
    root'.get? (q ++ [.key k]) = none ∧ ∀ r, root.Diverges (q ++ [.key k]) r → root'.get? r = root.get? r := by
  obtain ⟨parent, parent', hparent, hlast, hstore⟩ := removeFrom_append h []
  obtain ⟨fields, child, rfl, -, ⟨-, rfl⟩ | ⟨child', hchild', -⟩⟩ := removeFrom_key hlast
  · refine ⟨by simp [get?_append, get?_of_storeFrom hstore], fun r hr => ?_⟩
    rw [Diverges, Within, Within, slots_append, hparent] at hr
    by_cases hwithin : root.Within q r
    · -- the path goes on from the object by another name
      obtain ⟨r₁, r₂, rfl, hslots⟩ := exists_of_within hwithin
      have hr₁ : root.get? r₁ = some (object fields) := (get?_of_slots_eq hslots).trans hparent
      rw [get?_append, get?_append, hr₁, get?_of_storeFrom_of_slots_eq hstore hslots]
      rw [slots_append, hslots, hr₁, List.prefix_append_right_inj, List.prefix_append_right_inj] at hr
      cases r₂ with
      | nil => exact absurd List.nil_prefix hr.2
      | cons t r₃ =>
        cases t with
        | index j => rfl
        | key k' =>
          have hk : k' ≠ k := by
            rintro rfl
            exact hr.1 (by simp [slots])
          rw [Option.bind_some, Option.bind_some, get?_object, get?_object, Fields.get?_erase_of_ne hk]
    · refine get?_of_storeFrom_of_diverges hstore ⟨hwithin, fun hrq => hr.2 (hrq.trans ?_)⟩
      exact List.prefix_append _ _
  · simp at hchild'

/-- Behind the item that is removed the others move up, and what is read along another way than to the array is as
before. -/
theorem get?_of_removeFrom_index {v : Value} (h : removeFrom root (q ++ [.index i]) = some (v, root')) :
    ∃ items n, root.get? q = some (array items) ∧ resolveIndex i items.length = some n ∧
      root'.get? q = some (array (items.eraseIdx n)) ∧ ∀ r, root.Diverges q r → root'.get? r = root.get? r := by
  obtain ⟨parent, parent', hparent, hlast, hstore⟩ := removeFrom_append h []
  obtain ⟨items, n, item, rfl, hn, -, ⟨-, rfl⟩ | ⟨child', hchild', -⟩⟩ := removeFrom_index hlast
  · exact ⟨items, n, hparent, hn, get?_of_storeFrom hstore, fun r hr => get?_of_storeFrom_of_diverges hstore hr⟩
  · simp at hchild'

/-- A path to a value that is there, and a removal there. -/
theorem exists_of_remove (hp : p ≠ []) (h : (root.get? p).isSome = true) :
    ∃ v, removeFrom root p = some (v, (root.remove p).2) := by
  rw [← map_fst_removeFrom hp, Option.isSome_map] at h
  obtain ⟨⟨v, root'⟩, hremove⟩ := Option.isSome_iff_exists.1 h
  exact ⟨v, by rw [remove, if_neg (by simpa using hp), hremove]⟩

theorem remove_fst (root : Value) (p : Path) : (root.remove p).1 = root.get? p := by
  by_cases hp : p = []
  · subst hp
    exact (get?_nil root).symm
  · rw [← map_fst_removeFrom hp, remove, if_neg (by simpa using hp)]
    cases removeFrom root p <;> rfl

/-- Nothing is created where nothing is removed. -/
theorem remove_of_get?_eq_none (h : root.get? p = none) : root.remove p = (none, root) := by
  have hp : p ≠ [] := by
    rintro rfl
    simp at h
  rw [← map_fst_removeFrom hp, Option.map_eq_none_iff] at h
  rw [remove, if_neg (by simpa using hp), h]

/-- A removal returns what was read at its place, and changes nothing if that is nothing; the root leaves an empty
object.  Behind a name that is removed nothing is read any more, and along every path that goes another way the same
as before.  An item that is removed makes its array shorter by one: the items before it stay, those behind it move up,
and along every path that goes another way than to the array the same is read as before. -/
theorem remove_takesOut (root : Value) (p : Path) :
    (root.remove p).1 = root.get? p ∧
      (root.get? p = none → (root.remove p).2 = root) ∧
      (p = [] → (root.remove p).2 = emptyObject) ∧
      (∀ q k, p = q ++ [.key k] → (root.get? p).isSome = true →
        (root.remove p).2.get? p = none ∧ ∀ r, root.Diverges p r → (root.remove p).2.get? r = root.get? r) ∧
      ∀ q i, p = q ++ [.index i] → (root.get? p).isSome = true →
        ∃ items n items', root.get? q = some (array items) ∧ resolveIndex i items.length = some n ∧
          (root.remove p).2.get? q = some (array items') ∧ items'.length + 1 = items.length ∧
            (∀ j, items'[j]? = if j < n then items[j]? else items[j + 1]?) ∧
              ∀ r, root.Diverges q r → (root.remove p).2.get? r = root.get? r := by
  refine ⟨remove_fst root p, fun h => by rw [remove_of_get?_eq_none h], ?_, ?_, ?_⟩
  · rintro rfl
    rfl
  · rintro q k rfl hsome
    obtain ⟨v, hremove⟩ := exists_of_remove (by simp) hsome
    exact get?_of_removeFrom_key hremove
  · rintro q i rfl hsome
    obtain ⟨v, hremove⟩ := exists_of_remove (by simp) hsome
    obtain ⟨items, n, hitems, hn, hleft, hother⟩ := get?_of_removeFrom_index hremove
    have hlt : n < items.length := resolveIndex_lt hn
    refine ⟨items, n, items.eraseIdx n, hitems, hn, hleft, ?_, fun j => List.getElem?_eraseIdx .., hother⟩
    rw [List.length_eraseIdx_of_lt hlt]
    omega

/-- The second of three items, counted from the end: the third moves up, and nothing else changes. -/
theorem remove_takesOut_item :
    let root : Value := object [("a", array [integer 1, null, integer 3]), ("b", null)]
    let p : Path := [.key "a", .index (-2)]
    (root.remove p).1 = some null ∧
      ∃ items', (root.remove p).2.get? [.key "a"] = some (array items') ∧ items'[1]? = some (integer 3) ∧
        (root.remove p).2.get? [.key "b"] = some null := by
  intro root p
  obtain ⟨hfst, -, -, -, hindex⟩ := remove_takesOut root p
  obtain ⟨items, n, items', hitems, hn, hleft, -, hmoved, hother⟩ := hindex [.key "a"] (-2) rfl rfl
  obtain rfl : items = [integer 1, null, integer 3] := by simpa [root, get?, Fields.get?] using hitems.symm
  obtain rfl : n = 1 := by simpa using hn.symm.trans (show resolveIndex (-2) 3 = some 1 by decide)
  exact ⟨hfst.trans rfl, items', hleft, hmoved 1, hother [.key "b"] (by decide)⟩

end Value

end Reshape
