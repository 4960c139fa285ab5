/-
Values without what is empty in them.

A container that holds nothing but empty values is empty once they are gone, and goes with them.  What goes has no
leaves: scalars that say something, each with the names of the fields that lead to it.  So all leaves stay, in their
order, and nothing is left for a second time.

* `Value.not_isEmpty_of_inside_compact` — nothing empty is left, at any depth;
* `Value.leaves_compact`, `Value.thinned_compact` — what stays, and in which order;
* `Value.compact_eq_self` — a value with nothing empty in it stays as it is;
* `Function.compact_call` — the function.
-/
import Mathlib.Data.List.Forall2
import Reshape.Function.Call
import Reshape.Function.Collection

namespace Reshape

namespace Value

/-! ### What is in a value -/

/-- The items of an array and the values of the fields of an object. -/
def children : Value → List Value
  | array items => items
  | object fields => fields.map (·.2)
  | _ => []

/-- The value is in the other, at any depth. -/
inductive Inside (u : Value) : Value → Prop
  | child {v} : u ∈ v.children → Inside u v
  | deeper {v w} : w ∈ v.children → Inside u w → Inside u v

mutual

/-- The scalars of a value in their order, each with the names of the fields that lead to it.  Null and the empty
string are none. -/
def leaves : Value → List (List String × Value)
  | null => []
  | string s => if s = "" then [] else [([], string s)]
  | array items => leavesItems items
  | object fields => leavesFields fields
  | other => [([], other)]

def leavesItems : List Value → List (List String × Value)
  | [] => []
  | v :: rest => leaves v ++ leavesItems rest

def leavesFields : List (String × Value) → List (List String × Value)
  | [] => []
  | (k, v) :: rest => (leaves v).map (fun (names, leaf) => (k :: names, leaf)) ++ leavesFields rest

end

/-- The second value is the first without some of the items and fields in it, at any depth.  What stays keeps its
order, and fields keep their names. -/
inductive Thinned : Value → Value → Prop
  | same (v : Value) : Thinned v v
  | array {items chosen kept} : List.Sublist chosen items → List.Forall₂ Thinned chosen kept →
      Thinned (array items) (array kept)
  | object {fields chosen kept} : List.Sublist chosen fields → chosen.map (·.1) = kept.map (·.1) →
      List.Forall₂ Thinned (chosen.map (·.2)) (kept.map (·.2)) → Thinned (object fields) (object kept)

variable {u v w : Value}

theorem isEmpty_iff : v.isEmpty = true ↔ v ∈ [null, string "", array [], object []] := by
  cases v <;> simp [isEmpty, String.isEmpty_iff]

theorem leavesItems_eq (items : List Value) : leavesItems items = items.flatMap leaves := by
  induction items with
  | nil => rfl
  | cons v rest ih => rw [leavesItems, List.flatMap_cons, ih]

theorem leavesFields_eq (fields : List (String × Value)) :
    leavesFields fields = fields.flatMap fun f => f.2.leaves.map fun (names, leaf) => (f.1 :: names, leaf) := by
  induction fields with
  | nil => rfl
  | cons f rest ih => rw [leavesFields, List.flatMap_cons, ih]

theorem leaves_of_isEmpty (h : v.isEmpty = true) : v.leaves = [] := by
  have hv := isEmpty_iff.1 h
  simp only [List.mem_cons, List.not_mem_nil, or_false] at hv
  rcases hv with rfl | rfl | rfl | rfl <;> rfl

/-! ### What is left -/

theorem IsScalar.compact (h : v.IsScalar) : v.compact = v := by
  cases v with
  | array items => exact absurd rfl h.1
  | object fields => exact absurd rfl h.2
  | _ => rfl

theorem compactItems_eq (items : List Value) :
    compactItems items = (items.filter fun v => !v.compact.isEmpty).map compact := by
  induction items with
  | nil => rfl
  | cons v rest ih =>
    rw [compactItems, List.filter_cons, ih]
    cases v.compact.isEmpty <;> rfl

theorem compactFields_eq (fields : List (String × Value)) :
    compactFields fields = (fields.filter fun f => !f.2.compact.isEmpty).map fun f => (f.1, f.2.compact) := by
  induction fields with
  | nil => rfl
  | cons f rest ih =>
    rw [compactFields, List.filter_cons, ih]
    cases f.2.compact.isEmpty <;> rfl

/-- What is left in a value comes from something in it, and is not empty. -/
theorem mem_children_compact (h : w ∈ v.compact.children) :
    ∃ u ∈ v.children, w = u.compact ∧ w.isEmpty = false := by
  cases v with
  | array items =>
    rw [compact, children, compactItems_eq, List.mem_map] at h
    obtain ⟨u, hu, rfl⟩ := h
    rw [List.mem_filter, Bool.not_eq_true'] at hu
    exact ⟨u, hu.1, rfl, hu.2⟩
  | object fields =>
    rw [compact, children, compactFields_eq, List.map_map, List.mem_map] at h
    obtain ⟨f, hf, rfl⟩ := h
    rw [List.mem_filter, Bool.not_eq_true'] at hf
    exact ⟨f.2, List.mem_map_of_mem hf.1, rfl, hf.2⟩
  | _ => cases h

/-- Nothing empty is left. -/
theorem not_isEmpty_of_inside_compact (h : u.Inside v.compact) : u.isEmpty = false := by
  generalize hw : v.compact = w at h
  induction h generalizing v with
  | child hu =>
    obtain ⟨-, -, -, hempty⟩ := mem_children_compact (hw ▸ hu)
    exact hempty
  | deeper hc _ ih =>
    obtain ⟨c, -, rfl, -⟩ := mem_children_compact (hw ▸ hc)
    exact ih rfl

theorem flatMap_filter_eq {α β : Type} {f : α → List β} {p : α → Bool} {xs : List α}
    (h : ∀ x ∈ xs, p x = false → f x = []) : (xs.filter p).flatMap f = xs.flatMap f := by
  induction xs with
  | nil => rfl
  | cons x xs ih =>
    rw [List.forall_mem_cons] at h
    rw [List.filter_cons, List.flatMap_cons, ← ih h.2]
    cases hx : p x with
    | true => rfl
    | false => rw [h.1 hx, List.nil_append]; rfl

/-- Every leaf is left. -/
theorem leaves_compact (v : Value) : v.compact.leaves = v.leaves := by
  have hempty : ∀ {v : Value}, v.compact.leaves = v.leaves → (!v.compact.isEmpty) = false → v.leaves = [] := by
    intro v hv h
    rw [← hv, leaves_of_isEmpty (by simpa using h)]
  induction v using inductionOn with
  | scalar v hv => rw [hv.compact]
  | array items ih =>
    have hgone : ∀ v ∈ items, (!v.compact.isEmpty) = false → v.leaves = [] := fun v hv => hempty (ih v hv)
    rw [compact, leaves, leaves, leavesItems_eq, leavesItems_eq, compactItems_eq, List.flatMap_map,
      ← flatMap_filter_eq hgone]
    exact List.flatMap_congr fun v hv => ih v (List.mem_of_mem_filter hv)
  | object fields ih =>
    have hgone : ∀ f ∈ fields, (!f.2.compact.isEmpty) = false →
        (f.2.leaves.map fun (names, leaf) => (f.1 :: names, leaf)) = [] := fun f hf h => by
      rw [hempty (ih f hf) h, List.map_nil]
    rw [compact, leaves, leaves, leavesFields_eq fields, leavesFields_eq, compactFields_eq, List.flatMap_map,
      ← flatMap_filter_eq hgone]
    exact List.flatMap_congr fun f hf => congrArg _ (ih f (List.mem_of_mem_filter hf))

/-- What is left is in its order. -/
theorem thinned_compact (v : Value) : v.Thinned v.compact := by
  induction v using inductionOn with
  | scalar v hv =>
    rw [hv.compact]
    exact .same v
  | array items ih =>
    have hkept : List.Forall₂ Thinned (items.filter fun v => !v.compact.isEmpty)
        ((items.filter fun v => !v.compact.isEmpty).map compact) := by
      rw [List.forall₂_map_right_iff, List.forall₂_same]
      exact fun v hv => ih v (List.mem_of_mem_filter hv)
    rw [compact, compactItems_eq]
    exact .array List.filter_sublist hkept
  | object fields ih =>
    have hkept : List.Forall₂ Thinned ((fields.filter fun f => !f.2.compact.isEmpty).map (·.2))
        (((fields.filter fun f => !f.2.compact.isEmpty).map fun f => (f.1, f.2.compact)).map (·.2)) := by
      rw [List.map_map, List.forall₂_map_left_iff, List.forall₂_map_right_iff, List.forall₂_same]
      exact fun f hf => ih f (List.mem_of_mem_filter hf)
    rw [compact, compactFields_eq]
    exact .object List.filter_sublist (by rw [List.map_map]; rfl) hkept

/-- A value with nothing empty in it stays as it is. -/
theorem compact_eq_self (h : ∀ u : Value, u.Inside v → u.isEmpty = false) : v.compact = v := by
  induction v using inductionOn with
  | scalar v hv => exact hv.compact
  | array items ih =>
    have hself : ∀ v ∈ items, v.compact = v := fun v hv => ih v hv fun u hu => h u (.deeper hv hu)
    rw [compact, compactItems_eq, List.filter_eq_self.2 fun v hv => ?_, List.map_congr_left hself, List.map_id']
    rw [hself v hv, h v (.child hv)]
    rfl
  | object fields ih =>
    have hmem : ∀ f ∈ fields, f.2 ∈ (object fields).children := fun f hf => List.mem_map_of_mem hf
    have hself : ∀ f ∈ fields, f.2.compact = f.2 := fun f hf => ih f hf fun u hu => h u (.deeper (hmem f hf) hu)
    have hfield : ∀ f ∈ fields, (f.1, f.2.compact) = f := fun f hf => Prod.ext rfl (hself f hf)
    rw [compact, compactFields_eq, List.filter_eq_self.2 fun f hf => ?_, List.map_congr_left hfield, List.map_id']
    rw [hself f hf, h f.2 (.child (hmem f hf))]
    rfl

theorem kind_compact (v : Value) : v.compact.kind = v.kind := by
  cases v <;> rfl

end Value

/-! ### The function -/

/-- What the function makes of an array or an object: nothing empty is left in it at any depth, every leaf is, and
what is left is in its order.  A second time changes nothing. -/
theorem Function.compact_call (s : Surroundings) (serial : Nat) (root : Value) {v : Value}
    (hv : v.kind = .array ∨ v.kind = .object) (place place' : Option Path) :
    ∃ w, compact.call s serial root [⟨v, true, place⟩] = (.ok w, root) ∧
      (∀ u : Value, u.Inside w → u ∉ [Value.null, .string "", .array [], .object []]) ∧
      w.leaves = v.leaves ∧ v.Thinned w ∧
      compact.call s serial root [⟨w, true, place'⟩] = (.ok w, root) := by
  have hcall : ∀ {v : Value} (place : Option Path), v.kind = .array ∨ v.kind = .object →
      compact.call s serial root [⟨v, true, place⟩] = (.ok v.compact, root) := by
    intro v place hv
    cases v with
    | array items | object fields => rfl
    | _ => simp [Value.kind] at hv
  have hleft : ∀ u : Value, u.Inside v.compact → u.isEmpty = false := fun u => Value.not_isEmpty_of_inside_compact
  have hagain : v.compact.compact = v.compact := Value.compact_eq_self hleft
  refine ⟨v.compact, hcall place hv, fun u hu hmem => ?_, v.leaves_compact, v.thinned_compact, ?_⟩
  · rw [← Value.isEmpty_iff, hleft u hu] at hmem
    cases hmem
  · rw [← v.kind_compact] at hv
    rw [hcall place' hv, hagain]

/-- Containers that are empty once their empty items are gone, one in the other. -/
theorem Function.compact_call_nested :
    let s : Surroundings := ⟨.fixed "UTC" 0, ⟨0, 0, 0⟩, 0⟩
    let v : Value := .object [("a", .array [.object [("b", .array [.null])], .string ""]),
      ("c", .array [.integer 1, .null, .object [("d", .boolean false), ("e", .object [])]]), ("f", .string "g")]
    v.kind = .object ∧
      ∃ w, compact.call s 0 .null [.ofValue v] = (.ok w, .null) ∧
        w.leaves = [(["c"], .integer 1), (["c", "d"], .boolean false), (["f"], .string "g")] ∧
        compact.call s 0 .null [.ofValue w] = (.ok w, .null) := by
  intro s v
  obtain ⟨w, hcall, -, hleaves, -, hagain⟩ := compact_call s 0 .null (v := v) (.inr rfl) none none
  exact ⟨rfl, w, hcall, hleaves, hagain⟩

end Reshape
