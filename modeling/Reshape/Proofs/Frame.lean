/-
What a run leaves alone.

Two paths are `Apart` if neither leads on from the other.  A write makes the objects that are missing on its way,
turns null into an object and may move the items of an array, but whatever can be reached by names alone and is
apart from its target is as before: the two paths part at some segment, and there the write goes another way.

* `Value.get?_of_insert_of_apart`, `Value.get?_remove_of_apart` — a write and a removal, read apart from them;
* `Program.run_get?_of_apart` — a run, read apart from all its targets.
-/
import Mathlib.Data.List.Infix
import Reshape.Function.Standard
import Reshape.Proofs.Addressing
import Reshape.Proofs.Coupling
import Reshape.Proofs.Resolution

namespace Reshape

namespace Path

/-- The path through fields with these names. -/
def ofNames (names : List String) : Path :=
  names.map .key

/-- Neither path leads on from the other, so that they differ at some position. -/
def Apart (p q : Path) : Prop :=
  ¬ p <+: q ∧ ¬ q <+: p

instance (p q : Path) : Decidable (Apart p q) :=
  inferInstanceAs (Decidable (¬ p <+: q ∧ ¬ q <+: p))

variable {p q : Path}

theorem not_apart_nil_left : ¬ Apart [] q :=
  fun h => h.1 List.nil_prefix

theorem not_apart_nil_right : ¬ Apart p [] :=
  fun h => h.2 List.nil_prefix

/-- Behind a common first segment. -/
theorem apart_cons_self {segment : Segment} : Apart (segment :: p) (segment :: q) ↔ Apart p q := by
  simp [Apart, List.cons_prefix_cons]

end Path

namespace Value

open Reshape.Path

variable {names : List String} {target : Path} {new current root' : Value} {old : Option Value}

/-- Names mean the same everywhere, so that paths which are apart go different ways. -/
theorem diverges_of_apart (h : Apart (ofNames names) target) (v : Value) :
    v.Diverges target (ofNames names) := by
  induction target generalizing names v with
  | nil => exact absurd h not_apart_nil_right
  | cons segment rest ih =>
    cases names with
    | nil => exact absurd h not_apart_nil_left
    | cons name names =>
      show v.Diverges (segment :: rest) (.key name :: ofNames names)
      by_cases hsegment : .key name = segment
      · subst hsegment
        exact (diverges_cons rfl).2 (ih (apart_cons_self.1 h) _)
      · exact diverges_of_slot?_ne fun hslot => hsegment (slot?_key_eq_iff.1 hslot.symm)

/-- A write does not change what is read apart from it. -/
theorem get?_of_insert_of_apart {root : Value} (h : Apart (ofNames names) target)
    (hinsert : root.insert target new = .ok (old, root')) :
    root'.get? (ofNames names) = root.get? (ofNames names) :=
  get?_of_storeFrom_of_diverges (storeFrom_of_insert hinsert) (diverges_of_apart h root)

theorem get?_of_removeFrom_of_apart {v : Value} (h : Apart (ofNames names) target)
    (hremove : removeFrom current target = some (v, root')) :
    root'.get? (ofNames names) = current.get? (ofNames names) := by
  induction target generalizing names current root' with
  | nil => exact absurd h not_apart_nil_right
  | cons segment rest ih =>
    cases names with
    | nil => exact absurd h not_apart_nil_left
    | cons name names =>
      show root'.get? (.key name :: ofNames names) = current.get? (.key name :: ofNames names)
      cases segment with
      | index i =>
        obtain ⟨items, n, item, rfl, -, -, ⟨-, rfl⟩ | ⟨child', -, rfl⟩⟩ := removeFrom_index hremove
        · rfl
        · rfl
      | key k =>
        obtain ⟨fields, child, rfl, hchild, hroot⟩ := removeFrom_key hremove
        rw [get?_object]
        by_cases hk : name = k
        · subst hk
          have hrest : Apart (ofNames names) rest := apart_cons_self.1 h
          rcases hroot with ⟨rfl, -⟩ | ⟨child', hchild', rfl⟩
          -- a field that is removed itself would be on the way to what is read
          · exact absurd hrest not_apart_nil_right
          · rw [get?_object, Fields.get?_insert_self, hchild, Option.bind_some, Option.bind_some,
              ih hrest hchild']
        · rcases hroot with ⟨-, rfl⟩ | ⟨child', -, rfl⟩
          · rw [get?_object, Fields.get?_erase_of_ne hk]
          · rw [get?_object, Fields.get?_insert_of_ne hk]

/-- A removal does not change what is read apart from it. -/
theorem get?_remove_of_apart (h : Apart (ofNames names) target) (root : Value) :
    (root.remove target).2.get? (ofNames names) = root.get? (ofNames names) := by
  cases target with
  | nil => exact absurd h not_apart_nil_right
  | cons segment rest =>
    rw [remove, if_neg (by simp)]
    split
    · rename_i v root' hremove
      exact get?_of_removeFrom_of_apart h hremove
    · rfl

end Value

namespace Program

/-- Apart from the places that the program assigns to or removes, whatever names lead to is after the run what it
was before, there or not, whether the run ends well or faults on the way. -/
theorem run_get?_of_apart (p : Program) (s : Surroundings) (event : Value) (names : List String)
    (h : ∀ t ∈ p.targets, Path.Apart (.ofNames names) t) :
    (p.run s event).event.get? (.ofNames names) = event.get? (.ofNames names) := by
  by_cases hobj : event.kind = .object
  · have hapart : ∀ n ∈ p.statements, ∀ m ∈ n.parts, ∀ t ∈ m.ownTargets, Path.Apart (.ofNames names) t :=
      fun n hn m hm t ht => h t (List.mem_flatMap.2 ⟨m, Node.mem_partsAll.2 ⟨n, hn, hm⟩, ht⟩)
    have hkeeps : ∀ n ∈ p.statements,
        Run.Keeps (fun e => e.get? (.ofNames names) = event.get? (.ofNames names)) (n.eval s) := by
      intro n hn
      refine Node.eval_keeps (fun m hm t ht v span => ?_) fun m hm t ht e he => ?_
      · exact Run.keeps_write (fun e old e' hinsert _ he =>
          (Value.get?_of_insert_of_apart (hapart n hn m hm t ht) hinsert).trans he) span
      · exact (Value.get?_remove_of_apart (hapart n hn m hm t ht) e).trans he
    rw [p.run_of_object s hobj]
    exact Node.evalBody_keeps hkeeps .null event rfl
  · rw [run, if_neg hobj]

/-- Null becomes an object, an item leaves its array, and then the run faults: there still is nothing at `.n.y`. -/
theorem run_get?_of_apart_null :
    let s : Surroundings := ⟨.fixed "UTC" 0, ⟨0, 0, 0⟩, 0⟩
    let event : Value := .object [("l", .array [.integer 1, .null]), ("m", .string "x"), ("n", .null)]
    ∃ p, compile Library.standard ".n.x = del(.l[0])\n.z = to_int!(.m)" = .ok p ∧
      (∀ t ∈ p.targets, Path.Apart (.ofNames ["n", "y"]) t) ∧
        (p.run s event).result.toBool = false ∧ (p.run s event).event.get? (.ofNames ["n", "y"]) = none := by
  intro s event
  have hrun : (compile Library.standard ".n.x = del(.l[0])\n.z = to_int!(.m)").toOption.map
      (fun p => (p.targets, (p.run s event).result.toBool)) =
        some ([[.key "n", .key "x"], [.key "l", .index 0], [.key "z"]], false) := by
    decide +kernel
  obtain ⟨p, hp, hread⟩ := exists_of_compile hrun
  obtain ⟨htargets, hfault⟩ := Prod.mk.inj hread
  have hapart : ∀ t ∈ p.targets, Path.Apart (.ofNames ["n", "y"]) t := by
    rw [htargets]
    decide
  exact ⟨p, hp, hapart, hfault, (run_get?_of_apart p s event ["n", "y"] hapart).trans rfl⟩

end Program

end Reshape
