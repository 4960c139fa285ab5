/-
The event of a run.

A run starts on an object.  Only an object is written in place of the event itself, and where the event is
removed an empty object is left, so whatever a step does, it `KeepsObject`s.

* `Value.kind_of_insert`, `Value.kind_remove` — writes and removals below the root;
* `Node.eval_keepsObject` — every node keeps the event an object, also one that faults;
* `Program.run_event` — so does every run;
* `Program.run_root` — the event of a run at every point of it, and events that are no objects.
-/
import Reshape.Function.Standard
import Reshape.Proofs.Coupling
import Reshape.Proofs.Place
import Reshape.Proofs.Resolution

namespace Reshape

namespace Value

theorem kind_eq_object {v : Value} : v.kind = .object ↔ ∃ fields, v = object fields := by
  cases v with
  | object fields => exact ⟨fun _ => ⟨fields, rfl⟩, fun _ => rfl⟩
  | _ => simp [kind]

theorem kind_of_insert {root new root' : Value} {path : Path} {old : Option Value} (hroot : root.kind = .object)
    (hnew : path = [] → new.kind = .object) (h : root.insert path new = .ok (old, root')) :
    root'.kind = .object := by
  obtain ⟨fields, rfl⟩ := kind_eq_object.1 hroot
  obtain ⟨-, -, h⟩ := bind_eq_ok.1 h
  cases path with
  | nil =>
    obtain ⟨-, rfl⟩ : some (object fields) = old ∧ new = root' := by simpa [storeFrom] using h
    exact hnew rfl
  | cons segment rest =>
    cases segment with
    | index i => cases h
    | key k =>
      obtain ⟨fields', old', child, -, -, rfl, -⟩ := storeFrom_key h
      rfl

theorem kind_of_removeFrom {fields : List (String × Value)} {path : Path} {old root' : Value}
    (h : removeFrom (object fields) path = some (old, root')) : root'.kind = .object := by
  cases path with
  | nil => cases h
  | cons segment rest =>
    cases segment with
    | key k =>
      obtain ⟨fields', child, -, -, ⟨-, rfl⟩ | ⟨child', -, rfl⟩⟩ := removeFrom_key h
      · rfl
      · rfl
    | index i =>
      obtain ⟨items, n, item, hroot, -⟩ := removeFrom_index h
      cases hroot

theorem kind_remove {root : Value} (hroot : root.kind = .object) (path : Path) :
    (root.remove path).2.kind = .object := by
  obtain ⟨fields, rfl⟩ := kind_eq_object.1 hroot
  unfold remove
  split
  · rfl
  · split
    · rename_i h
      exact kind_of_removeFrom h
    · rfl

end Value

/-! ### Steps -/

namespace Run

variable {α : Type}

/-- Whatever the step does, an event that is an object stays one. -/
def KeepsObject (x : Run α) : Prop :=
  ∀ event : Value, event.kind = .object → (x.on event).2.kind = .object

theorem keepsObject_write (p : Path) (v : Value) (span : Span) : KeepsObject (write p v span) :=
  keeps_write (fun _ _ _ hinsert hroot h => Value.kind_of_insert h hroot hinsert) span

end Run

/-! ### Nodes and programs -/

/-- Every node keeps the event an object. -/
theorem Node.eval_keepsObject (s : Surroundings) (n : Node) : Run.KeepsObject (n.eval s) :=
  eval_keeps (fun _ _ t _ v span => Run.keepsObject_write t v span) fun _ _ t _ _ h => Value.kind_remove h t

namespace Program

/-- A run on an object ends on an object, also if it faults. -/
theorem run_event (p : Program) (s : Surroundings) {event : Value} (h : event.kind = .object) :
    (p.run s event).event.kind = .object := by
  rw [p.run_of_object s h]
  exact Node.evalBody_keeps (fun n _ => n.eval_keepsObject s) .null event h

theorem Reaches.kind {p : Program} {s : Surroundings} {event : Value} {m : Node} {event' : Value}
    (hreach : p.Reaches s event m event') (h : event.kind = .object) : event'.kind = .object := by
  obtain ⟨before, n, after, v, event₁, -, hbefore, hreach⟩ := hreach
  have hkeeps : ∀ n : Node, Run.Keeps (·.kind = .object) (n.eval s) := fun n => n.eval_keepsObject s
  have hevent₁ : event₁.kind = .object :=
    (Node.evalBody_keeps (fun n _ => hkeeps n) .null).of_on hbefore h
  exact hreach.keeps hkeeps hevent₁

/-- On an object, the event is an object before and after every node that the run evaluates, and after the run,
whether it faults or not.  An event that is no object is refused and left as it is. -/
theorem run_root (p : Program) (s : Surroundings) (event : Value) :
    (event.kind = .object →
      (∀ n event₁, p.Reaches s event n event₁ →
        event₁.kind = .object ∧ ((n.eval s).on event₁).2.kind = .object) ∧
      (p.run s event).event.kind = .object) ∧
    (event.kind ≠ .object →
      p.run s event =
        ⟨.error ⟨.invalidArgument s!"event root must be an object, got {event.kind.name}", none⟩, event⟩) := by
  constructor
  · intro h
    refine ⟨fun n event₁ hreach => ?_, p.run_event s h⟩
    have hevent₁ := hreach.kind h
    exact ⟨hevent₁, n.eval_keepsObject s event₁ hevent₁⟩
  · intro h
    rw [run, if_neg h]

/-- The root is removed, replaced by an object, and left alone where a number would replace it. -/
theorem run_root_replaced :
    ∃ p s fault, compile Library.standard ". = \x7b\"a\": del(.)\x7d\n., .e = to_int(\"5\")" = .ok p ∧
      (p.run s (.object [("m", .null)])).result = .error fault ∧ fault.kind = .typeMismatch ∧
      (p.run s (.object [("m", .null)])).event.kind = .object ∧
      p.run s (.array []) = ⟨.error ⟨.invalidArgument "event root must be an object, got array", none⟩, .array []⟩ := by
  let s : Surroundings := ⟨.fixed "UTC" 0, ⟨0, 0, 0⟩, 0⟩
  let event : Value := .object [("m", .null)]
  have hrun : (compile Library.standard ". = \x7b\"a\": del(.)\x7d\n., .e = to_int(\"5\")").toOption.map
      (fun p => ((p.run s event).result.mapError Fault.kind).map fun _ => ()) =
        some (.error .typeMismatch) := by
    decide +kernel
  obtain ⟨p, hp, hresult⟩ := exists_of_compile hrun
  rcases hr : (p.run s event).result with fault | v
  · have hkind : fault.kind = .typeMismatch := by
      simpa [hr, Except.mapError, Except.map] using hresult
    exact ⟨p, s, fault, hp, hr, hkind, ((run_root p s event).1 rfl).2, (run_root p s (.array [])).2 (by decide)⟩
  · simp [hr, Except.mapError, Except.map] at hresult

end Program

end Reshape
