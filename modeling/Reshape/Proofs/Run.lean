/-
Steps of a run.

`Run.on` says what a step does to an event; `on_bind` and its two inversions take a sequence of steps apart.
Lists of nodes, entries and arguments are all evaluated by `List.mapM`, so that what holds of one evaluation
carries over to the lists (`evalItems_eq_mapM` and its like), and a fault in a list is the fault of one of
its members after those before it were evaluated (`mapM_on_error`).

* `Node.induct` — induction on nodes, with the claim for every node in the lists of a node.
-/
import Reshape.Proofs.Parts
import Reshape.Program.Run

namespace Reshape

namespace Run

variable {α β : Type}

/-- What a step does to an event. -/
def on (x : Run α) (event : Value) : Except Fault α × Value :=
  (ExceptT.run x).run event

@[simp] theorem on_pure (a : α) (event : Value) : (pure a : Run α).on event = (.ok a, event) := rfl

@[simp] theorem on_get (event : Value) : (get : Run Value).on event = (.ok event, event) := rfl

@[simp] theorem on_set (new event : Value) : (set new : Run PUnit).on event = (.ok ⟨⟩, new) := rfl

@[simp] theorem on_fault (cause : FaultCause) (span : Span) (event : Value) :
    (fault cause span : Run α).on event = (.error ⟨cause, some span⟩, event) := rfl

theorem on_bind (x : Run α) (f : α → Run β) (event : Value) :
    (x >>= f).on event =
      match x.on event with
      | (.ok a, event') => (f a).on event'
      | (.error e, event') => (.error e, event') := by
  simp only [on, ExceptT.run_bind, StateT.run_bind]
  rcases (ExceptT.run x).run event with ⟨e | a, event'⟩
  · rfl
  · rfl

@[simp] theorem on_map (f : α → β) (x : Run α) (event : Value) :
    (f <$> x).on event = ((x.on event).1.map f, (x.on event).2) := by
  rw [← bind_pure_comp, on_bind]
  rcases x.on event with ⟨e | a, event'⟩
  · rfl
  · rfl

/-- A sequence of two steps that ends well. -/
theorem on_bind_ok {x : Run α} {f : α → Run β} {event event' : Value} {b : β} :
    (x >>= f).on event = (.ok b, event') ↔
      ∃ a event₁, x.on event = (.ok a, event₁) ∧ (f a).on event₁ = (.ok b, event') := by
  rw [on_bind]
  rcases x.on event with ⟨e | a, event₁⟩
  · simp
  · simp

/-- A sequence of two steps that faults. -/
theorem on_bind_error {x : Run α} {f : α → Run β} {event event' : Value} {e : Fault} :
    (x >>= f).on event = (.error e, event') ↔
      x.on event = (.error e, event') ∨
        ∃ a event₁, x.on event = (.ok a, event₁) ∧ (f a).on event₁ = (.error e, event') := by
  rw [on_bind]
  rcases x.on event with ⟨e' | a, event₁⟩
  · simp
  · simp

/-- A list of steps that faults: one of them does, after those before it ended well. -/
theorem mapM_on_error {f : α → Run β} {e : Fault} {event' : Value} :
    ∀ {xs : List α} {event : Value}, (xs.mapM f).on event = (.error e, event') →
      ∃ before x after ys event₁, xs = before ++ x :: after ∧
        (before.mapM f).on event = (.ok ys, event₁) ∧ (f x).on event₁ = (.error e, event')
  | [], event, h => by simp at h
  | x :: rest, event, h => by
    rw [List.mapM_cons, on_bind_error] at h
    rcases h with h | ⟨y, event₁, hy, h⟩
    · exact ⟨[], x, rest, [], event, rfl, rfl, h⟩
    · rw [on_bind_error] at h
      rcases h with h | ⟨ys, event₂, -, h⟩
      · obtain ⟨before, x', after, ys, event₂, rfl, hbefore, hx'⟩ := mapM_on_error h
        refine ⟨x :: before, x', after, y :: ys, event₂, rfl, ?_, hx'⟩
        rw [List.mapM_cons, on_bind_ok]
        refine ⟨y, event₁, hy, on_bind_ok.2 ⟨ys, event₂, hbefore, rfl⟩⟩
      · simp at h

end Run

namespace Node

open Run

/-! ### Lists of nodes -/

theorem evalItems_eq_mapM (s : Surroundings) : ∀ items : List Node, evalItems s items = items.mapM (eval s)
  | [] => rfl
  | n :: rest => by rw [evalItems, List.mapM_cons, evalItems_eq_mapM s rest]

/-- One entry of an object. -/
def evalEntry (s : Surroundings) (entry : String × Node) : Run (String × Value) := do
  return (entry.1, ← eval s entry.2)

theorem evalEntries_eq_mapM (s : Surroundings) :
    ∀ entries : List (String × Node), evalEntries s entries = entries.mapM (evalEntry s)
  | [] => rfl
  | (k, n) :: rest => by
    rw [evalEntries, List.mapM_cons, evalEntries_eq_mapM s rest]
    simp [evalEntry]

/-- One argument of a call.  A place is read, whether a parameter or an expression asks for it. -/
def evalInput (s : Surroundings) : Input Node → Run Argument
  | .path p | .value (path _ p) => do return Argument.ofPlace p ((← get).get? p)
  | .value n => do return Argument.ofValue (← eval s n)

theorem evalInputs_eq_mapM (s : Surroundings) :
    ∀ inputs : List (Input Node), evalInputs s inputs = inputs.mapM (evalInput s)
  | [] => rfl
  | .path p :: rest => by
    rw [evalInputs, List.mapM_cons, evalInputs_eq_mapM s rest]
    simp [evalInput]
  | .value n :: rest => by
    rw [List.mapM_cons, ← evalInputs_eq_mapM s rest]
    cases n <;> simp [evalInputs, evalInput]

/-- An argument remembers the place that it is read from. -/
theorem place_of_evalInput {s : Surroundings} {input : Input Node} {event : Value} {a : Argument}
    {event' : Value} (h : (evalInput s input).on event = (.ok a, event')) : a.place = input.place? := by
  unfold evalInput at h
  split at h
  · obtain rfl : Argument.ofPlace _ _ = a := by simpa [Except.map] using congrArg Prod.fst h
    rfl
  · obtain rfl : Argument.ofPlace _ _ = a := by simpa [Except.map] using congrArg Prod.fst h
    rfl
  · rename_i n hn
    obtain ⟨v, event₁, -, h⟩ := on_bind_ok.1 h
    obtain rfl : Argument.ofValue v = a := by simpa using congrArg Prod.fst h
    cases n with
    | path span p => exact absurd rfl (hn span p)
    | _ => rfl

theorem places_of_evalInputs {s : Surroundings} {inputs : List (Input Node)} {event : Value}
    {args : Arguments} {event' : Value} (h : (evalInputs s inputs).on event = (.ok args, event')) :
    args.map (·.place) = inputs.map Input.place? := by
  rw [evalInputs_eq_mapM] at h
  induction inputs generalizing event args with
  | nil =>
    obtain rfl : [] = args := by simpa using congrArg Prod.fst h
    rfl
  | cons input rest ih =>
    rw [List.mapM_cons, on_bind_ok] at h
    obtain ⟨a, event₁, ha, h⟩ := h
    obtain ⟨others, event₂, hothers, h⟩ := on_bind_ok.1 h
    obtain ⟨rfl, rfl⟩ : a :: others = args ∧ event₂ = event' := by simpa using h
    rw [List.map_cons, List.map_cons, place_of_evalInput ha, ih hothers]

/-- The place of the first argument. -/
theorem place?_zero_of_places {args : Arguments} {inputs : List (Input Node)}
    (h : args.map (·.place) = inputs.map Input.place?) : args.place? 0 = inputs.head?.bind Input.place? := by
  cases inputs with
  | nil =>
    obtain rfl := List.map_eq_nil_iff.1 h
    rfl
  | cons input rest =>
    obtain ⟨a, others, rfl, ha, -⟩ := List.map_eq_cons_iff.1 h
    exact ha

/-- Statements up to some point, and the others after them. -/
theorem evalBody_append (s : Surroundings) (after : List Node) :
    ∀ (before : List Node) (last : Value),
      evalBody s last (before ++ after) = evalBody s last before >>= fun v => evalBody s v after
  | [], last => rfl
  | n :: rest, last => by
    simp only [List.cons_append, evalBody, bind_assoc]
    exact congrArg (eval s n >>= ·) (funext fun v => evalBody_append s after rest v)

/-- Statements that fault: one of them does, after those before it ended well. -/
theorem on_evalBody_error {s : Surroundings} {e : Fault} {event' : Value} :
    ∀ {body : List Node} {last event : Value}, (evalBody s last body).on event = (.error e, event') →
      ∃ before n after v event₁, body = before ++ n :: after ∧
        (evalBody s last before).on event = (.ok v, event₁) ∧ (eval s n).on event₁ = (.error e, event')
  | [], last, event, h => by simp [evalBody] at h
  | n :: rest, last, event, h => by
    rw [evalBody, on_bind_error] at h
    rcases h with h | ⟨v, event₁, hv, h⟩
    · exact ⟨[], n, rest, last, event, rfl, rfl, h⟩
    · obtain ⟨before, n', after, v', event₂, rfl, hbefore, hn'⟩ := on_evalBody_error h
      refine ⟨n :: before, n', after, v', event₂, rfl, ?_, hn'⟩
      rw [evalBody, on_bind_ok]
      exact ⟨v, event₁, hv, hbefore⟩

/-! ### Induction on nodes -/

section Induction

variable {P : Node → Prop} (constant : ∀ s v, P (constant s v))
  (array : ∀ s items, (∀ n ∈ items, P n) → P (array s items))
  (object : ∀ s entries, (∀ k n, (k, n) ∈ entries → P n) → P (object s entries))
  (path : ∀ s p, P (path s p)) (access : ∀ s base p, P base → P (access s base p))
  (assign : ∀ s target value, P value → P (assign s target value))
  (assignPair : ∀ s ok err f inputs, (∀ n, .value n ∈ inputs → P n) → P (assignPair s ok err f inputs))
  (call : ∀ s f aborts inputs, (∀ n, .value n ∈ inputs → P n) → P (call s f aborts inputs))
  (binary : ∀ s op left right, P left → P right → P (binary s op left right))
  (unary : ∀ s op operand, P operand → P (unary s op operand))
  (branch : ∀ s condition body alternative, P condition → (∀ n ∈ body, P n) →
    (∀ n, alternative = some n → P n) → P (branch s condition body alternative))
  (block : ∀ s body, (∀ n ∈ body, P n) → P (block s body))

include constant array object path access assign assignPair call binary unary branch block

/-- Induction on nodes.  The claim is there for every node in the lists of a node. -/
@[elab_as_elim]
theorem induct (n : Node) : P n :=
  @Node.rec P (fun ns => ∀ n ∈ ns, P n) (fun es => ∀ k n, (k, n) ∈ es → P n)
    (fun is => ∀ n, .value n ∈ is → P n) (fun a => ∀ n, a = some n → P n) (fun e => P e.2)
    (fun i => ∀ n, i = .value n → P n)
    constant array object path access assign assignPair call binary unary branch block
    (by simp) (fun n ns hn hns => by simpa using ⟨hn, hns⟩)
    (by simp)
    (fun e es he hes k n h => by
      rcases List.mem_cons.1 h with rfl | h
      · exact he
      · exact hes k n h)
    (by simp)
    (fun i is hi his n h => by
      rcases List.mem_cons.1 h with rfl | h
      · exact hi n rfl
      · exact his n h)
    (by simp) (by simp) (by simp) (by simp) (by simp) n

end Induction

end Node

end Reshape
