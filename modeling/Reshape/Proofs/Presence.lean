/-
Absent arguments.

An argument that is a place of the event is what is found there at its turn.  If nothing is, a function that can fail
and requires the argument does fail, whatever its other arguments are.  There is one exception: the item of `push` may
be absent, and is null then.

* `Function.fails_of_absent` — the arguments of each function;
* `Function.push_of_absent` — the exception;
* `Node.argument_of_evalInputs` — an argument that is a place;
* `Function.call_of_absent` — calls in general and calls in a run.
-/
import Reshape.Proofs.Failure

namespace Reshape

/-! ### Steps that fail -/

def IsFailure {α : Type} (x : Except Failure α) : Prop :=
  ∃ e, x = .error e

namespace IsFailure

variable {α β : Type} {x : Except Failure α} {f : α → Except Failure β}

theorem bind (h : IsFailure x) : IsFailure (x >>= f) := by
  obtain ⟨e, rfl⟩ := h
  exact ⟨e, rfl⟩

theorem of_next (h : ∀ a, IsFailure (f a)) : IsFailure (x >>= f) := by
  cases x with
  | error e => exact ⟨e, rfl⟩
  | ok a => exact h a

theorem mapM {xs : List α} {a : α} (ha : a ∈ xs) (h : IsFailure (f a)) : IsFailure (xs.mapM f) := by
  induction xs with
  | nil => cases ha
  | cons b xs ih =>
    rw [List.mapM_cons]
    rcases List.mem_cons.1 ha with rfl | ha
    · exact h.bind
    · exact .of_next fun _ => (ih ha).bind

end IsFailure

namespace Arguments

variable {args : Arguments} {i : Nat} {p : Path}

/-- An argument was read from a place where nothing was. -/
def Lacks (args : Arguments) (i : Nat) (p : Path) : Prop :=
  args[i]? = some (.ofPlace p none)

theorem Lacks.required (h : args.Lacks i p) : IsFailure (args.required i) := by
  rw [Arguments.required, h]
  exact ⟨_, rfl⟩

theorem Lacks.string (h : args.Lacks i p) : IsFailure (args.string i) :=
  h.required.bind

theorem Lacks.array (h : args.Lacks i p) : IsFailure (args.array i) :=
  h.required.bind

theorem Lacks.object (h : args.Lacks i p) : IsFailure (args.object i) :=
  h.required.bind

end Arguments

namespace Function

variable {f : Function} {args : Arguments} {i : Nat} {p : Path}

/-! ### Parameters -/

/-- The parameter that an argument belongs to is declared required. -/
def Requires (f : Function) (i : Nat) : Prop :=
  ∃ param, f.parameter? i = some param ∧ param.required = true

theorem Requires.lt (h : f.Requires i) (hvariadic : f.variadic = false) : i < f.parameters.length := by
  by_contra hi
  obtain ⟨param, hparam, -⟩ := h
  rw [parameter?, List.getElem?_eq_none (Nat.not_lt.1 hi), hvariadic] at hparam
  cases hparam

/-- The standard functions that can fail and have a required parameter from there on, or take any number of
arguments. -/
def requiring (k : Nat) : List Function :=
  Library.standard.filter fun f => f.fallible && (f.variadic || (f.parameters.drop k).any (·.required))

theorem Requires.mem_requiring (h : f.Requires i) (hf : f ∈ Library.standard) (hfallible : f.fallible = true) {k : Nat}
    (hk : k ≤ i) : f ∈ requiring k := by
  refine List.mem_filter.2 ⟨hf, ?_⟩
  rw [hfallible, Bool.true_and]
  cases hvariadic : f.variadic with
  | true => rfl
  | false =>
    have hi := h.lt hvariadic
    obtain ⟨param, hparam, hrequired⟩ := h
    rw [parameter?, List.getElem?_eq_getElem hi] at hparam
    have hdrop : (f.parameters.drop k)[i - k]? = some param := by
      rw [List.getElem?_drop, Nat.add_sub_cancel' hk, List.getElem?_eq_getElem hi]
      exact hparam
    exact List.any_eq_true.2 ⟨param, List.mem_of_getElem? hdrop, hrequired⟩

/-! ### Standard functions -/

variable (s : Surroundings) (serial : Nat) (root : Value)

/-- The functions that can fail look at their first argument first. -/
theorem fails_of_absent_first (hf : f ∈ requiring 0) (h : args.Lacks 0 p) :
    (f.call s serial root args).1 = .error (.missingField p.text) := by
  obtain ⟨rest, rfl⟩ : ∃ rest, args = .ofPlace p none :: rest := by
    cases args with
    | nil => cases h
    | cons a rest => exact ⟨rest, congrArg (· :: rest) (Option.some.inj h)⟩
  have hall : ∀ f ∈ requiring 0,
      (f.call s serial root (.ofPlace p none :: rest)).1 = .error (.missingField p.text) := by
    -- one function after the other, each evaluated up to its first argument
    repeat refine List.forall_mem_cons.2 ⟨rfl, ?_⟩
    exact List.forall_mem_nil _
  exact hall f hf

/-- Objects are merged only if all of them are there. -/
theorem merge_of_absent (h : args.Lacks (i + 1) p) : IsFailure (merge.call s serial root args).1 := by
  have hi : i < args.length - 1 := by
    have := (List.getElem?_eq_some_iff.1 h).1
    omega
  exact .of_next fun _ => (IsFailure.mapM (List.mem_range.2 hi) h.object).bind

theorem fails_of_absent_second (hf : f ∈ requiring 1) (h : args.Lacks 1 p) (hpush : f ≠ push) :
    IsFailure (f.call s serial root args).1 := by
  rw [show requiring 1 = [push, append, merge, contains, startsWith, endsWith, replace, split, formatTimestamp,
    parseTimestamp, matchPattern] from rfl] at hf
  simp only [List.mem_cons, List.not_mem_nil, or_false] at hf
  rcases hf with rfl | rfl | rfl | hf
  · exact absurd rfl hpush
  · exact .of_next fun _ => h.array.bind
  · exact merge_of_absent s serial root h
  · -- all others want a string
    rcases hf with rfl | rfl | rfl | rfl | rfl | rfl | rfl | rfl
    all_goals exact .of_next fun _ => h.string.bind

theorem fails_of_absent_behind (hf : f ∈ requiring 2) (hi : f.Requires (i + 2)) (h : args.Lacks (i + 2) p) :
    IsFailure (f.call s serial root args).1 := by
  rw [show requiring 2 = [merge, replace] from rfl] at hf
  simp only [List.mem_cons, List.not_mem_nil, or_false] at hf
  rcases hf with rfl | rfl
  · exact merge_of_absent s serial root h
  · have hlt : i + 2 < 3 := hi.lt rfl
    obtain rfl : i = 0 := by omega
    exact .of_next fun _ => .of_next fun _ => h.string.bind

/-- An argument that is required and absent makes a function fail that can, unless it is the item of `push`. -/
theorem fails_of_absent (hf : f ∈ Library.standard) (hfallible : f.fallible = true) (hi : f.Requires i)
    (h : args.Lacks i p) (hpush : ¬(f = push ∧ i = 1)) : IsFailure (f.call s serial root args).1 := by
  have hmem : ∀ k ≤ i, f ∈ requiring k := fun k hk => hi.mem_requiring hf hfallible hk
  rcases i with _ | _ | i
  · exact ⟨_, fails_of_absent_first s serial root (hmem 0 (Nat.le_refl 0)) h⟩
  · exact fails_of_absent_second s serial root (hmem 1 (Nat.le_refl 1)) h fun heq => hpush ⟨heq, rfl⟩
  · exact fails_of_absent_behind s serial root (hmem 2 (Nat.le_add_left 2 i)) hi h

/-- An item that is absent is added as null. -/
theorem push_of_absent (h : args.Lacks 1 p) :
    (push.call s serial root args).1 = (args.array 0).map fun items => .array (items ++ [.null]) := by
  have hvalue : args.value 1 = .null := by
    rw [Arguments.value, h]
    rfl
  have hcall : (push.call s serial root args).1 = do return .array ((← args.array 0) ++ [args.value 1]) := rfl
  rw [hcall, hvalue]
  cases args.array 0 with
  | _ => rfl

end Function

/-! ### Calls in a run -/

namespace Node

open Run

variable {s : Surroundings} {inputs : List (Input Node)} {event event' : Value} {args : Arguments} {i : Nat} {p : Path}

theorem evalInput_of_place? {input : Input Node} (h : input.place? = some p) :
    (evalInput s input).on event = (.ok (.ofPlace p (event.get? p)), event) := by
  cases input with
  | path q =>
    obtain rfl := Option.some.inj h
    rfl
  | value n =>
    cases n with
    | path span q =>
      obtain rfl := Option.some.inj h
      rfl
    | _ => cases h

/-- An argument that is a place is what is found there when the arguments before it are evaluated. -/
theorem argument_of_evalInputs (h : (evalInputs s inputs).on event = (.ok args, event'))
    (hplace : inputs[i]?.bind Input.place? = some p) :
    ∃ event₁, (evalInputs s (inputs.take i)).on event = (.ok (args.take i), event₁) ∧
      args[i]? = some (.ofPlace p (event₁.get? p)) := by
  simp only [evalInputs_eq_mapM] at h ⊢
  -- each argument sees the event as those before it leave it, so the event is general
  induction inputs generalizing event args i with
  | nil => simp at hplace
  | cons input rest ih =>
    rw [List.mapM_cons, on_bind_ok] at h
    obtain ⟨a, event₁, ha, h⟩ := h
    obtain ⟨others, event₂, hothers, h⟩ := on_bind_ok.1 h
    obtain ⟨rfl, rfl⟩ : a :: others = args ∧ event₂ = event' := by simpa using h
    cases i with
    | zero =>
      rw [evalInput_of_place? hplace] at ha
      obtain rfl := Except.ok.inj (congrArg Prod.fst ha)
      exact ⟨event, rfl, rfl⟩
    | succ i =>
      obtain ⟨event₃, hbefore, hi⟩ := ih hplace hothers
      refine ⟨event₃, ?_, hi⟩
      rw [List.take_succ_cons, List.take_succ_cons, List.mapM_cons, on_bind_ok]
      exact ⟨a, event₁, ha, on_bind_ok.2 ⟨_, event₃, hbefore, rfl⟩⟩

/-- A call whose function fails on the arguments, if it gets to have them, faults. -/
theorem faults_of_isFailure {f : Function} {span : Span} {aborts : Bool}
    (h : ∀ args event', (evalInputs s inputs).on event = (.ok args, event') →
      IsFailure (f.call s span.start event' args).1) :
    ∃ fault event', (eval s (.call span f aborts inputs)).on event = (.error fault, event') := by
  rw [eval, on_bind]
  rcases hargs : (evalInputs s inputs).on event with ⟨fault | args, event₁⟩
  · exact ⟨fault, event₁, rfl⟩
  · obtain ⟨e, he⟩ := h args event₁ hargs
    have hinvoke : (invoke s f span args).on event₁ = (.ok (.error e), (f.call s span.start event₁ args).2) := by
      rw [← he]
      rfl
    simp only [on_bind, hinvoke, on_fault]
    exact ⟨_, _, rfl⟩

end Node

namespace Function

open Node in
/-- A function that can fail does so if an argument that it requires is absent, and a call of it in a run faults.  Only
`push` takes an item that is absent, for null. -/
theorem call_of_absent {f : Function} (hf : f ∈ Library.standard) (hfallible : f.fallible = true) {i : Nat}
    (hi : f.Requires i) (p : Path) :
    (∀ args : Arguments, f.admits args.length = true → args.Lacks i p → ∀ s serial root,
      IsFailure (f.call s serial root args).1 ∨
        f = push ∧ i = 1 ∧ ∃ items, args.array 0 = .ok items ∧
          (f.call s serial root args).1 = .ok (.array (items ++ [.null]))) ∧
      ∀ inputs s event before event₁, inputs[i]?.bind Input.place? = some p →
        (evalInputs s (inputs.take i)).on event = (.ok before, event₁) → event₁.get? p = none →
        ¬(f = push ∧ i = 1) → ∀ span aborts,
          ∃ fault event', (eval s (.call span f aborts inputs)).on event = (.error fault, event') := by
  constructor
  · intro args _ h s serial root
    by_cases hpush : f = push ∧ i = 1
    · obtain ⟨rfl, rfl⟩ := hpush
      rw [push_of_absent s serial root h]
      cases hitems : args.array 0 with
      | error e => exact .inl ⟨e, rfl⟩
      | ok items => exact .inr ⟨rfl, rfl, items, rfl, rfl⟩
    · exact .inl (fails_of_absent s serial root hf hfallible hi h hpush)
  · intro inputs s event before event₁ hplace hbefore habsent hpush span aborts
    refine faults_of_isFailure fun args event' hargs => ?_
    obtain ⟨event₂, hbefore', harg⟩ := argument_of_evalInputs hargs hplace
    obtain rfl : event₂ = event₁ := congrArg Prod.snd (hbefore'.symm.trans hbefore)
    rw [habsent] at harg
    exact fails_of_absent s span.start event' hf hfallible hi harg hpush

/-- An array that is absent is no empty array. -/
theorem call_of_absent_append :
    append.Requires 1 ∧
      ∃ e, (append.call ⟨.fixed "UTC" 0, ⟨0, 0, 0⟩, 0⟩ 0 .null
        [.ofValue (.array []), .ofPlace [.key "x"] none]).1 = .error e := by
  have hrequires : append.Requires 1 := ⟨_, rfl, rfl⟩
  have hmem : append ∈ Library.standard := List.mem_of_getElem? (i := 18) rfl
  refine ⟨hrequires, ?_⟩
  rcases (call_of_absent hmem rfl hrequires [.key "x"]).1 [.ofValue (.array []), .ofPlace [.key "x"] none] (by decide)
    rfl ⟨.fixed "UTC" 0, ⟨0, 0, 0⟩, 0⟩ 0 .null with h | ⟨hpush, -⟩
  · exact h
  · exact absurd (congrArg name hpush) (by decide)

/-- An item that is required and absent is null. -/
theorem push_absent_is_null :
    push ∈ Library.standard ∧ push.fallible = true ∧ push.Requires 1 ∧ push.admits 2 = true ∧
      (push.call ⟨.fixed "UTC" 0, ⟨0, 0, 0⟩, 0⟩ 0 .null
        [.ofValue (.array []), .ofPlace [.key "x"] ((Value.object []).get? [.key "x"])]).1 = .ok (.array [.null]) :=
  ⟨List.mem_of_getElem? (i := 17) rfl, rfl, ⟨_, rfl, rfl⟩, rfl, rfl⟩

end Function

end Reshape
