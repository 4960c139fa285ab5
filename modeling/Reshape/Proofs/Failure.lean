/-
Failures of functions in a run.

The checks of a call at compile time are enough at run time: a function that is declared infallible never
fails on arguments that these checks let through, so a call that fails was written with `!` or is captured.

* `Function.ok_of_infallible` — the declarations of the standard functions keep what they promise;
* `Program.run_failures` — the failures of functions in the run of a compiled program.
-/
import Reshape.Proofs.CallSite
import Reshape.Proofs.Fault

namespace Reshape

namespace Function

/-- Arguments that the checks of a call let through: as many as the function takes, with a place wherever it
wants one. -/
def Accepts (f : Function) (args : Arguments) : Prop :=
  f.admits args.length = true ∧ ∀ i a, args[i]? = some a → f.kindAt i = .path → a.place.isSome = true

/-- A function declared infallible gives a value for all arguments that it accepts. -/
theorem ok_of_infallible {f : Function} (hf : f ∈ Library.standard) (hfallible : f.fallible = false)
    {args : Arguments} (hargs : f.Accepts args) (s : Surroundings) (serial : Nat) (root : Value) :
    ∃ v root', f.call s serial root args = (.ok v, root') := by
  have hmem : f ∈ Library.standard.filter (fun f => !f.fallible) :=
    List.mem_filter.2 ⟨hf, by simp [hfallible]⟩
  rw [show Library.standard.filter (fun f => !f.fallible) =
    [encodeJson, typeOf, isNull, existsAt, delete, now, uuid] from rfl] at hmem
  simp only [List.mem_cons, List.not_mem_nil, or_false] at hmem
  rcases hmem with rfl | rfl | rfl | rfl | rfl | rfl | rfl
  · exact ⟨_, _, rfl⟩
  · exact ⟨_, _, rfl⟩
  · exact ⟨_, _, rfl⟩
  · exact ⟨_, _, rfl⟩
  · -- the one function with a way to fail needs a place, which its parameter asks for
    obtain ⟨hcount, hplaces⟩ := hargs
    rcases args with _ | ⟨a, rest⟩
    · simp [admits, leastArity, delete] at hcount
    · obtain ⟨p, hp⟩ := Option.isSome_iff_exists.1 (hplaces 0 a rfl rfl)
      refine ⟨(root.remove p).1.getD .null, (root.remove p).2, ?_⟩
      simp only [call, delete, Arguments.place?, List.getElem?_cons_zero, Option.bind_some, hp]
  · exact ⟨_, _, rfl⟩
  · exact ⟨_, _, rfl⟩

/-- Of the standard functions only one removes a place. -/
theorem eq_delete_of_removing {f : Function} (hf : f ∈ Library.standard) (hbody : f.body = .removing) :
    f = delete := by
  have hmem : f ∈ Library.standard.filter (fun f => f.effect == .changesRoot) :=
    List.mem_filter.2 ⟨hf, by simp [effect, hbody]⟩
  rw [show Library.standard.filter (fun f => f.effect == .changesRoot) = [delete] from rfl] at hmem
  exact List.mem_singleton.1 hmem

end Function

/-- A disciplined call of a function that removes a place hands it one. -/
theorem CallSite.Disciplined.removes {c : CallSite} (hc : c.Disciplined Library.standard)
    (hbody : c.function.body = .removing) : ∃ q rest, c.inputs = .path q :: rest := by
  obtain hf := Function.eq_delete_of_removing hc.known hbody
  have hcount := hc.enough
  have hfits := hc.fits 0
  rw [hf] at hcount hfits
  rcases hinputs : c.inputs with _ | ⟨input, rest⟩
  · simp [hinputs, Function.leastArity, Function.delete] at hcount
  · have hpath := (hfits input (by simp [hinputs])).2 ⟨_, rfl, rfl⟩
    cases input with
    | value n => simp [Input.isPath] at hpath
    | path q => exact ⟨q, rest, rfl⟩

namespace Node

open Run

/-- What an evaluation reaches has no calls of its own. -/
theorem Reaches.callSites_subset {s : Surroundings} {n m : Node} {event event' : Value}
    (h : n.Reaches s event m event') : m.callSites ⊆ n.callSites := by
  induction h with
  | self => exact List.Subset.refl _
  | array _ _ ih | block _ _ ih =>
    rw [callSites]
    exact List.Subset.trans ih (callSites_subset_all (by simp))
  | object _ _ ih =>
    rw [callSites]
    exact List.Subset.trans ih (callSites_subset_entries (List.mem_append_right _ List.mem_cons_self))
  | access _ ih | assign _ ih | unary _ ih =>
    rw [callSites]
    exact ih
  | assignPair _ _ ih | call _ _ ih =>
    rw [callSites]
    exact List.Subset.trans (List.Subset.trans ih (callSites_subset_inputs (by simp))) (List.subset_cons_self _ _)
  | left _ ih =>
    rw [callSites]
    exact List.Subset.trans ih (List.subset_append_left _ _)
  | right _ _ _ ih =>
    rw [callSites]
    exact List.Subset.trans ih (List.subset_append_right _ _)
  | @condition _ _ _ alternative _ _ _ _ ih =>
    cases alternative <;> simp only [callSites] <;> exact List.Subset.trans ih (by simp)
  | @body _ _ before n after alternative _ _ _ _ _ _ _ _ _ ih =>
    have hbody := List.Subset.trans ih
      (callSites_subset_all (List.mem_append_right before (List.mem_cons_self (l := after))))
    cases alternative <;> simp only [callSites] <;> exact List.Subset.trans hbody (by simp)
  | alternative _ _ ih =>
    rw [callSites]
    exact List.Subset.trans ih (List.subset_append_right _ _)

/-- The calls in a part of a node are calls in the node. -/
theorem callSites_subset_of_mem_parts {m n : Node} : m ∈ n.parts → m.callSites ⊆ n.callSites := by
  induction n using Node.induct with
  | constant span v | path span p =>
    intro h
    obtain rfl := List.mem_singleton.1 h
    exact List.Subset.refl _
  | array span items ih | block span items ih =>
    intro h
    rcases List.mem_cons.1 h with rfl | h
    · exact List.Subset.refl _
    · obtain ⟨n, hn, hm⟩ := mem_partsAll.1 h
      exact List.Subset.trans (ih n hn hm) (callSites_subset_all hn)
  | object span entries ih =>
    intro h
    rcases List.mem_cons.1 h with rfl | h
    · exact List.Subset.refl _
    · obtain ⟨k, n, hn, hm⟩ := mem_partsEntries.1 h
      exact List.Subset.trans (ih k n hn hm) (callSites_subset_entries hn)
  | access span base p ih | assign span p base ih | unary span p base ih =>
    intro h
    rcases List.mem_cons.1 h with rfl | h
    · exact List.Subset.refl _
    · exact ih h
  | assignPair span ok err f inputs ih | call span f ok inputs ih =>
    intro h
    rcases List.mem_cons.1 h with rfl | h
    · exact List.Subset.refl _
    · obtain ⟨n, hn, hm⟩ := mem_partsInputs.1 h
      exact List.Subset.trans (ih n hn hm)
        (List.Subset.trans (callSites_subset_inputs hn) (List.subset_cons_self _ _))
  | binary span op left right ihl ihr =>
    intro h
    rcases List.mem_cons.1 h with rfl | h
    · exact List.Subset.refl _
    · rcases List.mem_append.1 h with h | h
      · exact List.Subset.trans (ihl h) (List.subset_append_left _ _)
      · exact List.Subset.trans (ihr h) (List.subset_append_right _ _)
  | branch span c body alternative ihc ihb iha =>
    intro h
    have hsites : c.callSites ⊆ (branch span c body alternative).callSites ∧
        callSitesAll body ⊆ (branch span c body alternative).callSites ∧
        ∀ n, alternative = some n → n.callSites ⊆ (branch span c body alternative).callSites := by
      cases alternative <;> simp [callSites]
    rcases mem_parts_branch.1 h with rfl | h | h | ⟨n, hn, hm⟩
    · exact List.Subset.refl _
    · exact List.Subset.trans (ihc h) hsites.1
    · obtain ⟨n, hn, hm⟩ := mem_partsAll.1 h
      exact List.Subset.trans (ihb n hn hm) (List.Subset.trans (callSites_subset_all hn) hsites.2.1)
    · exact List.Subset.trans (iha n hn hm) (hsites.2.2 n hn)

/-- Evaluated arguments: one for each that is handed over, with the place where a place is. -/
theorem place_of_evalInputs {s : Surroundings} {inputs : List (Input Node)} {event : Value} {args : Arguments}
    {event' : Value} (h : (evalInputs s inputs).on event = (.ok args, event')) :
    args.length = inputs.length ∧
      ∀ (i : Nat) (p : Path) (a : Argument),
        inputs[i]? = some (.path p) → args[i]? = some a → a.place = some p := by
  have hplaces := places_of_evalInputs h
  refine ⟨by simpa using congrArg List.length hplaces, fun i p a hi ha => ?_⟩
  have hplace : (args.map (·.place))[i]? = (inputs.map Input.place?)[i]? := by rw [hplaces]
  rw [List.getElem?_map, List.getElem?_map, hi, ha] at hplace
  exact Option.some.inj hplace

/-- The arguments of a disciplined call are accepted by its function. -/
theorem accepts_of_disciplined {library : Library} {c : CallSite} (hc : c.Disciplined library)
    {s : Surroundings} {event : Value} {args : Arguments} {event' : Value}
    (h : (evalInputs s c.inputs).on event = (.ok args, event')) : c.function.Accepts args := by
  obtain ⟨hlen, hplaces⟩ := place_of_evalInputs h
  refine ⟨?_, fun i a ha hkind => ?_⟩
  · rw [hlen, Function.admits_iff]
    exact ⟨hc.enough, hc.notTooMany⟩
  · have hi : i < c.inputs.length := hlen ▸ (List.getElem?_eq_some_iff.1 ha).1
    have hinput := List.getElem?_eq_getElem hi
    have hpath := (hc.fits i _ hinput).2 (Function.kindAt_eq_path.1 hkind)
    cases hget : c.inputs[i] with
    | value n => simp [hget, Input.isPath] at hpath
    | path p =>
      rw [hget] at hinput
      exact Option.isSome_iff_exists.2 ⟨p, hplaces i p a hinput ha⟩

/-- A function that fails in a disciplined call is one that may. -/
theorem Fails.fallible {s : Surroundings} {n : Node} {event : Value} {f : Function} {e : Failure}
    {event' : Value} (h : n.Fails s event f e event')
    (hsites : ∀ c ∈ n.callSites, c.Disciplined Library.standard) : f.fallible = true := by
  by_contra hf
  rw [Bool.not_eq_true] at hf
  cases h with
  | @call span _ aborts inputs _ args event₁ _ _ hargs hcall =>
    have hc := hsites ⟨f, aborts, false, inputs⟩ (by simp [callSites])
    obtain ⟨v, root', hok⟩ :=
      Function.ok_of_infallible hc.known hf (accepts_of_disciplined hc hargs) s span.start event₁
    rw [hok] at hcall
    cases hcall
  | @assignPair span _ _ _ inputs _ args event₁ _ _ hargs hcall =>
    have hc := hsites ⟨f, false, true, inputs⟩ (by simp [callSites])
    obtain ⟨v, root', hok⟩ :=
      Function.ok_of_infallible hc.known hf (accepts_of_disciplined hc hargs) s span.start event₁
    rw [hok] at hcall
    cases hcall

/-- A function that fails in a disciplined call was called with `!`, or its failure is captured. -/
theorem Fails.surfaces {s : Surroundings} {n : Node} {event : Value} {f : Function} {e : Failure}
    {event' : Value} (h : n.Fails s event f e event')
    (hsites : ∀ c ∈ n.callSites, c.Disciplined Library.standard) :
    (∃ span inputs, n = .call span f true inputs ∧
        (n.eval s).on event = (.error ⟨.abortedCall f.name e, some span⟩, event')) ∨
      ∃ span ok err inputs, n = .assignPair span ok err f inputs ∧
        (n.eval s).on event = (store ok err span (.error e)).on event' := by
  have hfallible := h.fallible hsites
  -- the compiler admits a function that may fail with a `!` or captured
  cases h with
  | @call span _ aborts inputs _ args event₁ _ _ hargs hcall =>
    have hc := hsites ⟨f, aborts, false, inputs⟩ (by simp [callSites])
    obtain rfl : aborts = true := (hc.handled hfallible).resolve_right (by simp)
    refine .inl ⟨span, inputs, rfl, ?_⟩
    rw [eval, on_bind, hargs]
    dsimp only
    rw [on_bind, on_invoke, hcall]
    rfl
  | @assignPair span ok err _ inputs _ args event₁ _ _ hargs hcall =>
    refine .inr ⟨span, ok, err, inputs, rfl, ?_⟩
    rw [eval_assignPair, on_bind, hargs]
    dsimp only
    rw [on_bind, on_invoke, hcall]

/-! ### What a node raises itself -/

theorem kind_refusal_ne (e : WriteError) : (refusal e).kind ≠ .conversionFailure := by
  cases e <;> simp [refusal, FaultCause.kind]

theorem kind_cause_ne (e : OperatorError) : e.cause.kind ≠ .conversionFailure := by
  cases e <;> simp [OperatorError.cause, FaultCause.kind]

theorem write_on_error {p : Path} {v event event' : Value} {span : Span} {fault : Fault}
    (h : (write p v span).on event = (.error fault, event')) :
    ∃ cause, fault = ⟨cause, some span⟩ ∧ cause.kind ≠ .conversionFailure := by
  unfold write at h
  split at h
  · obtain rfl : _ = fault := by simpa using congrArg Prod.fst h
    exact ⟨_, rfl, by simp [FaultCause.kind]⟩
  · rw [on_bind, on_get] at h
    dsimp only at h
    split at h
    · simp at h
    · rename_i e _
      obtain rfl : _ = fault := by simpa using congrArg Prod.fst h
      exact ⟨_, rfl, kind_refusal_ne e⟩

theorem store_on_error {ok err : Path} {span : Span} {r : Except Failure Value}
    {event event' : Value} {fault : Fault}
    (h : (store ok err span r).on event = (.error fault, event')) :
    ∃ cause, fault = ⟨cause, some span⟩ ∧ cause.kind ≠ .conversionFailure := by
  rcases r with e | v
  all_goals
    rw [store, on_bind_error] at h
    rcases h with h | ⟨-, event₁, -, h⟩
    · exact write_on_error h
    · rw [on_bind_error] at h
      rcases h with h | ⟨-, event₂, -, h⟩
      · exact write_on_error h
      · simp at h

theorem truth_on_error {op : BinaryOp} {span : Span} {v event event' : Value} {fault : Fault}
    (h : (truth op span v).on event = (.error fault, event')) :
    ∃ cause, fault = ⟨cause, some span⟩ ∧ cause.kind ≠ .conversionFailure := by
  cases v with
  | boolean b => simp [truth] at h
  | _ =>
    obtain rfl : _ = fault := by simpa [truth] using congrArg Prod.fst h
    exact ⟨_, rfl, by simp [FaultCause.kind]⟩

theorem condition_on_error {span : Span} {v event event' : Value} {fault : Fault}
    (h : (condition span v).on event = (.error fault, event')) :
    ∃ cause, fault = ⟨cause, some span⟩ ∧ cause.kind ≠ .conversionFailure := by
  cases v with
  | boolean b => simp [condition] at h
  | _ =>
    obtain rfl : _ = fault := by simpa [condition] using congrArg Prod.fst h
    exact ⟨_, rfl, by simp [FaultCause.kind]⟩

/-- A node that faults itself blames itself, an operand or its condition.  Only a call without `!` that fails makes a
conversion failure. -/
theorem Raises.exists_part {s : Surroundings} {n : Node} {event : Value} {fault : Fault}
    (h : n.Raises s event fault) :
    ∃ m cause, m ∈ n.parts ∧ fault = ⟨cause, some m.span⟩ ∧
      ((∀ span f inputs, n ≠ .call span f false inputs) → cause.kind ≠ .conversionFailure) := by
  have hself := n.mem_parts_self
  cases h with
  | announced => exact ⟨_, _, hself, rfl, fun _ => by simp [FaultCause.kind]⟩
  | unannounced => exact ⟨_, _, hself, rfl, fun hbare => absurd rfl (hbare _ _ _)⟩
  | assign _ h =>
    obtain ⟨cause, rfl, hkind⟩ := write_on_error h
    exact ⟨_, cause, hself, rfl, fun _ => hkind⟩
  | assignPair _ h =>
    obtain ⟨cause, rfl, hkind⟩ := store_on_error h
    exact ⟨_, cause, hself, rfl, fun _ => hkind⟩
  | @left _ _ left _ _ _ _ _ _ _ _ h =>
    obtain ⟨cause, rfl, hkind⟩ := truth_on_error h
    exact ⟨left, cause, by simp [parts, mem_parts_self], rfl, fun _ => hkind⟩
  | @right _ _ _ right _ _ _ _ _ _ _ _ _ _ _ h =>
    obtain ⟨cause, rfl, hkind⟩ := truth_on_error h
    exact ⟨right, cause, by simp [parts, mem_parts_self], rfl, fun _ => hkind⟩
  | binary | unary => exact ⟨_, _, hself, rfl, fun _ => kind_cause_ne _⟩
  | @condition _ c _ _ _ _ _ _ _ _ h =>
    obtain ⟨cause, rfl, hkind⟩ := condition_on_error h
    exact ⟨c, cause, mem_parts_branch.2 (.inr (.inl c.mem_parts_self)), rfl, fun _ => hkind⟩

theorem Raises.kind_ne {s : Surroundings} {n : Node} {event : Value} {fault : Fault}
    (h : n.Raises s event fault) (hbare : ∀ span f inputs, n ≠ .call span f false inputs) :
    fault.kind ≠ .conversionFailure := by
  obtain ⟨m, cause, -, rfl, hkind⟩ := h.exists_part
  exact hkind hbare

end Node

/-! ### Runs of compiled programs -/

namespace Program

theorem Reaches.callSites_subset {p : Program} {s : Surroundings} {event : Value} {m : Node} {event' : Value}
    (h : p.Reaches s event m event') : m.callSites ⊆ p.callSites := by
  obtain ⟨before, n, after, v, event₁, hsplit, -, hreach⟩ := h
  have hn : n ∈ p.statements := by simp [hsplit]
  exact List.Subset.trans hreach.callSites_subset (Node.callSites_subset_all hn)

/-- In the run of a compiled program, a function that fails may fail, and it was called with `!` and its
failure is the fault, or its message is stored.  No fault is that of any other call, so none is a conversion
failure; a function that removes a place is always given one; and functions declared infallible do not fail. -/
theorem run_failures {source : String} {p : Program} (h : compile Library.standard source = .ok p)
    (s : Surroundings) {event : Value} (hobj : event.kind = .object) :
    (∀ n event₁ f e event₂, p.Reaches s event n event₁ → n.Fails s event₁ f e event₂ →
      f.fallible = true ∧
        ((∃ span inputs, n = .call span f true inputs ∧
            (n.eval s).on event₁ = (.error ⟨.abortedCall f.name e, some span⟩, event₂)) ∨
          ∃ span ok err inputs, n = .assignPair span ok err f inputs ∧
            (n.eval s).on event₁ = (Run.store ok err span (.error e)).on event₂)) ∧
      (∀ fault, (p.run s event).result = .error fault →
        fault.kind ≠ .conversionFailure ∧
          ∃ n event₁, p.Reaches s event n event₁ ∧ n.Raises s event₁ fault ∧
            ∀ span f inputs, n ≠ .call span f false inputs) ∧
      (∀ n event₁, p.Reaches s event n event₁ → ∀ c ∈ n.callSites, c.function.body = .removing →
        ∃ q rest, c.inputs = .path q :: rest) ∧
      ∀ f ∈ Library.standard, f.fallible = false → ∀ args, f.Accepts args → ∀ serial root,
        ∃ v root', f.call s serial root args = (.ok v, root') := by
  have hsites := disciplined_of_compile (List.Subset.refl _) h
  have hreached : ∀ {n event₁}, p.Reaches s event n event₁ →
      ∀ c ∈ n.callSites, c.Disciplined Library.standard :=
    fun hreach c hc => hsites c (hreach.callSites_subset hc)
  refine ⟨?_, ?_, ?_, ?_⟩
  · intro n event₁ f e event₂ hreach hfails
    exact ⟨hfails.fallible (hreached hreach), hfails.surfaces (hreached hreach)⟩
  · intro fault hfault
    obtain ⟨n, event₁, hreach, hraises⟩ := p.exists_raises s hobj hfault
    -- a bare call that fails is no call of a compiled program
    have hbare : ∀ span f inputs, n ≠ .call span f false inputs := by
      rintro span f inputs rfl
      cases hraises with
      | unannounced hfails =>
        rcases hfails.surfaces (hreached hreach) with ⟨_, _, heq, -⟩ | ⟨_, _, _, _, heq, -⟩
        · simp at heq
        · cases heq
    exact ⟨hraises.kind_ne hbare, n, event₁, hreach, hraises, hbare⟩
  · intro n event₁ hreach c hc hbody
    exact (hreached hreach c hc).removes hbody
  · intro f hf hfallible args hargs serial root
    exact Function.ok_of_infallible hf hfallible hargs s serial root

/-- The first failure is stored and the second ends the run. -/
theorem run_failures_stored_then_announced :
    ∃ p s event fault, compile Library.standard ".a, .e = to_int(.m)\n.b = to_int!(.m)" = .ok p ∧
      event.kind = .object ∧ (p.run s event).result = .error fault ∧ fault.kind = .abortedCall ∧
        ∃ n event₁, p.Reaches s event n event₁ ∧ n.Raises s event₁ fault ∧
          ∀ span f inputs, n ≠ .call span f false inputs := by
  let s : Surroundings := ⟨.fixed "UTC" 0, ⟨0, 0, 0⟩, 0⟩
  let event : Value := .object [("m", .string "x")]
  have hrun : (compile Library.standard ".a, .e = to_int(.m)\n.b = to_int!(.m)").toOption.map
      (fun p => ((p.run s event).result.mapError Fault.kind).map fun _ => ()) =
        some (.error .abortedCall) := by
    decide +kernel
  obtain ⟨p, hp, hresult⟩ := exists_of_compile hrun
  rcases hr : (p.run s event).result with fault | v
  · have hkind : fault.kind = .abortedCall := by
      simpa [hr, Except.mapError, Except.map] using hresult
    exact ⟨p, s, event, fault, hp, rfl, hr, hkind, ((run_failures hp s rfl).2.1 fault hr).2⟩
  · simp [hr, Except.mapError, Except.map] at hresult

end Program

end Reshape
