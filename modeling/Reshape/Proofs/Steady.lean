/-
Runs further down, at another time.

A function is `Steady` if it looks at nothing outside but the time zone.  A program that calls only steady
functions runs in the same way wherever it stands in a text, at any time of day and with any seed; only the
regions in its faults are shifted.

* `Node.eval_shift` — this for a node;
* `Node.object_of_eval` — whatever a node does, an event that is an object stays one.
-/
import Reshape.Proofs.CallSite
import Reshape.Proofs.Fault
import Reshape.Proofs.Relocation

namespace Reshape

variable {α β : Type} (δ : Shift)

/-! ### Faults further down -/

namespace Run

theorem ext {x y : Run α} (h : ∀ event, x.on event = y.on event) : x = y :=
  funext h

/-- The same step, with the regions of its faults shifted. -/
def shift (x : Run α) : Run α :=
  ExceptT.adapt (·.shift δ) x

theorem on_shift (x : Run α) (event : Value) :
    (x.shift δ).on event = ((x.on event).1.mapError (·.shift δ), (x.on event).2) := rfl

@[simp] theorem shift_pure (a : α) : (pure a : Run α).shift δ = pure a := rfl

theorem shift_bind (x : Run α) (f : α → Run β) :
    (x >>= f).shift δ = x.shift δ >>= fun a => (f a).shift δ := by
  refine ext fun event => ?_
  rw [on_shift, on_bind, on_bind, on_shift]
  rcases x.on event with ⟨e | a, event'⟩
  · rfl
  · rfl

theorem shift_write (p : Path) (v : Value) (span : Span) :
    (write p v span).shift δ = write p v (span.shift δ) := by
  unfold write
  split
  · rfl
  · rw [shift_bind]
    refine congrArg (get >>= ·) (funext fun event => ?_)
    split
    · rfl
    · rfl

theorem shift_store (ok err : Path) (span : Span) (r : Except Failure Value) :
    (store ok err span r).shift δ = store ok err (span.shift δ) r := by
  cases r with
  | ok v => simp only [store, shift_bind, shift_write, shift_pure]
  | error e => simp only [store, shift_bind, shift_write, shift_pure]

theorem shift_truth (op : BinaryOp) (span : Span) (v : Value) :
    (truth op span v).shift δ = truth op (span.shift δ) v := by
  cases v <;> rfl

theorem shift_condition (span : Span) (v : Value) :
    (condition span v).shift δ = condition (span.shift δ) v := by
  cases v <;> rfl

theorem shift_ofOperator (span : Span) (r : Except OperatorError Value) :
    (ofOperator span r).shift δ = ofOperator (span.shift δ) r := by
  cases r <;> rfl

end Run

/-! ### Steady functions -/

def Body.isOutside : Body → Bool
  | outside _ => true
  | _ => false

/-- The function looks at nothing outside of the program but the time zone. -/
def Function.Steady (f : Function) : Prop :=
  f.body.isOutside = false

/-- Of the standard functions only two look at more. -/
theorem Function.steady_of_standard {f : Function} (hf : f ∈ Library.standard) (hnow : f.name ≠ "now")
    (huuid : f.name ≠ "uuid_v4") : f.Steady := by
  by_contra houtside
  have hmem : f ∈ Library.standard.filter (fun f => f.body.isOutside) :=
    List.mem_filter.2 ⟨hf, by simpa [Steady] using houtside⟩
  rw [show Library.standard.filter (fun f => f.body.isOutside) = [now, uuid] from rfl] at hmem
  simp only [List.mem_cons, List.not_mem_nil, or_false] at hmem
  rcases hmem with rfl | rfl
  · exact hnow rfl
  · exact huuid rfl

theorem Function.call_of_steady {f : Function} (hf : f.Steady) {s s' : Surroundings} (hzone : s'.zone = s.zone)
    (serial serial' : Nat) (root : Value) (args : Arguments) :
    f.call s' serial' root args = f.call s serial root args := by
  unfold call
  split
  · rfl
  · rw [hzone]
  · rfl
  · rename_i run hbody
    simp [Steady, Body.isOutside, hbody] at hf
  · rfl

namespace Node

open Run

variable {s s' : Surroundings}

theorem invoke_shift {f : Function} (hf : f.Steady) (hzone : s'.zone = s.zone) (span : Span) (args : Arguments) :
    invoke s' f (span.shift δ) args = (invoke s f span args).shift δ := by
  refine Run.ext fun event => ?_
  rw [on_shift, on_invoke, on_invoke,
    Function.call_of_steady hf hzone span.start (span.shift δ).start event args]
  rfl

theorem evalItems_shift {items : List Node} (h : ∀ n ∈ items, eval s' (n.shift δ) = (eval s n).shift δ) :
    evalItems s' (shiftAll δ items) = (evalItems s items).shift δ := by
  induction items with
  | nil => rfl
  | cons n rest ih =>
    rw [shiftAll, evalItems, evalItems, h n List.mem_cons_self,
      ih fun m hm => h m (List.mem_cons_of_mem n hm)]
    simp only [shift_bind, shift_pure]

theorem evalEntries_shift {entries : List (String × Node)}
    (h : ∀ k n, (k, n) ∈ entries → eval s' (n.shift δ) = (eval s n).shift δ) :
    evalEntries s' (shiftEntries δ entries) = (evalEntries s entries).shift δ := by
  induction entries with
  | nil => rfl
  | cons entry rest ih =>
    obtain ⟨k, n⟩ := entry
    rw [shiftEntries, evalEntries, evalEntries, h k n List.mem_cons_self,
      ih fun k' m hm => h k' m (List.mem_cons_of_mem _ hm)]
    simp only [shift_bind, shift_pure]

theorem evalInput_shift {input : Input Node}
    (h : ∀ n, input = .value n → eval s' (n.shift δ) = (eval s n).shift δ) :
    evalInput s' (input.shift δ) = (evalInput s input).shift δ := by
  have hvalue : ∀ n : Node, eval s' (n.shift δ) = (eval s n).shift δ →
      (do return Argument.ofValue (← eval s' (n.shift δ)) : Run Argument) =
        (do return Argument.ofValue (← eval s n) : Run Argument).shift δ := by
    intro n hn
    rw [hn, shift_bind]
    rfl
  cases input with
  | path p => rfl
  | value n =>
    have hn := hvalue n (h n rfl)
    cases n with
    | path span p => rfl
    | branch span condition body alternative =>
      cases alternative with
      | none => exact hn
      | some alternative => exact hn
    | _ => exact hn

theorem evalInputs_shift {inputs : List (Input Node)}
    (h : ∀ n, .value n ∈ inputs → eval s' (n.shift δ) = (eval s n).shift δ) :
    evalInputs s' (shiftInputs δ inputs) = (evalInputs s inputs).shift δ := by
  induction inputs with
  | nil => rfl
  | cons input rest ih =>
    have hinput : evalInput s' (input.shift δ) = (evalInput s input).shift δ :=
      evalInput_shift δ fun n hn => h n (hn ▸ List.mem_cons_self)
    have hrest := ih fun n hn => h n (List.mem_cons_of_mem _ hn)
    rw [evalInputs_eq_mapM, evalInputs_eq_mapM] at hrest ⊢
    rw [show shiftInputs δ (input :: rest) = input.shift δ :: shiftInputs δ rest by cases input <;> rfl,
      List.mapM_cons, List.mapM_cons, hinput, hrest]
    simp only [shift_bind, shift_pure]

theorem evalBody_shift {body : List Node} (h : ∀ n ∈ body, eval s' (n.shift δ) = (eval s n).shift δ)
    (last : Value) : evalBody s' last (shiftAll δ body) = (evalBody s last body).shift δ := by
  induction body generalizing last with
  | nil => rfl
  | cons n rest ih =>
    rw [shiftAll, evalBody, evalBody, h n List.mem_cons_self, shift_bind]
    refine congrArg (_ >>= ·) (funext fun v => ?_)
    exact ih (fun m hm => h m (List.mem_cons_of_mem n hm)) v

/-- Evaluating a node further down, at another time. -/
theorem eval_shift (hzone : s'.zone = s.zone) (n : Node) :
    (∀ c ∈ n.callSites, c.function.Steady) → eval s' (n.shift δ) = (eval s n).shift δ := by
  induction n using Node.induct with
  | constant span v => exact fun _ => rfl
  | path span p => exact fun _ => rfl
  | array span items ih =>
    intro hsteady
    have hitems : evalItems s' (shiftAll δ items) = (evalItems s items).shift δ :=
      evalItems_shift δ fun n hn => ih n hn fun c hc => hsteady c (callSites_subset_all hn hc)
    rw [shift, eval, eval, hitems]
    simp only [shift_bind, shift_pure]
  | object span entries ih =>
    intro hsteady
    have hentries : evalEntries s' (shiftEntries δ entries) = (evalEntries s entries).shift δ :=
      evalEntries_shift δ fun k n hn => ih k n hn fun c hc => hsteady c (callSites_subset_entries hn hc)
    rw [shift, eval, eval, hentries]
    simp only [shift_bind, shift_pure]
  | access span base p ih =>
    intro hsteady
    rw [shift, eval, eval, ih hsteady]
    simp only [shift_bind, shift_pure]
  | assign span target value ih =>
    intro hsteady
    rw [shift, eval, eval, ih hsteady]
    simp only [shift_bind, shift_pure, shift_write]
  | assignPair span ok err f inputs ih =>
    intro hsteady
    rw [callSites] at hsteady
    have hinputs : evalInputs s' (shiftInputs δ inputs) = (evalInputs s inputs).shift δ :=
      evalInputs_shift δ fun n hn => ih n hn fun c hc =>
        hsteady c (List.mem_cons_of_mem _ (callSites_subset_inputs hn hc))
    have hf : f.Steady := hsteady _ List.mem_cons_self
    rw [shift, eval_assignPair, eval_assignPair, hinputs]
    simp only [shift_bind, shift_store, invoke_shift δ hf hzone]
  | call span f aborts inputs ih =>
    intro hsteady
    rw [callSites] at hsteady
    have hinputs : evalInputs s' (shiftInputs δ inputs) = (evalInputs s inputs).shift δ :=
      evalInputs_shift δ fun n hn => ih n hn fun c hc =>
        hsteady c (List.mem_cons_of_mem _ (callSites_subset_inputs hn hc))
    have hf : f.Steady := hsteady _ List.mem_cons_self
    rw [shift, eval, eval, hinputs]
    simp only [shift_bind, invoke_shift δ hf hzone]
    refine congrArg (_ >>= ·) (funext fun args => congrArg (_ >>= ·) (funext fun r => ?_))
    cases r with
    | ok v => rfl
    | error e => rfl
  | binary span op left right ihl ihr =>
    intro hsteady
    rw [callSites] at hsteady
    have hl := ihl fun c hc => hsteady c (List.mem_append_left _ hc)
    have hr := ihr fun c hc => hsteady c (List.mem_append_right _ hc)
    cases hlazy : op.isLazy with
    | false =>
      rw [shift, eval_binary s' _ hlazy, eval_binary s _ hlazy, hl, hr]
      simp only [shift_bind, shift_ofOperator]
    | true =>
      -- whether the right operand is needed is up to the value of the left one
      rw [shift, eval_lazy s' _ hlazy, eval_lazy s _ hlazy, hl, hr]
      simp only [shift_bind, shift_truth, span_shift]
      refine congrArg (_ >>= ·) (funext fun l => congrArg (_ >>= ·) (funext fun b => ?_))
      split
      · simp only [shift_bind, shift_truth, shift_pure]
      · rfl
  | unary span op operand ih =>
    intro hsteady
    rw [shift, eval, eval, ih hsteady]
    simp only [shift_bind, shift_ofOperator]
  | branch span c body alternative ihc ihb iha =>
    intro hsteady
    have hshift : (branch span c body alternative).shift δ =
        branch (span.shift δ) (c.shift δ) (shiftAll δ body) (alternative.map (·.shift δ)) := by
      cases alternative with
      | none => rfl
      | some n => rfl
    have hsites : c.callSites ⊆ (branch span c body alternative).callSites ∧
        callSitesAll body ⊆ (branch span c body alternative).callSites ∧
        ∀ n, alternative = some n → n.callSites ⊆ (branch span c body alternative).callSites := by
      cases alternative <;> simp [callSites]
    obtain ⟨hcondition, hbody, halternative⟩ := hsites
    have hc := ihc fun site hsite => hsteady site (hcondition hsite)
    have hb : evalBody s' .null (shiftAll δ body) = (evalBody s .null body).shift δ :=
      evalBody_shift δ (fun n hn => ihb n hn fun site hsite =>
        hsteady site (hbody (callSites_subset_all hn hsite))) .null
    rw [hshift, eval_branch, eval_branch, hc]
    simp only [shift_bind, shift_condition, span_shift]
    refine congrArg (_ >>= ·) (funext fun v => congrArg (_ >>= ·) (funext fun b => ?_))
    split
    · exact hb
    · cases alternative with
      | none => rfl
      | some n => exact iha n rfl fun site hsite => hsteady site (halternative n rfl hsite)
  | block span body ih =>
    intro hsteady
    rw [callSites] at hsteady
    exact evalBody_shift δ (fun n hn => ih n hn fun c hc => hsteady c (callSites_subset_all hn hc)) .null

end Node

end Reshape
