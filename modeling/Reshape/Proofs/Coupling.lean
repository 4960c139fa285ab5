/-
Runs side by side.

Two steps are `Coupled` by a relation between events if from related events they end in the same way, with the
same value or the same fault, and leave related events.  Steps that follow each other are coupled if each is, so
a node that is evaluated twice is coupled with itself as soon as its parts `ActAlike`: they read the same at the
places that they name, and related events stay related when they write there or call a function.

* `Node.eval_coupled` — evaluations of a node whose parts act alike are coupled;
* `Node.eval_keeps` — the case of one run beside itself: what every write and removal at a target of the node
  keeps true of the event, its evaluation keeps true, also if it faults.
-/
import Reshape.Proofs.Fault

namespace Reshape

namespace Run

variable {α β : Type} {E : Value → Value → Prop} {I : Value → Prop}

/-- From related events the steps end in the same way and leave related events. -/
def Coupled (E : Value → Value → Prop) (x y : Run α) : Prop :=
  ∀ event event', E event event' →
    (x.on event).1 = (y.on event').1 ∧ E (x.on event).2 (y.on event').2

/-- The step leaves an event of which `I` is true, if it was true before. -/
def Keeps (I : Value → Prop) (x : Run α) : Prop :=
  ∀ event, I event → I (x.on event).2

/-- One and the same event, of which `I` is true. -/
def Itself (I : Value → Prop) (event event' : Value) : Prop :=
  event' = event ∧ I event

/-- Keeping something true is being coupled with oneself. -/
theorem coupled_self {x : Run α} : Coupled (Itself I) x x ↔ Keeps I x := by
  constructor
  · intro h event hI
    exact (h event event ⟨rfl, hI⟩).2.2
  · intro h event event' hE
    rw [hE.1]
    exact ⟨rfl, rfl, h event hE.2⟩

/-- A step that does not look at the event. -/
theorem coupled_of_blind {x : Run α} (r : Except Fault α) (h : ∀ event, x.on event = (r, event)) :
    Coupled E x x := by
  intro event event' hE
  rw [h event, h event']
  exact ⟨rfl, hE⟩

theorem coupled_pure (a : α) : Coupled E (pure a) (pure a) :=
  coupled_of_blind (.ok a) fun _ => rfl

theorem coupled_fault (cause : FaultCause) (span : Span) :
    Coupled E (fault cause span : Run α) (fault cause span) :=
  coupled_of_blind (.error ⟨cause, some span⟩) fun _ => rfl

theorem coupled_truth (op : BinaryOp) (span : Span) (v : Value) :
    Coupled E (truth op span v) (truth op span v) := by
  cases v with
  | boolean b => exact coupled_pure b
  | _ => exact coupled_fault _ span

theorem coupled_condition (span : Span) (v : Value) : Coupled E (condition span v) (condition span v) := by
  cases v with
  | boolean b => exact coupled_pure b
  | _ => exact coupled_fault _ span

theorem coupled_ofOperator (span : Span) (r : Except OperatorError Value) :
    Coupled E (ofOperator span r) (ofOperator span r) := by
  cases r with
  | ok v => exact coupled_pure v
  | error e => exact coupled_fault e.cause span

/-- Steps after each other.  The second ones have to be coupled only for what the first can end with. -/
theorem coupled_bind_of_on {x y : Run α} {f g : α → Run β} (hx : Coupled E x y)
    (hf : ∀ a event event', x.on event = (.ok a, event') → Coupled E (f a) (g a)) :
    Coupled E (x >>= f) (y >>= g) := by
  intro event event' hE
  obtain ⟨hresult, hevent⟩ := hx event event' hE
  rw [on_bind, on_bind]
  -- the first steps end alike: both runs stop here with one fault, or both go on with one value
  rcases hon : x.on event with ⟨e | a, event₁⟩
  · rcases hon' : y.on event' with ⟨e' | a', event₁'⟩
    · rw [hon, hon'] at hresult hevent
      obtain rfl : e = e' := Except.error.inj hresult
      exact ⟨rfl, hevent⟩
    · rw [hon, hon'] at hresult
      cases hresult
  · rcases hon' : y.on event' with ⟨e' | a', event₁'⟩
    · rw [hon, hon'] at hresult
      cases hresult
    · rw [hon, hon'] at hresult hevent
      obtain rfl : a = a' := Except.ok.inj hresult
      exact hf a event event₁ hon event₁ event₁' hevent

theorem coupled_bind {x y : Run α} {f g : α → Run β} (hx : Coupled E x y)
    (hf : ∀ a, Coupled E (f a) (g a)) : Coupled E (x >>= f) (y >>= g) :=
  coupled_bind_of_on hx fun a _ _ _ => hf a

theorem coupled_mapM {f g : α → Run β} {xs : List α} (h : ∀ x ∈ xs, Coupled E (f x) (g x)) :
    Coupled E (xs.mapM f) (xs.mapM g) := by
  induction xs with
  | nil => exact coupled_pure []
  | cons x rest ih =>
    rw [List.mapM_cons, List.mapM_cons]
    refine coupled_bind (h x List.mem_cons_self) ?_
    intro y
    refine coupled_bind (ih fun x' hx' => h x' (List.mem_cons_of_mem x hx')) ?_
    intro ys
    exact coupled_pure (y :: ys)

theorem Keeps.of_on {x : Run α} (h : Keeps I x) {event event' : Value} {r : Except Fault α}
    (hon : x.on event = (r, event')) (hI : I event) : I event' := by
  have hkept := h event hI
  rwa [hon] at hkept

/-- A write that is not refused puts the new value at its place; the root only takes an object. -/
theorem keeps_write {p : Path} {v : Value}
    (h : ∀ event old event', event.insert p v = .ok (old, event') → (p = [] → v.kind = .object) →
      I event → I event') (span : Span) : Keeps I (write p v span) := by
  intro event hI
  unfold write
  split
  · exact hI
  · rename_i hguard
    rw [on_bind, on_get]
    dsimp only
    split
    · rename_i old event' hinsert
      exact h event old event' hinsert (fun hp => by simpa [hp] using hguard) hI
    · exact hI

end Run

/-! ### What a part of a program does itself -/

namespace Run

/-- Related events have the same at the place. -/
def ReadAlike (E : Value → Value → Prop) (p : Path) : Prop :=
  ∀ event event', E event event' → event.get? p = event'.get? p

/-- Related events stay related when the same is written at the place. -/
def WriteAlike (E : Value → Value → Prop) (p : Path) : Prop :=
  ∀ v span, Coupled E (write p v span) (write p v span)

/-- Related events stay related when the function is called on them, and it gives the same.  The arguments were
read from the places where the inputs are. -/
def CallAlike (E : Value → Value → Prop) (s s' : Surroundings) (f : Function) (inputs : List (Input Node)) :
    Prop :=
  (∀ p ∈ inputs.filterMap Input.place?, ReadAlike E p) ∧
    ∀ span args, args.map (·.place) = inputs.map Input.place? →
      Coupled E (invoke s f span args) (invoke s' f span args)

variable {E : Value → Value → Prop} {I : Value → Prop}

theorem readAlike_self (p : Path) : ReadAlike (Itself I) p := by
  intro event event' hE
  rw [hE.1]

theorem ReadAlike.coupled {p : Path} (h : ReadAlike E p) {α : Type} (f : Option Value → α) :
    Coupled E (do return f ((← get).get? p)) (do return f ((← get).get? p)) := by
  intro event event' hE
  have hread : f (event.get? p) = f (event'.get? p) := congrArg f (h event event' hE)
  exact ⟨congrArg Except.ok hread, hE⟩

end Run

namespace Node

open Run

/-- What the node itself reads, writes and calls is alike in related events. -/
def ActAlike (E : Value → Value → Prop) (s s' : Surroundings) : Node → Prop
  | path _ p => ReadAlike E p
  | assign _ target _ => WriteAlike E target
  | assignPair _ ok err f inputs => WriteAlike E ok ∧ WriteAlike E err ∧ CallAlike E s s' f inputs
  | call _ f _ inputs => CallAlike E s s' f inputs
  | _ => True

/-! ### Evaluations -/

variable {E : Value → Value → Prop} {I : Value → Prop} {s s' : Surroundings}

theorem evalItems_coupled {items : List Node} (h : ∀ n ∈ items, Coupled E (eval s n) (eval s' n)) :
    Coupled E (evalItems s items) (evalItems s' items) := by
  rw [evalItems_eq_mapM, evalItems_eq_mapM]
  exact coupled_mapM h

theorem evalEntries_coupled {entries : List (String × Node)}
    (h : ∀ k n, (k, n) ∈ entries → Coupled E (eval s n) (eval s' n)) :
    Coupled E (evalEntries s entries) (evalEntries s' entries) := by
  rw [evalEntries_eq_mapM, evalEntries_eq_mapM]
  refine coupled_mapM ?_
  intro entry hentry
  exact coupled_bind (h entry.1 entry.2 hentry) fun v => coupled_pure (entry.1, v)

theorem evalInput_coupled {input : Input Node} (hread : ∀ p, input.place? = some p → ReadAlike E p)
    (h : ∀ n, input = .value n → Coupled E (eval s n) (eval s' n)) :
    Coupled E (evalInput s input) (evalInput s' input) := by
  cases input with
  | path p => exact (hread p rfl).coupled (Argument.ofPlace p)
  | value n =>
    cases n with
    | path span p => exact (hread p rfl).coupled (Argument.ofPlace p)
    | _ => exact coupled_bind (h _ rfl) fun v => coupled_pure (Argument.ofValue v)

theorem evalInputs_coupled {inputs : List (Input Node)}
    (hread : ∀ p ∈ inputs.filterMap Input.place?, ReadAlike E p)
    (h : ∀ n, .value n ∈ inputs → Coupled E (eval s n) (eval s' n)) :
    Coupled E (evalInputs s inputs) (evalInputs s' inputs) := by
  rw [evalInputs_eq_mapM, evalInputs_eq_mapM]
  refine coupled_mapM fun input hinput => ?_
  refine evalInput_coupled (fun p hp => hread p (List.mem_filterMap.2 ⟨input, hinput, hp⟩)) ?_
  rintro n rfl
  exact h n hinput

theorem evalBody_coupled {body : List Node} (h : ∀ n ∈ body, Coupled E (eval s n) (eval s' n)) (last : Value) :
    Coupled E (evalBody s last body) (evalBody s' last body) := by
  induction body generalizing last with
  | nil => exact coupled_pure last
  | cons n rest ih =>
    rw [evalBody, evalBody]
    refine coupled_bind (h n List.mem_cons_self) ?_
    intro v
    exact ih (fun m hm => h m (List.mem_cons_of_mem n hm)) v

theorem store_coupled {ok err : Path} (hok : WriteAlike E ok) (herr : WriteAlike E err) (span : Span)
    (r : Except Failure Value) : Coupled E (store ok err span r) (store ok err span r) := by
  cases r with
  | ok v | error e =>
    refine coupled_bind (hok _ span) fun _ => ?_
    exact coupled_bind (herr _ span) fun _ => coupled_pure _

/-- Arguments that are evaluated, and the function called on them. -/
theorem invocation_coupled {f : Function} {inputs : List (Input Node)} (hf : CallAlike E s s' f inputs)
    (h : ∀ n, .value n ∈ inputs → Coupled E (eval s n) (eval s' n)) (span : Span) {α : Type}
    {k : Except Failure Value → Run α} (hk : ∀ r, Coupled E (k r) (k r)) :
    Coupled E (do let args ← evalInputs s inputs; k (← invoke s f span args))
      (do let args ← evalInputs s' inputs; k (← invoke s' f span args)) := by
  refine coupled_bind_of_on (evalInputs_coupled hf.1 h) ?_
  intro args event event' hargs
  have hplaces : args.map (·.place) = inputs.map Input.place? := places_of_evalInputs hargs
  exact coupled_bind (hf.2 span args hplaces) hk

/-- Evaluations of a node whose parts act alike are coupled. -/
theorem eval_coupled (n : Node) : (∀ m ∈ n.parts, m.ActAlike E s s') → Coupled E (eval s n) (eval s' n) := by
  induction n using Node.induct with
  | constant span v => exact fun _ => coupled_pure v
  | path span p =>
    intro h
    have hread : ReadAlike E p := h (path span p) (mem_parts_self _)
    exact hread.coupled (·.getD .null)
  | array span items ih =>
    intro h
    rw [parts] at h
    have hitems : ∀ n ∈ items, Coupled E (eval s n) (eval s' n) := fun n hn =>
      ih n hn fun m hm => h m (List.mem_cons_of_mem _ (mem_partsAll.2 ⟨n, hn, hm⟩))
    rw [eval, eval]
    exact coupled_bind (evalItems_coupled hitems) fun vs => coupled_pure (Value.array vs)
  | object span entries ih =>
    intro h
    rw [parts] at h
    have hentries : ∀ k n, (k, n) ∈ entries → Coupled E (eval s n) (eval s' n) := fun k n hn =>
      ih k n hn fun m hm => h m (List.mem_cons_of_mem _ (mem_partsEntries.2 ⟨k, n, hn, hm⟩))
    rw [eval, eval]
    exact coupled_bind (evalEntries_coupled hentries) fun vs => coupled_pure _
  | access span base p ih =>
    intro h
    rw [parts] at h
    have hbase : Coupled E (eval s base) (eval s' base) := ih fun m hm => h m (List.mem_cons_of_mem _ hm)
    rw [eval, eval]
    exact coupled_bind hbase fun v => coupled_pure _
  | assign span target value ih =>
    intro h
    have hwrite : WriteAlike E target := h (assign span target value) (mem_parts_self _)
    rw [parts] at h
    have hvalue : Coupled E (eval s value) (eval s' value) := ih fun m hm => h m (List.mem_cons_of_mem _ hm)
    rw [eval, eval]
    refine coupled_bind hvalue ?_
    intro v
    exact coupled_bind (hwrite v span) fun _ => coupled_pure v
  | assignPair span ok err f inputs ih =>
    intro h
    obtain ⟨hok, herr, hcall⟩ : WriteAlike E ok ∧ WriteAlike E err ∧ CallAlike E s s' f inputs :=
      h (assignPair span ok err f inputs) (mem_parts_self _)
    rw [parts] at h
    have hinputs : ∀ n, .value n ∈ inputs → Coupled E (eval s n) (eval s' n) := fun n hn =>
      ih n hn fun m hm => h m (List.mem_cons_of_mem _ (mem_partsInputs.2 ⟨n, hn, hm⟩))
    rw [eval_assignPair, eval_assignPair]
    exact invocation_coupled hcall hinputs span fun r => store_coupled hok herr span r
  | call span f aborts inputs ih =>
    intro h
    have hcall : CallAlike E s s' f inputs := h (call span f aborts inputs) (mem_parts_self _)
    rw [parts] at h
    have hinputs : ∀ n, .value n ∈ inputs → Coupled E (eval s n) (eval s' n) := fun n hn =>
      ih n hn fun m hm => h m (List.mem_cons_of_mem _ (mem_partsInputs.2 ⟨n, hn, hm⟩))
    rw [eval, eval]
    refine invocation_coupled hcall hinputs span ?_
    intro r
    cases r with
    | ok v => exact coupled_pure v
    | error e => exact coupled_fault _ span
  | binary span op left right ihl ihr =>
    intro h
    rw [parts] at h
    have hl := ihl fun m hm => h m (List.mem_cons_of_mem _ (List.mem_append_left _ hm))
    have hr := ihr fun m hm => h m (List.mem_cons_of_mem _ (List.mem_append_right _ hm))
    cases hlazy : op.isLazy with
    | false =>
      rw [eval_binary s span hlazy, eval_binary s' span hlazy]
      refine coupled_bind hl ?_
      intro l
      exact coupled_bind hr fun r => coupled_ofOperator span _
    | true =>
      -- both runs see the same left operand, so they agree on whether the right one is needed
      rw [eval_lazy s span hlazy, eval_lazy s' span hlazy]
      refine coupled_bind hl ?_
      intro l
      refine coupled_bind (coupled_truth op _ l) ?_
      intro b
      split
      · refine coupled_bind hr ?_
        intro r
        exact coupled_bind (coupled_truth op _ r) fun _ => coupled_pure _
      · exact coupled_pure _
  | unary span op operand ih =>
    intro h
    rw [parts] at h
    have hoperand : Coupled E (eval s operand) (eval s' operand) :=
      ih fun m hm => h m (List.mem_cons_of_mem _ hm)
    rw [eval, eval]
    exact coupled_bind hoperand fun v => coupled_ofOperator span _
  | branch span c body alternative ihc ihb iha =>
    intro h
    have hparts : ∀ m, (m ∈ c.parts ∨ m ∈ partsAll body ∨ ∃ n, alternative = some n ∧ m ∈ n.parts) →
        m.ActAlike E s s' :=
      fun m hm => h m (mem_parts_branch.2 (.inr hm))
    have hcondition : Coupled E (eval s c) (eval s' c) := ihc fun m hm => hparts m (.inl hm)
    have hbody : ∀ n ∈ body, Coupled E (eval s n) (eval s' n) := fun n hn =>
      ihb n hn fun m hm => hparts m (.inr (.inl (mem_partsAll.2 ⟨n, hn, hm⟩)))
    rw [eval_branch, eval_branch]
    refine coupled_bind hcondition ?_
    intro v
    refine coupled_bind (coupled_condition _ v) ?_
    intro b
    -- the condition has one value in both runs, so they take the same branch
    split
    · exact evalBody_coupled hbody .null
    · cases alternative with
      | none => exact coupled_pure _
      | some n => exact iha n rfl fun m hm => hparts m (.inr (.inr ⟨n, rfl, hm⟩))
  | block span body ih =>
    intro h
    rw [parts] at h
    have hbody : ∀ n ∈ body, Coupled E (eval s n) (eval s' n) := fun n hn =>
      ih n hn fun m hm => h m (List.mem_cons_of_mem _ (mem_partsAll.2 ⟨n, hn, hm⟩))
    rw [eval, eval]
    exact evalBody_coupled hbody .null

/-! ### One run -/

theorem callAlike_self {f : Function} {inputs : List (Input Node)}
    (hremove : ∀ t ∈ f.removed inputs, ∀ event, I event → I (event.remove t).2) :
    CallAlike (Itself I) s s f inputs := by
  refine ⟨fun p _ => readAlike_self p, fun span args hplaces => ?_⟩
  refine coupled_self.2 fun event hI => ?_
  rw [on_invoke]
  unfold Function.call
  split
  · exact hI
  · exact hI
  · exact hI
  · exact hI
  · rename_i hbody
    split
    · rename_i p hp
      -- the place that is removed is the one that the first argument was read from
      rw [place?_zero_of_places hplaces] at hp
      exact hremove p (Function.mem_removed.2 ⟨hbody, hp⟩) event hI
    · exact hI

/-- Whatever every write and every removal at a target of the node keeps true of the event is kept true by the
evaluation of the node. -/
theorem eval_keeps {n : Node}
    (hwrite : ∀ m ∈ n.parts, ∀ t ∈ m.ownTargets, ∀ v span, Run.Keeps I (write t v span))
    (hremove : ∀ m ∈ n.parts, ∀ t ∈ m.ownTargets, ∀ event, I event → I (event.remove t).2) :
    Run.Keeps I (eval s n) := by
  refine coupled_self.1 (eval_coupled n fun m hm => ?_)
  -- one run reads the same as itself everywhere, so only the targets matter
  have hwrite' : ∀ t ∈ m.ownTargets, WriteAlike (Itself I) t :=
    fun t ht v span => coupled_self.2 (hwrite m hm t ht v span)
  cases m with
  | path span p => exact readAlike_self p
  | assign span target value => exact hwrite' target (by simp [ownTargets])
  | assignPair span ok err f inputs =>
    refine ⟨hwrite' ok (by simp [ownTargets]), hwrite' err (by simp [ownTargets]), callAlike_self fun t ht => ?_⟩
    exact hremove _ hm t (by simp [ownTargets, ht])
  | call span f aborts inputs => exact callAlike_self fun t ht => hremove _ hm t ht
  | _ => trivial

theorem evalBody_keeps {body : List Node} (h : ∀ n ∈ body, Run.Keeps I (eval s n)) (last : Value) :
    Run.Keeps I (evalBody s last body) :=
  coupled_self.1 (evalBody_coupled (fun n hn => coupled_self.2 (h n hn)) last)

/-- What every node keeps true is true of each event that an evaluation reaches. -/
theorem Reaches.keeps (hI : ∀ n : Node, Run.Keeps I (eval s n)) {n m : Node} {event event' : Value}
    (h : n.Reaches s event m event') : I event → I event' := by
  have hitems : ∀ items, Run.Keeps I (evalItems s items) := fun items =>
    coupled_self.1 (evalItems_coupled fun n _ => coupled_self.2 (hI n))
  have hentries : ∀ entries, Run.Keeps I (evalEntries s entries) := fun entries =>
    coupled_self.1 (evalEntries_coupled fun _ n _ => coupled_self.2 (hI n))
  have hinputs : ∀ inputs, Run.Keeps I (evalInputs s inputs) := fun inputs =>
    coupled_self.1 (evalInputs_coupled (fun p _ => readAlike_self p) fun n _ => coupled_self.2 (hI n))
  have hbody : ∀ body last, Run.Keeps I (evalBody s last body) := fun body =>
    evalBody_keeps fun n _ => hI n
  -- the event changes only while the parts before the reached one are evaluated
  induction h with
  | self => exact id
  | array hbefore _ ih => exact fun hev => ih ((hitems _).of_on hbefore hev)
  | object hbefore _ ih => exact fun hev => ih ((hentries _).of_on hbefore hev)
  | assignPair hbefore _ ih | call hbefore _ ih => exact fun hev => ih ((hinputs _).of_on hbefore hev)
  | access _ ih | assign _ ih | unary _ ih | left _ ih | condition _ ih => exact ih
  | right hleft _ _ ih => exact fun hev => ih ((hI _).of_on hleft hev)
  | body hcondition hbefore _ ih =>
    exact fun hev => ih ((hbody _ _).of_on hbefore ((hI _).of_on hcondition hev))
  | alternative hcondition _ ih => exact fun hev => ih ((hI _).of_on hcondition hev)
  | block hbefore _ ih => exact fun hev => ih ((hbody _ _).of_on hbefore hev)

end Node

end Reshape
