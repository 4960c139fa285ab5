/-
Where a fault comes from.

Evaluating a node evaluates nodes in it, each on the event as it stands then: `Node.Reaches` relates the two
pairs of node and event.  A node `Raises` a fault itself when the nodes it is made of have been evaluated and
what it does with their values fails.

* `Node.exists_raises` — the fault of an evaluation was raised by a node that the evaluation reached;
* `Program.exists_raises` — so was the fault of a run.
-/
import Reshape.Proofs.Run

namespace Reshape

namespace Run

/-- The end of an assignment to two places, once its function gave a value or failed. -/
def store (ok err : Path) (span : Span) : Except Failure Value → Run Value
  | .ok v => do
    write ok v span
    write err .null span
    return v
  | .error e => do
    write ok .null span
    write err (.string e.message) span
    return .null

@[simp] theorem on_invoke (s : Surroundings) (f : Function) (span : Span) (args : Arguments)
    (event : Value) :
    (invoke s f span args).on event =
      (.ok (f.call s span.start event args).1, (f.call s span.start event args).2) := rfl

end Run

/-- Whether an operator goes on to its right operand. -/
def BinaryOp.needsRight : BinaryOp → Value → Bool
  | .and, .boolean b => b
  | .or, .boolean b => !b
  | .and, _ | .or, _ => false
  | _, _ => true

/-- The operator decides itself which operands to evaluate. -/
def BinaryOp.isLazy : BinaryOp → Bool
  | .and | .or => true
  | _ => false

/-- Operators that are not lazy always go on. -/
theorem needsRight_of_isLazy {op : BinaryOp} (h : op.isLazy = false) (v : Value) :
    op.needsRight v = true := by
  cases op with
  | and | or => cases h
  | _ => rfl

namespace Node

open Run

theorem eval_assignPair (s : Surroundings) (span : Span) (ok err : Path) (f : Function)
    (inputs : List (Input Node)) :
    eval s (assignPair span ok err f inputs) = (do
      let args ← evalInputs s inputs
      store ok err span (← invoke s f span args)) := by
  rw [eval]
  refine congrArg (evalInputs s inputs >>= ·) (funext fun args => ?_)
  refine congrArg (invoke s f span args >>= ·) (funext fun result => ?_)
  rcases result with e | v
  · rfl
  · rfl

theorem eval_binary (s : Surroundings) (span : Span) {op : BinaryOp} (h : op.isLazy = false)
    (left right : Node) :
    eval s (binary span op left right) = (do
      let l ← eval s left
      let r ← eval s right
      ofOperator span (op.apply l r)) := by
  cases op with
  | and | or => cases h
  | _ => rw [eval] <;> intro h <;> cases h

theorem eval_lazy (s : Surroundings) (span : Span) {op : BinaryOp} (h : op.isLazy = true)
    (left right : Node) :
    eval s (binary span op left right) = (do
      let b ← truth op left.span (← eval s left)
      if op.needsRight (.boolean b) then return .boolean (← truth op right.span (← eval s right))
      else return .boolean b) := by
  cases op with
  | and =>
    rw [eval]
    refine congrArg (eval s left >>= ·) (funext fun l => ?_)
    refine congrArg (truth .and left.span l >>= ·) (funext fun b => ?_)
    cases b <;> rfl
  | or =>
    rw [eval]
    refine congrArg (eval s left >>= ·) (funext fun l => ?_)
    refine congrArg (truth .or left.span l >>= ·) (funext fun b => ?_)
    cases b <;> rfl
  | _ => cases h

theorem eval_branch (s : Surroundings) (span : Span) (c : Node) (body : List Node)
    (alternative : Option Node) :
    eval s (branch span c body alternative) = (do
      if ← condition c.span (← eval s c) then evalBody s .null body
      else alternative.elim (return .null) (eval s)) := by
  cases alternative with
  | none => rw [eval]; rfl
  | some n => rw [eval]; rfl

/-- Evaluating the first node on the first event evaluates the second on the second. -/
inductive Reaches (s : Surroundings) : Node → Value → Node → Value → Prop
  | self (n event) : Reaches s n event n event
  | array {span before n after event vs event₁ m event'} :
    (evalItems s before).on event = (.ok vs, event₁) → Reaches s n event₁ m event' →
      Reaches s (array span (before ++ n :: after)) event m event'
  | object {span before k n after event vs event₁ m event'} :
    (evalEntries s before).on event = (.ok vs, event₁) → Reaches s n event₁ m event' →
      Reaches s (object span (before ++ (k, n) :: after)) event m event'
  | access {span base p event m event'} :
    Reaches s base event m event' → Reaches s (access span base p) event m event'
  | assign {span target value event m event'} :
    Reaches s value event m event' → Reaches s (assign span target value) event m event'
  | assignPair {span ok err f before n after event args event₁ m event'} :
    (evalInputs s before).on event = (.ok args, event₁) → Reaches s n event₁ m event' →
      Reaches s (assignPair span ok err f (before ++ .value n :: after)) event m event'
  | call {span f aborts before n after event args event₁ m event'} :
    (evalInputs s before).on event = (.ok args, event₁) → Reaches s n event₁ m event' →
      Reaches s (call span f aborts (before ++ .value n :: after)) event m event'
  | left {span op left right event m event'} :
    Reaches s left event m event' → Reaches s (binary span op left right) event m event'
  | right {span op left right event l event₁ m event'} :
    (eval s left).on event = (.ok l, event₁) → op.needsRight l = true →
      Reaches s right event₁ m event' → Reaches s (binary span op left right) event m event'
  | unary {span op operand event m event'} :
    Reaches s operand event m event' → Reaches s (unary span op operand) event m event'
  | condition {span condition body alternative event m event'} :
    Reaches s condition event m event' → Reaches s (branch span condition body alternative) event m event'
  | body {span condition before n after alternative event event₁ v event₂ m event'} :
    (eval s condition).on event = (.ok (.boolean true), event₁) →
      (evalBody s .null before).on event₁ = (.ok v, event₂) → Reaches s n event₂ m event' →
        Reaches s (branch span condition (before ++ n :: after) alternative) event m event'
  | alternative {span condition body n event event₁ m event'} :
    (eval s condition).on event = (.ok (.boolean false), event₁) → Reaches s n event₁ m event' →
      Reaches s (branch span condition body (some n)) event m event'
  | block {span before n after event v event₁ m event'} :
    (evalBody s .null before).on event = (.ok v, event₁) → Reaches s n event₁ m event' →
      Reaches s (block span (before ++ n :: after)) event m event'

/-- The function that a node calls fails; the last event is the one that the call leaves. -/
inductive Fails (s : Surroundings) : Node → Value → Function → Failure → Value → Prop
  | call {span f aborts inputs event args event₁ e event₂} :
    (evalInputs s inputs).on event = (.ok args, event₁) →
      f.call s span.start event₁ args = (.error e, event₂) →
        Fails s (call span f aborts inputs) event f e event₂
  | assignPair {span ok err f inputs event args event₁ e event₂} :
    (evalInputs s inputs).on event = (.ok args, event₁) →
      f.call s span.start event₁ args = (.error e, event₂) →
        Fails s (assignPair span ok err f inputs) event f e event₂

/-- The node itself faults, on the values of the nodes it is made of. -/
inductive Raises (s : Surroundings) : Node → Value → Fault → Prop
  | announced {span f inputs event e event'} :
    Fails s (call span f true inputs) event f e event' →
      Raises s (call span f true inputs) event ⟨.abortedCall f.name e, some span⟩
  | unannounced {span f inputs event e event'} :
    Fails s (call span f false inputs) event f e event' →
      Raises s (call span f false inputs) event ⟨Run.unannounced f.name e, some span⟩
  | assign {span target value event v event₁ fault event₂} :
    (eval s value).on event = (.ok v, event₁) →
      (write target v span).on event₁ = (.error fault, event₂) →
        Raises s (assign span target value) event fault
  | assignPair {span ok err f inputs event args event₁ fault event₂} :
    (evalInputs s inputs).on event = (.ok args, event₁) →
      (store ok err span (f.call s span.start event₁ args).1).on (f.call s span.start event₁ args).2 =
        (.error fault, event₂) →
        Raises s (assignPair span ok err f inputs) event fault
  | left {span op left right event l event₁ fault event₂} : op.isLazy = true →
    (eval s left).on event = (.ok l, event₁) →
      (truth op left.span l).on event₁ = (.error fault, event₂) →
        Raises s (binary span op left right) event fault
  | right {span op left right event l event₁ r event₂ fault event₃} : op.isLazy = true →
    (eval s left).on event = (.ok l, event₁) → op.needsRight l = true →
      (eval s right).on event₁ = (.ok r, event₂) →
        (truth op right.span r).on event₂ = (.error fault, event₃) →
          Raises s (binary span op left right) event fault
  | binary {span op left right event l event₁ r event₂ e} : op.isLazy = false →
    (eval s left).on event = (.ok l, event₁) → (eval s right).on event₁ = (.ok r, event₂) →
      op.apply l r = .error e → Raises s (binary span op left right) event ⟨e.cause, some span⟩
  | unary {span op operand event v event₁ e} : (eval s operand).on event = (.ok v, event₁) →
    op.apply v = .error e → Raises s (unary span op operand) event ⟨e.cause, some span⟩
  | condition {span c body alternative event v event₁ fault event₂} :
    (eval s c).on event = (.ok v, event₁) → (condition c.span v).on event₁ = (.error fault, event₂) →
      Raises s (branch span c body alternative) event fault

theorem ofOperator_on_error {span : Span} {r : Except OperatorError Value} {event : Value} {fault : Fault}
    {event' : Value} (h : (ofOperator span r).on event = (.error fault, event')) :
    ∃ e, r = .error e ∧ fault = ⟨e.cause, some span⟩ := by
  rcases r with e | v
  · simp only [ofOperator, on_fault, Prod.mk.injEq, Except.error.injEq] at h
    exact ⟨e, rfl, h.1.symm⟩
  · simp [ofOperator] at h

/-- An operand of a logical operator that is no fault is a truth value. -/
theorem truth_on_ok {op : BinaryOp} {span : Span} {v event event' : Value} {b : Bool}
    (h : (truth op span v).on event = (.ok b, event')) : v = .boolean b ∧ event' = event := by
  cases v with
  | boolean c =>
    simp only [truth, on_pure, Prod.mk.injEq, Except.ok.injEq] at h
    exact ⟨by rw [h.1], h.2.symm⟩
  | _ => simp [truth] at h

theorem condition_on_ok {span : Span} {v event event' : Value} {b : Bool}
    (h : (condition span v).on event = (.ok b, event')) : v = .boolean b ∧ event' = event := by
  cases v with
  | boolean c =>
    simp only [condition, on_pure, Prod.mk.injEq, Except.ok.injEq] at h
    exact ⟨by rw [h.1], h.2.symm⟩
  | _ => simp [condition] at h

/-- The fault of an argument is that of the node it is computed by. -/
theorem evalInput_on_error {s : Surroundings} {input : Input Node} {event event' : Value} {fault : Fault}
    (h : (evalInput s input).on event = (.error fault, event')) :
    ∃ n, input = .value n ∧ (eval s n).on event = (.error fault, event') := by
  cases input with
  | path p => simp [evalInput, Except.map] at h
  | value n =>
    refine ⟨n, rfl, ?_⟩
    unfold evalInput at h
    split at h
    · simp [Except.map] at h
    · simp [Except.map] at h
    · rename_i heq
      obtain rfl := Input.value.inj heq
      rw [on_bind_error] at h
      rcases h with h | ⟨v, event₁, -, h⟩
      · exact h
      · simp at h

theorem evalInputs_on_error {s : Surroundings} {inputs : List (Input Node)} {event event' : Value}
    {fault : Fault} (h : (evalInputs s inputs).on event = (.error fault, event')) :
    ∃ before n after args event₁, inputs = before ++ .value n :: after ∧
      (evalInputs s before).on event = (.ok args, event₁) ∧
        (eval s n).on event₁ = (.error fault, event') := by
  rw [evalInputs_eq_mapM] at h
  obtain ⟨before, input, after, args, event₁, rfl, hbefore, hinput⟩ := mapM_on_error h
  obtain ⟨n, rfl, hn⟩ := evalInput_on_error hinput
  exact ⟨before, n, after, args, event₁, rfl, by rw [evalInputs_eq_mapM]; exact hbefore, hn⟩

/-- The faults of evaluating the node were raised by nodes that the evaluation reached. -/
def Blames (s : Surroundings) (n : Node) : Prop :=
  ∀ {event event' : Value} {fault : Fault}, (eval s n).on event = (.error fault, event') →
    ∃ m event₁, n.Reaches s event m event₁ ∧ m.Raises s event₁ fault

section Blames

variable {s : Surroundings}

theorem blames_array {span : Span} {items : List Node} (ih : ∀ n ∈ items, Blames s n) :
    Blames s (array span items) := by
  intro event event' fault h
  rw [eval, on_bind_error, evalItems_eq_mapM] at h
  rcases h with h | ⟨vs, event₁, -, h⟩
  · obtain ⟨before, n, after, vs, event₁, rfl, hbefore, hn⟩ := mapM_on_error h
    obtain ⟨m, event₂, hreach, hraise⟩ := ih n (by simp) hn
    exact ⟨m, event₂, .array (by rw [evalItems_eq_mapM]; exact hbefore) hreach, hraise⟩
  · simp at h

theorem blames_object {span : Span} {entries : List (String × Node)}
    (ih : ∀ k n, (k, n) ∈ entries → Blames s n) : Blames s (object span entries) := by
  intro event event' fault h
  rw [eval, on_bind_error, evalEntries_eq_mapM] at h
  rcases h with h | ⟨vs, event₁, -, h⟩
  · obtain ⟨before, ⟨k, n⟩, after, vs, event₁, rfl, hbefore, hentry⟩ := mapM_on_error h
    rw [evalEntry, on_bind_error] at hentry
    rcases hentry with hn | ⟨v, event₂, -, h⟩
    · obtain ⟨m, event₂, hreach, hraise⟩ := ih k n (by simp) hn
      exact ⟨m, event₂, .object (by rw [evalEntries_eq_mapM]; exact hbefore) hreach, hraise⟩
    · simp at h
  · simp at h

/-- A call faults in an argument, or because its function fails. -/
theorem blames_call {span : Span} {f : Function} {aborts : Bool} {inputs : List (Input Node)}
    (ih : ∀ n, .value n ∈ inputs → Blames s n) : Blames s (call span f aborts inputs) := by
  intro event event' fault h
  rw [eval, on_bind_error] at h
  rcases h with h | ⟨args, event₁, hargs, h⟩
  · obtain ⟨before, n, after, args, event₁, rfl, hbefore, hn⟩ := evalInputs_on_error h
    obtain ⟨m, event₂, hreach, hraise⟩ := ih n (by simp) hn
    exact ⟨m, event₂, .call hbefore hreach, hraise⟩
  · refine ⟨_, event, .self _ _, ?_⟩
    rw [on_bind, on_invoke] at h
    rcases hcall : f.call s span.start event₁ args with ⟨e | v, event₂⟩
    · cases aborts with
      | true =>
        obtain rfl : _ = fault := by simpa [hcall] using congrArg Prod.fst h
        exact .announced (.call hargs hcall)
      | false =>
        obtain rfl : _ = fault := by simpa [hcall] using congrArg Prod.fst h
        exact .unannounced (.call hargs hcall)
    · simp [hcall] at h

/-- An operator that computes both operands faults in one of them, or by itself. -/
theorem blames_binary {span : Span} {op : BinaryOp} {left right : Node} (hlazy : op.isLazy = false)
    (ihl : Blames s left) (ihr : Blames s right) : Blames s (binary span op left right) := by
  intro event event' fault h
  rw [eval_binary s span hlazy, on_bind_error] at h
  rcases h with h | ⟨l, event₁, hl, h⟩
  · obtain ⟨m, event₂, hreach, hraise⟩ := ihl h
    exact ⟨m, event₂, .left hreach, hraise⟩
  · rw [on_bind_error] at h
    rcases h with h | ⟨r, event₂, hr, h⟩
    · obtain ⟨m, event₂, hreach, hraise⟩ := ihr h
      exact ⟨m, event₂, .right hl (needsRight_of_isLazy hlazy l) hreach, hraise⟩
    · obtain ⟨e, he, rfl⟩ := ofOperator_on_error h
      exact ⟨_, event, .self _ _, .binary hlazy hl hr he⟩

/-- An operator that may skip its right operand faults at the left one, or at the right one where it is needed. -/
theorem blames_lazy {span : Span} {op : BinaryOp} {left right : Node} (hlazy : op.isLazy = true)
    (ihl : Blames s left) (ihr : Blames s right) : Blames s (binary span op left right) := by
  intro event event' fault h
  rw [eval_lazy s span hlazy, on_bind_error] at h
  rcases h with h | ⟨l, event₁, hl, h⟩
  · obtain ⟨m, event₂, hreach, hraise⟩ := ihl h
    exact ⟨m, event₂, .left hreach, hraise⟩
  · rw [on_bind_error] at h
    rcases h with h | ⟨b, event₂, hb, h⟩
    · exact ⟨_, event, .self _ _, .left hlazy hl h⟩
    · obtain ⟨rfl, rfl⟩ := truth_on_ok hb
      split at h
      · rename_i hneeds
        rw [on_bind_error] at h
        rcases h with h | ⟨r, event₂, hr, h⟩
        · obtain ⟨m, event₃, hreach, hraise⟩ := ihr h
          exact ⟨m, event₃, .right hl hneeds hreach, hraise⟩
        · rw [on_bind_error] at h
          rcases h with h | ⟨b', event₃, -, h⟩
          · exact ⟨_, event, .self _ _, .right hlazy hl hneeds hr h⟩
          · simp at h
      · simp at h

/-- A branch faults at its condition, or in the one body that it runs. -/
theorem blames_branch {span : Span} {c : Node} {body : List Node} {alternative : Option Node}
    (ihc : Blames s c) (ihb : ∀ n ∈ body, Blames s n) (iha : ∀ n, alternative = some n → Blames s n) :
    Blames s (branch span c body alternative) := by
  intro event event' fault h
  rw [eval_branch, on_bind_error] at h
  rcases h with h | ⟨v, event₁, hv, h⟩
  · obtain ⟨m, event₂, hreach, hraise⟩ := ihc h
    exact ⟨m, event₂, .condition hreach, hraise⟩
  · rw [on_bind_error] at h
    rcases h with h | ⟨b, event₂, hb, h⟩
    · exact ⟨_, event, .self _ _, .condition hv h⟩
    · obtain ⟨rfl, rfl⟩ := condition_on_ok hb
      cases b with
      | true =>
        obtain ⟨before, n, after, w, event₂, rfl, hbefore, hn⟩ := on_evalBody_error h
        obtain ⟨m, event₃, hreach, hraise⟩ := ihb n (by simp) hn
        exact ⟨m, event₃, .body hv hbefore hreach, hraise⟩
      | false =>
        cases alternative with
        | none => simp at h
        | some n =>
          obtain ⟨m, event₃, hreach, hraise⟩ := iha n rfl h
          exact ⟨m, event₃, .alternative hv hreach, hraise⟩

end Blames

/-- The fault of an evaluation was raised by a node that the evaluation reached. -/
theorem exists_raises (s : Surroundings) (n : Node) : Blames s n := by
  induction n using Node.induct with
  | constant span v => intro event event' fault h; simp [eval] at h
  | path span p => intro event event' fault h; simp [eval, Except.map] at h
  | array span items ih => exact blames_array ih
  | object span entries ih => exact blames_object ih
  | access span base p ih =>
    intro event event' fault h
    rw [eval, on_bind_error] at h
    rcases h with h | ⟨v, event₁, -, h⟩
    · obtain ⟨m, event₂, hreach, hraise⟩ := ih h
      exact ⟨m, event₂, .access hreach, hraise⟩
    · simp at h
  | assign span target value ih =>
    intro event event' fault h
    rw [eval, on_bind_error] at h
    rcases h with h | ⟨v, event₁, hv, h⟩
    · obtain ⟨m, event₂, hreach, hraise⟩ := ih h
      exact ⟨m, event₂, .assign hreach, hraise⟩
    · rw [on_bind_error] at h
      rcases h with h | ⟨-, event₂, -, h⟩
      · exact ⟨_, event, .self _ _, .assign hv h⟩
      · simp at h
  | assignPair span ok err f inputs ih =>
    intro event event' fault h
    rw [eval_assignPair, on_bind_error] at h
    rcases h with h | ⟨args, event₁, hargs, h⟩
    · obtain ⟨before, n, after, args, event₁, rfl, hbefore, hn⟩ := evalInputs_on_error h
      obtain ⟨m, event₂, hreach, hraise⟩ := ih n (by simp) hn
      exact ⟨m, event₂, .assignPair hbefore hreach, hraise⟩
    · -- the call itself is captured, so what is left to fault is the storing
      rw [on_bind, on_invoke] at h
      exact ⟨_, event, .self _ _, .assignPair hargs h⟩
  | call span f aborts inputs ih => exact blames_call ih
  | binary span op left right ihl ihr =>
    cases hlazy : op.isLazy with
    | false => exact blames_binary hlazy ihl ihr
    | true => exact blames_lazy hlazy ihl ihr
  | unary span op operand ih =>
    intro event event' fault h
    rw [eval, on_bind_error] at h
    rcases h with h | ⟨v, event₁, hv, h⟩
    · obtain ⟨m, event₂, hreach, hraise⟩ := ih h
      exact ⟨m, event₂, .unary hreach, hraise⟩
    · obtain ⟨e, he, rfl⟩ := ofOperator_on_error h
      exact ⟨_, event, .self _ _, .unary hv he⟩
  | branch span c body alternative ihc ihb iha => exact blames_branch ihc ihb iha
  | block span body ih =>
    intro event event' fault h
    rw [eval] at h
    obtain ⟨before, n, after, v, event₁, rfl, hbefore, hn⟩ := on_evalBody_error h
    obtain ⟨m, event₂, hreach, hraise⟩ := ih n (by simp) hn
    exact ⟨m, event₂, .block hbefore hreach, hraise⟩

end Node

/-- Running the program on the first event evaluates the node on the second. -/
def Program.Reaches (p : Program) (s : Surroundings) (event : Value) (m : Node) (event' : Value) : Prop :=
  ∃ before n after v event₁, p.statements = before ++ n :: after ∧
    (Node.evalBody s .null before).on event = (.ok v, event₁) ∧ n.Reaches s event₁ m event'

/-- A run on an object is the evaluation of its statements. -/
theorem Program.run_of_object (p : Program) (s : Surroundings) {event : Value} (h : event.kind = .object) :
    p.run s event =
      ⟨((Node.evalBody s .null p.statements).on event).1,
        ((Node.evalBody s .null p.statements).on event).2⟩ := by
  rw [Program.run, if_pos h]
  rfl

/-- The run completes the statements in front of this one, which ends in the fault. -/
def Program.FaultsIn (p : Program) (s : Surroundings) (event : Value) (n : Node) (fault : Fault) : Prop :=
  ∃ before after v event₁ event₂, p.statements = before ++ n :: after ∧
    (Node.evalBody s .null before).on event = (.ok v, event₁) ∧ (n.eval s).on event₁ = (.error fault, event₂)

theorem Program.exists_faultsIn (p : Program) (s : Surroundings) {event : Value} (hobj : event.kind = .object)
    {fault : Fault} (h : (p.run s event).result = .error fault) :
    ∃ n ∈ p.statements, p.FaultsIn s event n fault := by
  rw [p.run_of_object s hobj] at h
  obtain ⟨before, n, after, v, event₁, hsplit, hbefore, hn⟩ := Node.on_evalBody_error (Prod.ext h (Eq.refl _))
  exact ⟨n, by simp [hsplit], before, after, v, event₁, _, hsplit, hbefore, hn⟩

/-- The fault of a run was raised by a node that the run reached. -/
theorem Program.exists_raises (p : Program) (s : Surroundings) {event : Value} (hobj : event.kind = .object)
    {fault : Fault} (h : (p.run s event).result = .error fault) :
    ∃ m event', p.Reaches s event m event' ∧ m.Raises s event' fault := by
  obtain ⟨n, -, before, after, v, event₁, event₂, hsplit, hbefore, hn⟩ := p.exists_faultsIn s hobj h
  obtain ⟨m, event', hreach, hraise⟩ := n.exists_raises s hn
  exact ⟨m, event', ⟨before, n, after, v, event₁, hsplit, hbefore, hreach⟩, hraise⟩

end Reshape
