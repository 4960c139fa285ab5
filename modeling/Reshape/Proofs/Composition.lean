/-
Programs line after line.

Two texts that compile do so with a line break between them, and the run of both is the run of the one and then
of the other on the event it leaves.  Nothing of the first text reaches across the line break: no token, no
expression that could go on, no state but the event.

* `compile_append` — the statements of two texts with a line break between them;
* `Program.run_append` — statements after others, run;
* `compile_append_run` — both, for programs that look at nothing outside but the time zone.
-/
import Reshape.Proofs.Joining
import Reshape.Proofs.Root
import Reshape.Proofs.Steady

namespace Reshape

/-! ### Compiling -/

namespace Expr

open Resolution

theorem resolveAll_append {library : Library} :
    ∀ {es fs : List Expr} {ns ms : List Node}, (resolveAll library es).Gives ns →
      (resolveAll library fs).Gives ms → (resolveAll library (es ++ fs)).Gives (ns ++ ms)
  | [], fs, ns, ms, hns, hms => by
    rw [resolveAll, gives_pure] at hns
    subst hns
    exact hms
  | e :: rest, fs, ns, ms, hns, hms => by
    rw [resolveAll, gives_zipWith] at hns
    obtain ⟨n, others, hn, hothers, rfl⟩ := hns
    rw [List.cons_append, resolveAll, gives_zipWith]
    exact ⟨n, others ++ ms, hn, resolveAll_append hothers hms, rfl⟩

end Expr

/-- Two texts that compile, with a line break between them. -/
theorem compile_append {library : Library} {a b : String} {p q : Program} (hp : compile library a = .ok p)
    (hq : compile library b = .ok q) :
    compile library (a ++ "\n" ++ b) =
      .ok ⟨a ++ "\n" ++ b, p.statements ++ q.statements.map (·.shift (.past a))⟩ := by
  obtain ⟨hlexA, es, hparseA, -, hgivesA⟩ := compile_eq_ok.1 hp
  obtain ⟨hlexB, fs, hparseB, -, hgivesB⟩ := compile_eq_ok.1 hq
  obtain ⟨hlex, hparse⟩ := Expr.parse_append hlexA hlexB hparseA hparseB
  refine compile_eq_ok.2 ⟨hlex, _, hparse, rfl, Expr.resolveAll_append hgivesA ?_⟩
  rw [Expr.resolveAll_shift, ← Node.shiftAll_eq_map]
  exact hgivesB.move _ _

/-! ### Running -/

namespace Node

mutual

theorem shift_zero : ∀ n : Node, n.shift ⟨0, 0⟩ = n
  | constant _ _ | path _ _ => rfl
  | array _ items | block _ items => by rw [shift, shiftAll_zero items]; rfl
  | object _ entries => by rw [shift, shiftEntries_zero entries]; rfl
  | access _ n _ | assign _ _ n | unary _ _ n => by rw [shift, shift_zero n]; rfl
  | assignPair _ _ _ _ inputs | call _ _ _ inputs => by rw [shift, shiftInputs_zero inputs]; rfl
  | binary _ _ left right => by rw [shift, shift_zero left, shift_zero right]; rfl
  | branch _ condition body none => by rw [shift, shift_zero condition, shiftAll_zero body]; rfl
  | branch _ condition body (some alternative) => by
    rw [shift, shift_zero condition, shiftAll_zero body, shift_zero alternative]; rfl

theorem shiftAll_zero : ∀ ns : List Node, shiftAll ⟨0, 0⟩ ns = ns
  | [] => rfl
  | n :: rest => by rw [shiftAll, shift_zero n, shiftAll_zero rest]

theorem shiftEntries_zero : ∀ ns : List (String × Node), shiftEntries ⟨0, 0⟩ ns = ns
  | [] => rfl
  | (k, n) :: rest => by rw [shiftEntries, shift_zero n, shiftEntries_zero rest]

theorem shiftInputs_zero : ∀ inputs : List (Input Node), shiftInputs ⟨0, 0⟩ inputs = inputs
  | [] => rfl
  | .path p :: rest => by rw [shiftInputs, shiftInputs_zero rest]
  | .value n :: rest => by rw [shiftInputs, shift_zero n, shiftInputs_zero rest]

end

end Node

theorem Fault.shift_zero (f : Fault) : f.shift ⟨0, 0⟩ = f := by
  obtain ⟨cause, span⟩ := f
  cases span with
  | none => rfl
  | some span => rfl

theorem Run.shift_zero {α : Type} (x : Run α) : x.shift ⟨0, 0⟩ = x := by
  refine ext fun event => ?_
  rw [on_shift]
  rcases x.on event with ⟨e | a, event'⟩
  · simp [Except.mapError, Fault.shift_zero]
  · rfl

namespace Program

/-- The program looks at nothing outside but the time zone. -/
def Steady (p : Program) : Prop :=
  ∀ c ∈ p.callSites, c.function.Steady

theorem Steady.of_mem {p : Program} (h : p.Steady) {n : Node} (hn : n ∈ p.statements) :
    ∀ c ∈ n.callSites, c.function.Steady :=
  fun c hc => h c (Node.callSites_subset_all hn hc)

/-- The statements of a steady program, further down and at another time. -/
theorem Steady.evalBody_shift {p : Program} (h : p.Steady) {s s' : Surroundings} (hzone : s'.zone = s.zone)
    (δ : Shift) (last : Value) :
    Node.evalBody s' last (p.statements.map (·.shift δ)) = (Node.evalBody s last p.statements).shift δ := by
  rw [← Node.shiftAll_eq_map]
  exact Node.evalBody_shift δ (fun n hn => Node.eval_shift δ hzone n (h.of_mem hn)) last

/-- One program and then another, which stands further down, on the event that the first leaves.  The second
is not run after a fault, and without statements it has no result of its own. -/
def runThen (p q : Program) (δ : Shift) (s s' : Surroundings) (event : Value) : Outcome :=
  match p.run s event with
  | ⟨.error fault, event'⟩ => ⟨.error fault, event'⟩
  | ⟨.ok v, event'⟩ =>
    if q.statements.isEmpty then ⟨.ok v, event'⟩
    else ⟨(q.run s' event').result.mapError (·.shift δ), (q.run s' event').event⟩

/-- The statements of one program and those of another further down, run. -/
theorem run_append {p q : Program} (hp : p.Steady) (hq : q.Steady) (source : String) (δ : Shift)
    {s s₁ s₂ : Surroundings} (h₁ : s₁.zone = s.zone) (h₂ : s₂.zone = s.zone) {event : Value}
    (hobj : event.kind = .object) :
    (⟨source, p.statements ++ q.statements.map (·.shift δ)⟩ : Program).run s event =
      p.runThen q δ s₁ s₂ event := by
  -- a shift by nothing changes only the time and the seed
  have hfirst : Node.evalBody s .null p.statements = Node.evalBody s₁ .null p.statements := by
    have hshift := hp.evalBody_shift h₁.symm ⟨0, 0⟩ .null
    rwa [Run.shift_zero, ← Node.shiftAll_eq_map, Node.shiftAll_zero] at hshift
  have hobj' := p.run_event s₁ hobj
  rw [run_of_object _ s hobj]
  dsimp only
  rw [Node.evalBody_append, Run.on_bind, hfirst]
  rw [p.run_of_object s₁ hobj] at hobj'
  rw [runThen, p.run_of_object s₁ hobj]
  rcases hon : (Node.evalBody s₁ .null p.statements).on event with ⟨fault | v, event'⟩
  · rfl
  · rw [hon] at hobj'
    dsimp only
    -- the last value of the first program is that of both only if the second is empty
    rw [hq.evalBody_shift h₂.symm δ v, Run.on_shift, q.run_of_object s₂ hobj']
    rcases hq' : q.statements with _ | ⟨n, rest⟩
    · rfl
    · rfl

end Program

/-- Programs that compile compose by lines. -/
theorem compile_append_run {library : Library} (hlib : library ⊆ Library.standard) {a b : String}
    {p q : Program} (hp : compile library a = .ok p) (hq : compile library b = .ok q)
    (hcalls : ∀ c ∈ p.callSites ++ q.callSites, c.function.name ≠ "now" ∧ c.function.name ≠ "uuid_v4") :
    ∃ r, compile library (a ++ "\n" ++ b) = .ok r ∧
      r.statements = p.statements ++ q.statements.map (·.shift (.past a)) ∧
        ∀ s s₁ s₂ : Surroundings, s₁.zone = s.zone → s₂.zone = s.zone → ∀ event : Value,
          event.kind = .object → r.run s event = p.runThen q (.past a) s₁ s₂ event := by
  have hsteady : ∀ c ∈ p.callSites ++ q.callSites, c.function ∈ Library.standard → c.function.Steady :=
    fun c hc hf => Function.steady_of_standard hf (hcalls c hc).1 (hcalls c hc).2
  have hp' : p.Steady := fun c hc =>
    hsteady c (List.mem_append_left _ hc) (hlib (disciplined_of_compile hlib hp c hc).known)
  have hq' : q.Steady := fun c hc =>
    hsteady c (List.mem_append_right _ hc) (hlib (disciplined_of_compile hlib hq c hc).known)
  refine ⟨_, compile_append hp hq, rfl, ?_⟩
  intro s s₁ s₂ h₁ h₂ event hobj
  exact Program.run_append hp' hq' _ (.past a) h₁ h₂ hobj

/-- A comment at the end of the first text, and a fault in the second. -/
theorem compile_append_run_comment :
    ∃ p q r : Program, ∃ s : Surroundings, ∃ event : Value, ∃ cause : FaultCause,
      compile Library.standard ".x = 1 # one" = .ok p ∧ compile Library.standard ".z = to_int!(.m)" = .ok q ∧
        compile Library.standard (".x = 1 # one" ++ "\n" ++ ".z = to_int!(.m)") = .ok r ∧
        r.statements = p.statements ++ q.statements.map (·.shift ⟨13, 1⟩) ∧
        r.run s event = p.runThen q ⟨13, 1⟩ s s event ∧
        (r.run s event).result = .error ⟨cause, some ⟨18, 29, 2, 6⟩⟩ := by
  let s : Surroundings := ⟨.fixed "UTC" 0, ⟨0, 0, 0⟩, 0⟩
  let event : Value := .object [("m", .string "x")]
  have hp : (compile Library.standard ".x = 1 # one").toOption.map
      (fun p => p.callSites.map (·.function.name)) = some [] := by
    decide +kernel
  have hq : (compile Library.standard ".z = to_int!(.m)").toOption.map
      (fun q => q.callSites.map (·.function.name)) = some ["to_int"] := by
    decide +kernel
  have hr : (compile Library.standard (".x = 1 # one" ++ "\n" ++ ".z = to_int!(.m)")).toOption.map
      (fun r => ((r.run s event).result.mapError Fault.span).map fun _ => ()) =
        some (.error (some ⟨18, 29, 2, 6⟩)) := by
    decide +kernel
  obtain ⟨p, hp, hcallsP⟩ := exists_of_compile hp
  obtain ⟨q, hq, hcallsQ⟩ := exists_of_compile hq
  obtain ⟨r, hr, hfault⟩ := exists_of_compile hr
  have hcalls : ∀ c ∈ p.callSites ++ q.callSites, c.function.name ≠ "now" ∧ c.function.name ≠ "uuid_v4" := by
    intro c hc
    have hname : c.function.name ∈ (p.callSites ++ q.callSites).map (·.function.name) :=
      List.mem_map.2 ⟨c, hc, rfl⟩
    rw [List.map_append, hcallsP, hcallsQ] at hname
    rw [List.mem_singleton.1 hname]
    decide
  obtain ⟨r', hr', hstatements, hrun⟩ := compile_append_run (List.Subset.refl _) hp hq hcalls
  obtain rfl : r = r' := Except.ok.inj (hr.symm.trans hr')
  rcases hresult : (r.run s event).result with ⟨cause, span⟩ | v
  · obtain rfl : span = some ⟨18, 29, 2, 6⟩ := by
      simpa [hresult, Except.mapError, Except.map] using hfault
    exact ⟨p, q, r, s, event, cause, hp, hq, hr, hstatements, hrun s s s rfl rfl event rfl, hresult⟩
  · simp [hresult, Except.mapError, Except.map] at hfault

end Reshape
