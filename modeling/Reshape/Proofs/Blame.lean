/-
What a fault blames.

The region of a fault is that of a node, and the region of a node is that of the expression that it stands for.  So a
fault points into the statement that was running, and at text of the program.

* `Node.Reaches.parts_subset` — what an evaluation reaches is in the node;
* `Expr.covers_of_resolve` — resolving keeps regions;
* `Program.run_blames` — the region of the fault of a run, and the excerpt that shows it.
-/
import Reshape.Proofs.Excerpt
import Reshape.Proofs.Failure
import Reshape.Proofs.Regions

namespace Reshape

namespace Node

/-- What an evaluation reaches has no parts of its own. -/
theorem Reaches.parts_subset {s : Surroundings} {n m : Node} {event event' : Value}
    (h : n.Reaches s event m event') : m.parts ⊆ n.parts := by
  induction h with
  | self => exact List.Subset.refl _
  | array _ _ ih | block _ _ ih =>
    rw [parts]
    exact List.subset_cons_of_subset _ (List.Subset.trans ih (parts_subset_all (by simp)))
  | @object _ _ k _ _ _ _ _ _ _ _ _ ih =>
    rw [parts]
    exact List.subset_cons_of_subset _ (List.Subset.trans ih (parts_subset_entries (k := k) (by simp)))
  | access _ ih | assign _ ih | unary _ ih =>
    rw [parts]
    exact List.subset_cons_of_subset _ ih
  | assignPair _ _ ih | call _ _ ih =>
    rw [parts]
    exact List.subset_cons_of_subset _ (List.Subset.trans ih (parts_subset_inputs (by simp)))
  | left _ ih =>
    rw [parts]
    exact List.subset_cons_of_subset _ (List.subset_append_of_subset_left _ ih)
  | right _ _ _ ih =>
    rw [parts]
    exact List.subset_cons_of_subset _ (List.subset_append_of_subset_right _ ih)
  | condition _ ih =>
    intro m hm
    exact mem_parts_branch.2 (.inr (.inl (ih hm)))
  | @body _ _ before n after _ _ _ _ _ _ _ _ _ _ ih =>
    intro m hm
    have hbody : m ∈ partsAll (before ++ n :: after) := parts_subset_all (by simp) (ih hm)
    exact mem_parts_branch.2 (.inr (.inr (.inl hbody)))
  | alternative _ _ ih =>
    intro m hm
    exact mem_parts_branch.2 (.inr (.inr (.inr ⟨_, rfl, ih hm⟩)))

theorem foldArray_eq (s : Span) (items : List Node) :
    (∃ v, foldArray s items = constant s v) ∨ foldArray s items = array s items := by
  unfold foldArray
  split
  · exact .inl ⟨_, rfl⟩
  · exact .inr rfl

theorem foldObject_eq (s : Span) (entries : List (String × Node)) :
    (∃ v, foldObject s entries = constant s v) ∨ foldObject s entries = object s entries := by
  unfold foldObject
  split
  · exact .inl ⟨_, rfl⟩
  · exact .inr rfl

end Node

/-! ### Resolving keeps regions -/

namespace Expr

open Resolution

/-- The region is that of an expression in this one, at any depth. -/
def Holds (e : Expr) (s : Span) : Prop :=
  ∃ m, e.HasPart m ∧ m.span = s

variable {library : Library} {e : Expr} {s : Span}

theorem Holds.self (e : Expr) : e.Holds e.span :=
  ⟨e, .self e, rfl⟩

theorem Holds.child (h : ∃ c ∈ e.children, c.Holds s) : e.Holds s := by
  obtain ⟨c, hc, m, hm, rfl⟩ := h
  exact ⟨m, .child hc hm, rfl⟩

/-- The node stands where the expression does, and its parts where the expressions in it do. -/
structure Covers (e : Expr) (n : Node) : Prop where
  span : n.span = e.span
  parts : ∀ m ∈ n.parts, e.Holds m.span

theorem Covers.node {n : Node} {inner : List Node} (hspan : n.span = e.span) (hparts : n.parts = n :: inner)
    (hinner : ∀ m ∈ inner, ∃ c ∈ e.children, c.Holds m.span) : Covers e n where
  span := hspan
  parts := by
    rw [hparts]
    refine List.forall_mem_cons.2 ⟨?_, fun m hm => .child (hinner m hm)⟩
    rw [hspan]
    exact .self e

theorem Covers.leaf {n : Node} (hspan : n.span = e.span) (hparts : n.parts = [n]) : Covers e n :=
  .node hspan hparts (by simp)

theorem Covers.within {c : Expr} {n : Node} (h : Covers c n) (hc : c ∈ e.children) :
    ∀ m ∈ n.parts, ∃ c ∈ e.children, c.Holds m.span :=
  fun m hm => ⟨c, hc, h.parts m hm⟩

theorem covers_of_resolveDelete {target : Target} {aborts : Bool} {n : Node}
    (h : (resolveDelete library s target aborts).Gives n) : Covers (delete s target aborts) n := by
  unfold resolveDelete at h
  split at h
  · simp [Gives] at h
  · split at h
    · simp [Gives] at h
    · rw [gives_pure] at h
      subst h
      exact .leaf rfl rfl

theorem exists_of_resolveAll {es : List Expr} {ns : List Node} (h : (resolveAll library es).Gives ns) :
    ∀ n ∈ ns, ∃ e ∈ es, (resolve library e).Gives n := by
  induction es generalizing ns with
  | nil =>
    rw [resolveAll, gives_pure] at h
    simp [← h]
  | cons e rest ih =>
    rw [resolveAll, gives_zipWith] at h
    obtain ⟨n, others, hn, hothers, rfl⟩ := h
    refine List.forall_mem_cons.2 ⟨⟨e, List.mem_cons_self, hn⟩, ?_⟩
    intro n' hn'
    obtain ⟨e', he', hresolve⟩ := ih hothers n' hn'
    exact ⟨e', List.mem_cons_of_mem e he', hresolve⟩

mutual

/-- Resolving keeps regions. -/
theorem covers_of_resolve : ∀ {e : Expr} {n : Node}, (resolve library e).Gives n → Covers e n
  | literal s v, n, h => by
    rw [resolve, gives_pure] at h
    subst h
    exact .leaf rfl rfl
  | path s p, n, h => by
    rw [resolve, gives_pure] at h
    subst h
    exact .leaf rfl rfl
  | array s items, n, h => by
    rw [resolve, gives_map] at h
    obtain ⟨nodes, hnodes, rfl⟩ := h
    rcases Node.foldArray_eq s nodes with ⟨v, heq⟩ | heq
    · rw [heq]
      exact .leaf rfl rfl
    · rw [heq]
      exact .node rfl rfl (holds_of_resolveAll hnodes)
  | object s entries, n, h => by
    rw [resolve, gives_map] at h
    obtain ⟨nodes, hnodes, rfl⟩ := h
    rcases Node.foldObject_eq s nodes with ⟨v, heq⟩ | heq
    · rw [heq]
      exact .leaf rfl rfl
    · rw [heq]
      exact .node rfl rfl (holds_of_resolveEntries hnodes)
  | access s base p, n, h => by
    rw [resolve, gives_map] at h
    obtain ⟨b, hb, rfl⟩ := h
    exact .node rfl rfl ((covers_of_resolve hb).within (by simp [children]))
  | assign s target value, n, h => by
    rw [resolve, gives_map] at h
    obtain ⟨v, hv, rfl⟩ := h
    exact .node rfl rfl ((covers_of_resolve hv).within (by simp [children]))
  | assignPair s ok err (call cs callee args), n, h => by
    rw [resolve] at h
    split at h
    · exact absurd h not_gives_failed
    · rw [gives_after, gives_map] at h
      obtain ⟨-, inputs, hinputs, rfl⟩ := h
      refine .node rfl rfl fun m hm => ?_
      -- the inputs are those of the captured call, of which there is no node
      have hcall : (call cs callee args).Holds m.span := .child (holds_of_resolveInputs hinputs m hm)
      exact ⟨call cs callee args, by simp [children], hcall⟩
  | assignPair s ok err (literal ..), n, h | assignPair s ok err (array ..), n, h
  | assignPair s ok err (object ..), n, h | assignPair s ok err (path ..), n, h
  | assignPair s ok err (access ..), n, h | assignPair s ok err (assign ..), n, h
  | assignPair s ok err (assignPair ..), n, h | assignPair s ok err (binary ..), n, h
  | assignPair s ok err (unary ..), n, h | assignPair s ok err (branch ..), n, h
  | assignPair s ok err (block ..), n, h | assignPair s ok err (delete ..), n, h => by
    -- only a call can be captured
    unfold resolve at h
    exact absurd h not_gives_failed
  | call s callee args, n, h => by
    rw [resolve] at h
    split at h
    · exact absurd h not_gives_failed
    · rw [gives_after, gives_map] at h
      obtain ⟨-, inputs, hinputs, rfl⟩ := h
      exact .node rfl rfl (holds_of_resolveInputs hinputs)
  | binary s op left right, n, h => by
    rw [resolve, gives_zipWith] at h
    obtain ⟨l, r, hl, hr, rfl⟩ := h
    refine .node rfl rfl (List.forall_mem_append.2 ⟨?_, ?_⟩)
    · exact (covers_of_resolve hl).within (by simp [children])
    · exact (covers_of_resolve hr).within (by simp [children])
  | unary s op operand, n, h => by
    rw [resolve, gives_map] at h
    obtain ⟨o, ho, rfl⟩ := h
    exact .node rfl rfl ((covers_of_resolve ho).within (by simp [children]))
  | branch s condition body none, n, h => by
    rw [resolve, gives_zipWith] at h
    obtain ⟨c, b, hc, hb, rfl⟩ := h
    refine .node rfl rfl (List.forall_mem_append.2 ⟨?_, fun m hm => ?_⟩)
    · exact (covers_of_resolve hc).within (by simp [children])
    · obtain ⟨e, he, hholds⟩ := holds_of_resolveAll hb m hm
      exact ⟨e, by simp [children, he], hholds⟩
  | branch s condition body (some alternative), n, h => by
    rw [resolve, gives_zipWith] at h
    obtain ⟨⟨c, b⟩, a, hcb, ha, rfl⟩ := h
    obtain ⟨c', b', hc, hb, heq⟩ := gives_zipWith.1 hcb
    obtain ⟨rfl, rfl⟩ := Prod.mk.inj heq
    refine .node rfl rfl (List.forall_mem_append.2 ⟨List.forall_mem_append.2 ⟨?_, fun m hm => ?_⟩, ?_⟩)
    · exact (covers_of_resolve hc).within (by simp [children])
    · obtain ⟨e, he, hholds⟩ := holds_of_resolveAll hb m hm
      exact ⟨e, by simp [children, he], hholds⟩
    · exact (covers_of_resolve ha).within (by simp [children])
  | block s body, n, h => by
    rw [resolve, gives_map] at h
    obtain ⟨nodes, hnodes, rfl⟩ := h
    exact .node rfl rfl (holds_of_resolveAll hnodes)
  | delete s target aborts, n, h => by
    rw [resolve] at h
    exact covers_of_resolveDelete h

theorem holds_of_resolveAll : ∀ {es : List Expr} {ns : List Node}, (resolveAll library es).Gives ns →
    ∀ m ∈ Node.partsAll ns, ∃ e ∈ es, e.Holds m.span
  | [], ns, h => by
    rw [resolveAll, gives_pure] at h
    subst h
    intro m hm
    cases hm
  | e :: rest, ns, h => by
    rw [resolveAll, gives_zipWith] at h
    obtain ⟨n, others, hn, hothers, rfl⟩ := h
    intro m hm
    rcases List.mem_append.1 hm with hm | hm
    · exact ⟨e, List.mem_cons_self, (covers_of_resolve hn).parts m hm⟩
    · obtain ⟨e', he', hholds⟩ := holds_of_resolveAll hothers m hm
      exact ⟨e', List.mem_cons_of_mem e he', hholds⟩

theorem holds_of_resolveEntries : ∀ {es : List (String × Expr)} {ns : List (String × Node)},
    (resolveEntries library es).Gives ns → ∀ m ∈ Node.partsEntries ns, ∃ e ∈ es.map (·.2), e.Holds m.span
  | [], ns, h => by
    rw [resolveEntries, gives_pure] at h
    subst h
    intro m hm
    cases hm
  | (k, e) :: rest, ns, h => by
    rw [resolveEntries, gives_zipWith] at h
    obtain ⟨n, others, hn, hothers, rfl⟩ := h
    intro m hm
    rcases List.mem_append.1 hm with hm | hm
    · exact ⟨e, List.mem_cons_self, (covers_of_resolve hn).parts m hm⟩
    · obtain ⟨e', he', hholds⟩ := holds_of_resolveEntries hothers m hm
      exact ⟨e', List.mem_cons_of_mem e he', hholds⟩

theorem holds_of_resolveInputs {f : Function} : ∀ {es : List Expr} {i : Nat} {inputs : List (Input Node)},
    (resolveInputs library f i es).Gives inputs → ∀ m ∈ Node.partsInputs inputs, ∃ e ∈ es, e.Holds m.span
  | [], i, inputs, h => by
    rw [resolveInputs, gives_pure] at h
    subst h
    intro m hm
    cases hm
  | e :: rest, i, inputs, h => by
    unfold resolveInputs at h
    rw [gives_zipWith] at h
    obtain ⟨input, others, hinput, hothers, rfl⟩ := h
    have hrest : ∀ m ∈ Node.partsInputs others, ∃ e' ∈ e :: rest, e'.Holds m.span := by
      intro m hm
      obtain ⟨e', he', hholds⟩ := holds_of_resolveInputs hothers m hm
      exact ⟨e', List.mem_cons_of_mem e he', hholds⟩
    split at hinput
    · obtain ⟨n, hn, rfl⟩ := gives_map.1 hinput
      refine List.forall_mem_append.2 ⟨fun m hm => ?_, hrest⟩
      exact ⟨_, List.mem_cons_self, (covers_of_resolve hn).parts m hm⟩
    · rw [gives_pure] at hinput
      subst hinput
      exact hrest
    · exact absurd hinput not_gives_failed

end

end Expr

/-! ### Runs of compiled programs -/

/-- Every node in a compiled program stands in its statement, at text of the program. -/
theorem exists_ofText_of_compile {library : Library} {source : String} {p : Program}
    (h : compile library source = .ok p) {n m : Node} (hn : n ∈ p.statements) (hm : m ∈ n.parts) :
    m.span.Inside n.span ∧
      ∃ front text back, source.toList = front ++ text ++ back ∧ text ≠ [] ∧ m.span = .ofText front text := by
  obtain ⟨hlex, es, hparse, -, hgives⟩ := compile_eq_ok.1 h
  have htiling : Tiling source.toList (tokenize source).1 := Lexer.tiling_run source.toList
  obtain ⟨e, he, hresolve⟩ := Expr.exists_of_resolveAll hgives n hn
  have hcovers := Expr.covers_of_resolve hresolve
  obtain ⟨part, hpart, hspan⟩ := hcovers.parts m hm
  obtain ⟨own, hown, hkinds, hplaced⟩ := (Expr.lines_of_parse hlex hparse).exists_placed e he
  have hordered : Ordered own := (htiling.inOrder.of_infix hown).ordered hkinds
  have hinside : m.span.Inside n.span := by
    rw [hcovers.span, ← hspan]
    exact hplaced.inside hordered hpart
  -- the tokens that the region runs between tile the program
  have hbounded := (hplaced.nested hown hordered hpart).bounded
  rw [hspan] at hbounded
  exact ⟨hinside, htiling.exists_ofText hbounded⟩

namespace Program

/-- The fault of a node has the region of a node in it. -/
theorem FaultsIn.exists_part {p : Program} {s : Surroundings} {event : Value} {n : Node} {fault : Fault}
    (h : p.FaultsIn s event n fault) : ∃ m ∈ n.parts, fault.span = some m.span := by
  obtain ⟨before, after, v, event₁, event₂, -, -, hn⟩ := h
  -- the node that raises the fault may blame an operand or its condition instead of itself
  obtain ⟨raising, event₃, hreach, hraises⟩ := n.exists_raises s hn
  obtain ⟨m, cause, hm, rfl, -⟩ := hraises.exists_part
  exact ⟨m, hreach.parts_subset hm, rfl⟩

/-- The fault of a run on an object has a region: that of a node in the statement that was running, the statements in
front of it completed.  It lies in the region of the statement and is that of some text of the program, so it has an
excerpt, and that is printed. -/
theorem run_blames {library : Library} {source : String} {p : Program} (h : compile library source = .ok p)
    (s : Surroundings) {event : Value} (hobj : event.kind = .object) {fault : Fault}
    (hfault : (p.run s event).result = .error fault) :
    ∃ n m, p.FaultsIn s event n fault ∧ m ∈ n.parts ∧ fault.span = some m.span ∧ m.span.Inside n.span ∧
      ∃ front text back, source.toList = front ++ text ++ back ∧ text ≠ [] ∧ m.span = .ofText front text ∧
        locate source.toList m.span = some (.ofText front text back) ∧
        ∀ coloured, ∃ above below, (Diagnostics.ofFault source fault).render coloured =
          above ++ ((Excerpt.ofText front text back).numbered coloured ++ "\n") ++ below := by
  obtain ⟨n, hn, hfaults⟩ := p.exists_faultsIn s hobj hfault
  obtain ⟨m, hm, hspan⟩ := hfaults.exists_part
  obtain ⟨hinside, front, text, back, hsource, htext, hmark⟩ := exists_ofText_of_compile h hn hm
  have hlocate : locate source.toList m.span = some (.ofText front text back) := by
    rw [hmark, hsource]
    exact locate_ofText front text back
  refine ⟨n, m, hfaults, hm, hspan, hinside, front, text, back, hsource, htext, hmark, hlocate, fun coloured => ?_⟩
  have hshown : fault.diagnostic.span.bind (locate source.toList) = some (.ofText front text back) := by
    rw [show fault.diagnostic.span = some m.span from hspan]
    exact hlocate
  obtain ⟨above, below, hrender⟩ := Diagnostic.exists_render hshown coloured
  refine ⟨above, below, ?_⟩
  rw [← hrender]
  exact String.intercalate_singleton

/-- The condition of the second statement is no truth value. -/
theorem run_blames_condition :
    ∃ p s event fault, compile Library.standard ".a = \"é\"\nif .a \x7b .b = 1 \x7d" = .ok p ∧
      event.kind = .object ∧ (p.run s event).result = .error fault ∧ fault.span = some ⟨13, 15, 2, 4⟩ ∧
      ∃ n m, p.FaultsIn s event n fault ∧ m ∈ n.parts ∧ fault.span = some m.span ∧ m.span.Inside n.span := by
  let s : Surroundings := ⟨.fixed "UTC" 0, ⟨0, 0, 0⟩, 0⟩
  let event : Value := .object []
  have hrun : (compile Library.standard ".a = \"é\"\nif .a \x7b .b = 1 \x7d").toOption.map
      (fun p => ((p.run s event).result.mapError Fault.span).map fun _ => ()) =
        some (.error (some ⟨13, 15, 2, 4⟩)) := by
    decide +kernel
  obtain ⟨p, hp, hresult⟩ := exists_of_compile hrun
  rcases hr : (p.run s event).result with fault | v
  · have hspan : fault.span = some ⟨13, 15, 2, 4⟩ := by
      simpa [hr, Except.mapError, Except.map] using hresult
    obtain ⟨n, m, hfaults, hm, hblamed, hinside, -⟩ := run_blames hp s rfl hr
    exact ⟨p, s, event, fault, hp, rfl, hr, hspan, n, m, hfaults, hm, hblamed, hinside⟩
  · simp [hr, Except.mapError, Except.map] at hresult

end Program

end Reshape
