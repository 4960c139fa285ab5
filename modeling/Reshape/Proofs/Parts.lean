/-
The nodes of a program and the places they name.

`Node.parts` lists a node and all the nodes in it, at any depth.  What a program says about the event is said
by its parts one by one: the places that it names, to read, hand over, write or remove them (`rootPaths`), and
those among them that it writes or removes (`targets`).

* `Node.mem_parts_self`, `Node.mem_partsAll` — a node is a part of itself, and a part of a list is one of its
  members'.
-/
import Mathlib.Data.List.Basic
import Reshape.Program.Basic

namespace Reshape

/-- The place that an argument is read from, if it is read from one. -/
def Input.place? : Input Node → Option Path
  | .path p | .value (.path _ p) => some p
  | .value _ => none

/-- The place that a call removes: its first argument, if the function removes places. -/
def Function.removed (f : Function) (inputs : List (Input Node)) : List Path :=
  match f.body with
  | .removing => (inputs.head?.bind Input.place?).toList
  | _ => []

theorem Function.mem_removed {f : Function} {inputs : List (Input Node)} {t : Path} :
    t ∈ f.removed inputs ↔ f.body = .removing ∧ inputs.head?.bind Input.place? = some t := by
  unfold removed
  split
  · rename_i hbody
    simp [hbody]
  · rename_i hbody
    simp only [List.not_mem_nil, false_iff]
    exact fun h => hbody h.1

namespace Node

mutual

/-- The node and the nodes in it, at any depth. -/
def parts : Node → List Node
  | constant s v => [constant s v]
  | path s p => [path s p]
  | array s items => array s items :: partsAll items
  | object s entries => object s entries :: partsEntries entries
  | access s base p => access s base p :: parts base
  | assign s target value => assign s target value :: parts value
  | assignPair s ok err f inputs => assignPair s ok err f inputs :: partsInputs inputs
  | call s f aborts inputs => call s f aborts inputs :: partsInputs inputs
  | binary s op left right => binary s op left right :: (parts left ++ parts right)
  | unary s op operand => unary s op operand :: parts operand
  | branch s condition body none => branch s condition body none :: (parts condition ++ partsAll body)
  | branch s condition body (some alternative) =>
    branch s condition body (some alternative) :: (parts condition ++ partsAll body ++ parts alternative)
  | block s body => block s body :: partsAll body

def partsAll : List Node → List Node
  | [] => []
  | n :: rest => parts n ++ partsAll rest

def partsEntries : List (String × Node) → List Node
  | [] => []
  | (_, n) :: rest => parts n ++ partsEntries rest

def partsInputs : List (Input Node) → List Node
  | [] => []
  | .value n :: rest => parts n ++ partsInputs rest
  | .path _ :: rest => partsInputs rest

end

/-- The places that a node itself names. -/
def ownPaths : Node → List Path
  | path _ p => [p]
  | assign _ target _ => [target]
  | assignPair _ ok err _ inputs => ok :: err :: inputs.filterMap Input.place?
  | call _ _ _ inputs => inputs.filterMap Input.place?
  | _ => []

/-- The places that a node itself writes or removes. -/
def ownTargets : Node → List Path
  | assign _ target _ => [target]
  | assignPair _ ok err f inputs => ok :: err :: f.removed inputs
  | call _ f _ inputs => f.removed inputs
  | _ => []

/-! ### Parts of parts -/

variable {m : Node}

theorem mem_parts_self (n : Node) : n ∈ n.parts := by
  cases n with
  | branch s condition body alternative => cases alternative <;> simp [parts]
  | _ => simp [parts]

theorem mem_parts_branch {s : Span} {condition : Node} {body : List Node} {alternative : Option Node} :
    m ∈ (branch s condition body alternative).parts ↔
      m = branch s condition body alternative ∨ m ∈ condition.parts ∨ m ∈ partsAll body ∨
        ∃ n, alternative = some n ∧ m ∈ n.parts := by
  cases alternative <;> simp [parts]

theorem mem_partsAll {ns : List Node} : m ∈ partsAll ns ↔ ∃ n ∈ ns, m ∈ n.parts := by
  induction ns with
  | nil => simp [partsAll]
  | cons n rest ih => simp [partsAll, ih]

theorem mem_partsEntries {es : List (String × Node)} :
    m ∈ partsEntries es ↔ ∃ k n, (k, n) ∈ es ∧ m ∈ n.parts := by
  induction es with
  | nil => simp [partsEntries]
  | cons e rest ih =>
    obtain ⟨k, n⟩ := e
    rw [partsEntries, List.mem_append, ih]
    constructor
    · rintro (h | ⟨k', n', hn', h⟩)
      · exact ⟨k, n, List.mem_cons_self, h⟩
      · exact ⟨k', n', List.mem_cons_of_mem _ hn', h⟩
    · rintro ⟨k', n', hn', h⟩
      rcases List.mem_cons.1 hn' with heq | hn'
      · obtain ⟨-, rfl⟩ := Prod.mk.inj heq
        exact .inl h
      · exact .inr ⟨k', n', hn', h⟩

theorem mem_partsInputs {is : List (Input Node)} :
    m ∈ partsInputs is ↔ ∃ n, .value n ∈ is ∧ m ∈ n.parts := by
  induction is with
  | nil => simp [partsInputs]
  | cons i rest ih =>
    cases i with
    | path p => simp [partsInputs, ih]
    | value n => simp [partsInputs, ih]

theorem parts_subset_all {n : Node} {ns : List Node} (h : n ∈ ns) : n.parts ⊆ partsAll ns :=
  fun _ hm => mem_partsAll.2 ⟨n, h, hm⟩

theorem parts_subset_entries {k : String} {n : Node} {es : List (String × Node)} (h : (k, n) ∈ es) :
    n.parts ⊆ partsEntries es :=
  fun _ hm => mem_partsEntries.2 ⟨k, n, h, hm⟩

theorem parts_subset_inputs {n : Node} {is : List (Input Node)} (h : .value n ∈ is) : n.parts ⊆ partsInputs is :=
  fun _ hm => mem_partsInputs.2 ⟨n, h, hm⟩

end Node

namespace Program

/-- The nodes of the program, at any depth. -/
def parts (p : Program) : List Node :=
  Node.partsAll p.statements

/-- The places of the event that the program names: what it reads, hands over, writes and removes. -/
def rootPaths (p : Program) : List Path :=
  p.parts.flatMap Node.ownPaths

/-- The places of the event that the program assigns to or removes. -/
def targets (p : Program) : List Path :=
  p.parts.flatMap Node.ownTargets

end Program

end Reshape
