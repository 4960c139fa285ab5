/-
The fields that a program names.

A path that begins with a name leads through one field of the event, and reading, writing or removing there looks
at no other field and changes no other.  So a program that never names the root, run on two events that agree on
the first names of its paths, does the same on both: it ends in the same way, leaves the events in agreement, and
leaves all their other fields alone.

* `Value.insert_object_key`, `Value.remove_object_key` — a write and a removal in terms of the first field;
* `Node.actAlike_of_under` — what a part of such a program does itself;
* `compile_run_agree` — two runs of such a program.
-/
import Reshape.Proofs.Coupling
import Reshape.Proofs.Failure
import Reshape.Proofs.Place
import Reshape.Proofs.Steady

namespace Reshape

/-! ### One field of an object -/

namespace Fields

variable {α : Type} {K : List String} {k : String}

/-- The fields whose names are not in `K`, in their order. -/
def outside (K : List String) (fields : Fields α) : Fields α :=
  fields.filter (·.1 ∉ K)

theorem outside_insert (hk : k ∈ K) (v : α) (fields : Fields α) :
    outside K (insert k v fields) = outside K fields := by
  induction fields with
  | nil => simp [insert, outside, hk]
  | cons e rest ih =>
    obtain ⟨k', v'⟩ := e
    rw [insert]
    -- the new field stands before this one, in place of it, or further on
    split
    · simp [outside, hk]
    · split
      · rename_i heq
        simp [outside, ← heq, hk]
      · simp only [outside, List.filter_cons] at ih ⊢
        rw [ih]

theorem outside_erase (hk : k ∈ K) (fields : Fields α) : outside K (erase k fields) = outside K fields := by
  induction fields with
  | nil => rfl
  | cons e rest ih =>
    obtain ⟨k', v'⟩ := e
    rw [erase]
    split
    · rename_i heq
      rw [ih]
      simp [outside, ← heq, hk]
    · simp only [outside, List.filter_cons] at ih ⊢
      rw [ih]

end Fields

namespace Value

/-- A write at `rest` below the field `k`, by what is found there: the value that was at the place and the changed
field. -/
def insertField (k : String) (rest : Path) (new : Value) (found : Option Value) :
    Except WriteError (Option Value × Value) := do
  checkFrom [.key k] found rest
  if rest.isEmpty then return (found, new) else storeFrom new [.key k] (found.getD null) rest

theorem insert_object_key (fields : Fields Value) (k : String) (rest : Path) (new : Value) :
    (object fields).insert (.key k :: rest) new =
      (insertField k rest new (Fields.get? k fields)).map fun x => (x.1, object (Fields.insert k x.2 fields)) := by
  have hcheck : checkWrite (object fields) (.key k :: rest) = checkFrom [.key k] (Fields.get? k fields) rest := rfl
  rw [insert, insertField, hcheck]
  cases checkFrom [.key k] (Fields.get? k fields) rest with
  | error e => rfl
  | ok _ =>
    cases rest with
    | nil => rfl
    | cons segment rest =>
      -- a longer path goes on in the field
      show (storeFrom new [.key k] ((Fields.get? k fields).getD null) (segment :: rest) >>= fun x =>
        pure (x.1, object (Fields.insert k x.2 fields))) = _
      cases storeFrom new [.key k] ((Fields.get? k fields).getD null) (segment :: rest) with
      | error e => rfl
      | ok x => rfl

/-- A removal at `rest` below a field, by what is found there: what was removed, and what is left of the field. -/
def removeField (rest : Path) (found : Option Value) : Option (Value × Option Value) :=
  if rest.isEmpty then found.map (·, none)
  else do
    let (old, child) ← removeFrom (← found) rest
    return (old, some child)

/-- The fields when `left` is left of one of them. -/
def leave (k : String) (left : Option Value) (fields : Fields Value) : Fields Value :=
  match left with
  | some child => Fields.insert k child fields
  | none => Fields.erase k fields

theorem remove_object_key (fields : Fields Value) (k : String) (rest : Path) :
    (object fields).remove (.key k :: rest) =
      match removeField rest (Fields.get? k fields) with
      | some (old, left) => (some old, object (leave k left fields))
      | none => (none, object fields) := by
  rw [remove, if_neg (by simp), removeField]
  cases hfound : Fields.get? k fields with
  | none => cases rest <;> simp [removeFrom, hfound]
  | some child =>
    cases rest with
    | nil => simp [removeFrom, hfound, leave]
    | cons segment rest =>
      cases hremove : removeFrom child (segment :: rest) with
      | none => simp [removeFrom, hfound, hremove]
      | some x => simp [removeFrom, hfound, hremove, leave]

end Value

/-! ### Paths below some fields -/

namespace Path

/-- The name that a path begins with. -/
def firstKey? : Path → Option String
  | .key k :: _ => some k
  | _ => none

/-- The path is not the root, and if it begins with a name, with one in `K`. -/
def Under (K : List String) (p : Path) : Prop :=
  p ≠ [] ∧ ∀ k, p.firstKey? = some k → k ∈ K

end Path

/-- Two objects that have the same in the fields `K`, and given fields besides. -/
def Value.AgreeOn (K : List String) (others others' : Fields Value) (event event' : Value) : Prop :=
  ∃ fields fields', event = .object fields ∧ event' = .object fields' ∧
    (∀ k ∈ K, Fields.get? k fields = Fields.get? k fields') ∧
      Fields.outside K fields = others ∧ Fields.outside K fields' = others'

section AgreeOn

variable {K : List String} {others others' fields fields' : Fields Value} {k : String}

/-- What is left of one field is the same in both objects. -/
theorem Value.agreeOn_leave (hk : k ∈ K) (left : Option Value)
    (hagree : ∀ k ∈ K, Fields.get? k fields = Fields.get? k fields')
    (hothers : Fields.outside K fields = others) (hothers' : Fields.outside K fields' = others') :
    AgreeOn K others others' (.object (leave k left fields)) (.object (leave k left fields')) := by
  refine ⟨_, _, rfl, rfl, fun q hq => ?_, ?_, ?_⟩
  -- the field itself becomes the same in both objects, and the other ones stay
  · by_cases hqk : q = k
    · subst hqk
      cases left with
      | some child => rw [leave, leave, Fields.get?_insert_self, Fields.get?_insert_self]
      | none => rw [leave, leave, Fields.get?_erase_self, Fields.get?_erase_self]
    · cases left with
      | some child =>
        rw [leave, leave, Fields.get?_insert_of_ne hqk, Fields.get?_insert_of_ne hqk]
        exact hagree q hq
      | none =>
        rw [leave, leave, Fields.get?_erase_of_ne hqk, Fields.get?_erase_of_ne hqk]
        exact hagree q hq
  · cases left with
    | some child => exact (Fields.outside_insert hk child fields).trans hothers
    | none => exact (Fields.outside_erase hk fields).trans hothers
  · cases left with
    | some child => exact (Fields.outside_insert hk child fields').trans hothers'
    | none => exact (Fields.outside_erase hk fields').trans hothers'

namespace Run

variable {p : Path}

theorem readAlike_of_under (hp : p.Under K) : ReadAlike (Value.AgreeOn K others others') p := by
  rintro _ _ ⟨fields, fields', rfl, rfl, hagree, -, -⟩
  cases p with
  | nil => exact absurd rfl hp.1
  | cons segment rest =>
    cases segment with
    | index i => rfl
    | key k => rw [Value.get?_object, Value.get?_object, hagree k (hp.2 k rfl)]

/-- A write below a field. -/
theorem on_write_object_key (k : String) (rest : Path) (v : Value) (span : Span) (fields : Fields Value) :
    (write (.key k :: rest) v span).on (.object fields) =
      match Value.insertField k rest v (Fields.get? k fields) with
      | .ok (_, child) => (.ok ⟨⟩, .object (Fields.insert k child fields))
      | .error e => (.error ⟨refusal e, some span⟩, .object fields) := by
  rw [write, if_neg (by simp), on_bind, on_get]
  dsimp only
  rw [Value.insert_object_key]
  cases Value.insertField k rest v (Fields.get? k fields) with
  | ok x => rfl
  | error e => rfl

theorem writeAlike_of_under (hp : p.Under K) : WriteAlike (Value.AgreeOn K others others') p := by
  rintro v span _ _ ⟨fields, fields', rfl, rfl, hagree, hothers, hothers'⟩
  cases p with
  | nil => exact absurd rfl hp.1
  | cons segment rest =>
    cases segment with
    | index i => exact ⟨rfl, fields, fields', rfl, rfl, hagree, hothers, hothers'⟩
    | key k =>
      have hk : k ∈ K := hp.2 k rfl
      rw [on_write_object_key, on_write_object_key, ← hagree k hk]
      cases Value.insertField k rest v (Fields.get? k fields) with
      | ok x => exact ⟨rfl, Value.agreeOn_leave hk (some x.2) hagree hothers hothers'⟩
      | error e => exact ⟨rfl, fields, fields', rfl, rfl, hagree, hothers, hothers'⟩

end Run

/-- A removal takes the same out of both objects. -/
theorem Value.agreeOn_remove {p : Path} (hp : p.Under K) {event event' : Value}
    (hE : AgreeOn K others others' event event') :
    (event.remove p).1 = (event'.remove p).1 ∧ AgreeOn K others others' (event.remove p).2 (event'.remove p).2 := by
  obtain ⟨fields, fields', rfl, rfl, hagree, hothers, hothers'⟩ := hE
  cases p with
  | nil => exact absurd rfl hp.1
  | cons segment rest =>
    cases segment with
    | index i =>
      -- an object has no items to remove
      have hnone : ∀ fields : Fields Value, (object fields).remove (.index i :: rest) = (none, object fields) := by
        intro fields
        cases rest <;> simp [remove, removeFrom]
      rw [hnone, hnone]
      exact ⟨rfl, fields, fields', rfl, rfl, hagree, hothers, hothers'⟩
    | key k =>
      have hk : k ∈ K := hp.2 k rfl
      rw [remove_object_key, remove_object_key, ← hagree k hk]
      cases removeField rest (Fields.get? k fields) with
      | none => exact ⟨rfl, fields, fields', rfl, rfl, hagree, hothers, hothers'⟩
      | some x => exact ⟨rfl, agreeOn_leave hk x.2 hagree hothers hothers'⟩

end AgreeOn

/-! ### Functions -/

namespace Function

/-- Of the standard functions only one looks at the event besides its arguments. -/
theorem eq_existsAt_of_looking {f : Function} (hf : f ∈ Library.standard) {run : Value → Arguments → Value}
    (hbody : f.body = .looking run) : f = existsAt := by
  have hmem : f ∈ Library.standard.filter (fun f => f.effect == .readsRoot) :=
    List.mem_filter.2 ⟨hf, by simp [effect, hbody]⟩
  rw [show Library.standard.filter (fun f => f.effect == .readsRoot) = [existsAt] from rfl] at hmem
  exact List.mem_singleton.1 hmem

end Function

namespace Run

variable {K : List String} {others others' : Fields Value} {s s' : Surroundings}

/-- A steady function looks at the event, if it does, only at the place of its first argument. -/
theorem callAlike_of_under {f : Function} (hf : f ∈ Library.standard) (hsteady : f.Steady)
    (hzone : s'.zone = s.zone) {inputs : List (Input Node)}
    (hinputs : ∀ p ∈ inputs.filterMap Input.place?, p.Under K) :
    CallAlike (Value.AgreeOn K others others') s s' f inputs := by
  refine ⟨fun p hp => readAlike_of_under (hinputs p hp), ?_⟩
  intro span args hplaces event event' hE
  -- the place of the first argument is one of the places that are handed over
  have hplace : ∀ p, args.place? 0 = some p → p.Under K := by
    intro p hp
    rw [Node.place?_zero_of_places hplaces] at hp
    obtain ⟨input, hinput, hp⟩ := Option.bind_eq_some_iff.1 hp
    exact hinputs p (List.mem_filterMap.2 ⟨input, List.mem_of_mem_head? hinput, hp⟩)
  -- a steady function does not depend on the clock, the seed or where it is called
  rw [on_invoke, on_invoke, Function.call_of_steady hsteady hzone span.start span.start]
  cases hbody : f.body with
  | plain run => simpa [Function.call, hbody] using hE
  | zoned run => simpa [Function.call, hbody] using hE
  | outside run => simp [Function.Steady, Body.isOutside, hbody] at hsteady
  | looking run =>
    obtain rfl := Function.eq_existsAt_of_looking hf hbody
    have hlooks : ∀ root, Function.existsAt.call s span.start root args =
        (.ok (.boolean ((args.place? 0).any fun p => (root.get? p).isSome)), root) := fun _ => rfl
    rw [hlooks, hlooks]
    cases hp : args.place? 0 with
    | none => exact ⟨rfl, hE⟩
    | some p =>
      rw [Option.any_some, Option.any_some, readAlike_of_under (hplace p hp) event event' hE]
      exact ⟨rfl, hE⟩
  | removing =>
    cases hp : args.place? 0 with
    | none => simpa [Function.call, hbody, hp] using hE
    | some p =>
      obtain ⟨hold, hleft⟩ := Value.agreeOn_remove (hplace p hp) hE
      simp only [Function.call, hbody, hp]
      exact ⟨by rw [hold], hleft⟩

end Run

/-! ### Programs -/

namespace Node

/-- A node that names only places below the fields `K`, and calls only steady functions, acts alike on events that
agree on `K`. -/
theorem actAlike_of_under {K : List String} {others others' : Fields Value} {s s' : Surroundings}
    (hzone : s'.zone = s.zone) {m : Node} (hpaths : ∀ p ∈ m.ownPaths, p.Under K)
    (hcalls : ∀ c ∈ m.callSites, c.function ∈ Library.standard ∧ c.function.Steady) :
    m.ActAlike (Value.AgreeOn K others others') s s' := by
  cases m with
  | path span p => exact Run.readAlike_of_under (hpaths p List.mem_cons_self)
  | assign span target value => exact Run.writeAlike_of_under (hpaths target List.mem_cons_self)
  | assignPair span ok err f inputs =>
    obtain ⟨hf, hsteady⟩ := hcalls ⟨f, false, true, inputs⟩ (by simp [callSites])
    refine ⟨Run.writeAlike_of_under (hpaths ok ?_), Run.writeAlike_of_under (hpaths err ?_), ?_⟩
    · simp [ownPaths]
    · simp [ownPaths]
    · exact Run.callAlike_of_under hf hsteady hzone fun p hp => hpaths p (by simp [ownPaths, hp])
  | call span f aborts inputs =>
    obtain ⟨hf, hsteady⟩ := hcalls ⟨f, aborts, false, inputs⟩ (by simp [callSites])
    exact Run.callAlike_of_under hf hsteady hzone hpaths
  | _ => trivial

end Node

namespace Program

/-- The names that the places of the program begin with. -/
def firstKeys (p : Program) : List String :=
  p.rootPaths.filterMap Path.firstKey?

theorem under_firstKeys {p : Program} (hroot : [] ∉ p.rootPaths) {q : Path} (hq : q ∈ p.rootPaths) :
    q.Under p.firstKeys := by
  refine ⟨fun hnil => hroot (hnil ▸ hq), fun k hk => ?_⟩
  exact List.mem_filterMap.2 ⟨q, hq, hk⟩

end Program

/-- A compiled program that does not name the root itself, and looks at nothing outside but the time zone, sees and
changes only the fields that its places begin with.  On two events that agree on these it ends with the same value
or the same fault, and leaves events that agree on them; all other fields of each are as they were. -/
theorem compile_run_agree {library : Library} (hlib : library ⊆ Library.standard) {source : String} {p : Program}
    (h : compile library source = .ok p)
    (hcalls : ∀ c ∈ p.callSites, c.function.name ≠ "now" ∧ c.function.name ≠ "uuid_v4")
    (hroot : [] ∉ p.rootPaths) {s s' : Surroundings} (hzone : s'.zone = s.zone) {fields fields' : Fields Value}
    (hagree : ∀ k ∈ p.firstKeys, Fields.get? k fields = Fields.get? k fields') :
    (p.run s (.object fields)).result = (p.run s' (.object fields')).result ∧
      ∃ after after', (p.run s (.object fields)).event = .object after ∧
        (p.run s' (.object fields')).event = .object after' ∧
        (∀ k ∈ p.firstKeys, Fields.get? k after = Fields.get? k after') ∧
        Fields.outside p.firstKeys after = Fields.outside p.firstKeys fields ∧
        Fields.outside p.firstKeys after' = Fields.outside p.firstKeys fields' := by
  have hstandard : ∀ c ∈ p.callSites, c.function ∈ Library.standard ∧ c.function.Steady := by
    intro c hc
    have hf : c.function ∈ Library.standard := hlib (disciplined_of_compile hlib h c hc).known
    exact ⟨hf, Function.steady_of_standard hf (hcalls c hc).1 (hcalls c hc).2⟩
  -- what the events hold besides is fixed at the start, and each statement leaves it so
  have hcoupled : ∀ n ∈ p.statements, Run.Coupled
      (Value.AgreeOn p.firstKeys (Fields.outside p.firstKeys fields) (Fields.outside p.firstKeys fields'))
      (n.eval s) (n.eval s') := by
    intro n hn
    refine n.eval_coupled fun m hm => ?_
    have hpart : m ∈ p.parts := Node.mem_partsAll.2 ⟨n, hn, hm⟩
    refine Node.actAlike_of_under hzone (fun q hq => ?_) fun c hc => ?_
    · exact Program.under_firstKeys hroot (List.mem_flatMap.2 ⟨m, hpart, hq⟩)
    · exact hstandard c (Node.callSites_subset_all hn (Node.callSites_subset_of_mem_parts hm hc))
  rw [p.run_of_object s rfl, p.run_of_object s' rfl]
  exact Node.evalBody_coupled hcoupled .null _ _ ⟨fields, fields', rfl, rfl, hagree, rfl, rfl⟩

/-- A field is looked for, an item leaves its array and the run faults, in the same way whatever else the events
hold. -/
theorem compile_run_agree_fault :
    let source := "if exists(.a) \x7b .b = 1 \x7d\n.a.x = del(.l[0])\n.z = to_int!(.m)"
    let s : Surroundings := ⟨.fixed "UTC" 0, ⟨0, 0, 0⟩, 0⟩
    let s' : Surroundings := ⟨.fixed "UTC" 0, ⟨60, 0, 0⟩, 7⟩
    let fields : Fields Value := [("l", .array [.null, .integer 2]), ("m", .string "x"), ("user", .integer 1)]
    let fields' : Fields Value := [("c", .null), ("l", .array [.null, .integer 2]), ("m", .string "x")]
    ∃ p, compile Library.standard source = .ok p ∧ p.firstKeys = ["a", "b", "a", "l", "z", "m", "m"] ∧
      (p.run s (.object fields)).result.toBool = false ∧
      (p.run s (.object fields)).result = (p.run s' (.object fields')).result ∧
      ∃ after after', (p.run s (.object fields)).event = .object after ∧
        (p.run s' (.object fields')).event = .object after' ∧
        (∀ k ∈ p.firstKeys, Fields.get? k after = Fields.get? k after') ∧
        Fields.outside p.firstKeys after = [("user", .integer 1)] ∧
        Fields.outside p.firstKeys after' = [("c", .null)] := by
  intro source s s' fields fields'
  have hrun : (compile Library.standard source).toOption.map (fun p =>
      (p.firstKeys, decide ([] ∈ p.rootPaths), p.callSites.map (·.function.name),
        (p.run s (.object fields)).result.toBool)) =
        some (["a", "b", "a", "l", "z", "m", "m"], false, ["exists", "del", "to_int"], false) := by
    decide +kernel
  obtain ⟨p, hp, hread⟩ := exists_of_compile hrun
  simp only [Prod.mk.injEq] at hread
  obtain ⟨hkeys, hroot, hnames, hfault⟩ := hread
  have hcalls : ∀ c ∈ p.callSites, c.function.name ≠ "now" ∧ c.function.name ≠ "uuid_v4" := by
    intro c hc
    have hname : c.function.name ∈ ["exists", "del", "to_int"] := hnames ▸ List.mem_map.2 ⟨c, hc, rfl⟩
    revert hname
    generalize c.function.name = name
    decide +revert
  have hagree : ∀ k ∈ p.firstKeys, Fields.get? k fields = Fields.get? k fields' := by
    rw [hkeys]
    simp [fields, fields', Fields.get?]
  have hzone : s'.zone = s.zone := rfl
  obtain ⟨hresult, after, after', hafter, hafter', hsame, hothers, hothers'⟩ :=
    compile_run_agree (List.Subset.refl _) hp hcalls (of_decide_eq_false hroot) hzone hagree
  refine ⟨p, hp, hkeys, hfault, hresult, after, after', hafter, hafter', hsame, hothers.trans ?_, hothers'.trans ?_⟩
  · rw [hkeys]
    rfl
  · rw [hkeys]
    rfl

end Reshape
