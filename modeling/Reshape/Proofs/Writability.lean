/-
Refused writes.

A write walks its path twice: `checkWrite` looks for a segment that cannot be followed, and only then is the tree
changed, step by step.  `insertInPlace` writes into the tree as it stands, so that a walk which stopped half-way
would leave behind the objects that it has made (`writeFrom`).  The two walks agree on every tree and path, which is
why a refused write leaves no trace.

* `Refuses` — what cannot be followed, and the error that says so;
* `Value.checkFrom_eq` — the walk that looks and the walk that writes end the same way;
* `Value.checkWrite_eq_error_iff` — the error is the one of the first segment that cannot be followed;
* `Value.insert_refuses_exactly` — all of it, for writes at any path.
-/
import Reshape.Proofs.Addressing

namespace Reshape

open Value in
/-- A segment cannot be followed from what is found at the place `before`: a name in a value that is neither an
object nor null, a position outside its array, or a position in what is no array. -/
inductive Refuses (before : Path) : Option Value → Segment → WriteError → Prop where
  | notAnObject (v : Value) (k : String) (hnull : v.kind ≠ .null) (hobject : v.kind ≠ .object) :
    Refuses before (some v) (.key k) (.notAnObject before k v.kind)
  | outOfRange (items : List Value) (i : Int64)
      (hrange : i.toInt < -items.length ∨ items.length ≤ i.toInt) :
    Refuses before (some (array items)) (.index i) (.outOfRange before i items.length)
  | absent (i : Int64) : Refuses before none (.index i) (.missingArray before)
  | null (i : Int64) : Refuses before (some null) (.index i) (.missingArray before)
  | notAnArray (v : Value) (i : Int64) (hnull : v.kind ≠ .null) (harray : v.kind ≠ .array) :
    Refuses before (some v) (.index i) (.notAnArray before i v.kind)

theorem resolveIndex_eq_none_iff {i : Int64} {length : Nat} :
    resolveIndex i length = none ↔ i.toInt < -length ∨ length ≤ i.toInt := by
  unfold resolveIndex
  split
  · split <;> simp <;> omega
  · split <;> simp <;> omega

namespace Value

/-- Null is written into like an object without fields. -/
def opened (v : Value) : Value :=
  if v.isNull then emptyObject else v

/-- Writes into a tree as it stands: what was at the place, or where the walk stopped, and what the tree has become
by then. -/
def writeFrom (new : Value) : Path → Value → Path → Except WriteError (Option Value) × Value
  | _, current, [] => (.ok (some current), new)
  | before, current, .key k :: rest =>
    match current.opened with
    | object fields =>
      if rest.isEmpty then (.ok (Fields.get? k fields), object (Fields.insert k new fields))
      else
        let (result, child) := writeFrom new (before ++ [.key k]) ((Fields.get? k fields).getD null) rest
        (result, object (Fields.insert k child fields))
    | other => (.error (.notAnObject before k other.kind), other)
  | before, current, .index i :: rest =>
    match current with
    | array items =>
      match resolveIndex i items.length with
      | some n =>
        let (result, child) := writeFrom new (before ++ [.index i]) (items.getD n null) rest
        (result, array (items.set n child))
      | none => (.error (.outOfRange before i items.length), array items)
    | null => (.error (.missingArray before), null)
    | other => (.error (.notAnArray before i other.kind), other)

-- the field of the object is made before the array is missed
example : writeFrom (boolean true) [] emptyObject [.key "a", .index 0] =
    (.error (.missingArray [.key "a"]), object [("a", null)]) := rfl

/-- Writes at a path in place, after the path has been looked at. -/
def insertInPlace (root : Value) (path : Path) (new : Value) : Except WriteError (Option Value) × Value :=
  match root.checkWrite path with
  | .ok () => writeFrom new [] root path
  | .error e => (.error e, root)

/-- The segment with the number `n` of a path from the place `before`, where `found` is, cannot be followed from
what the segments in front of it lead to. -/
def RefusedAt (before : Path) (found : Option Value) (path : Path) (n : Nat) (e : WriteError) : Prop :=
  ∃ segment, path[n]? = some segment ∧
    Refuses (before ++ path.take n) (found.bind (·.get? (path.take n))) segment e

variable {current root : Value} {before rest path : Path} {s : Segment} {found : Option Value} {e e' : WriteError}

theorem opens_or (v : Value) : (∃ fields, v.Opens fields) ∨ v.kind ≠ .null ∧ v.kind ≠ .object := by
  cases v with
  | object fields => exact .inl ⟨fields, .inl rfl⟩
  | null => exact .inl ⟨[], .inr ⟨rfl, rfl⟩⟩
  | _ => exact .inr ⟨nofun, nofun⟩

/-! ### The walk that writes -/

theorem Opens.writeFrom_eq {v : Value} {fields : Fields Value} (h : v.Opens fields) (new : Value) (before : Path)
    (k : String) (rest : Path) :
    writeFrom new before v (.key k :: rest) =
      if rest.isEmpty then (.ok (Fields.get? k fields), object (Fields.insert k new fields))
      else
        let written := writeFrom new (before ++ [.key k]) ((Fields.get? k fields).getD null) rest
        (written.1, object (Fields.insert k written.2 fields)) := by
  rcases h with rfl | ⟨rfl, rfl⟩ <;> rfl

/-- The tree that is given back, if the walk does not stop, is the tree that the walk leaves. -/
theorem storeFrom_eq (new : Value) (before : Path) (current : Value) (path : Path) :
    storeFrom new before current path =
      (writeFrom new before current path).1.map (·, (writeFrom new before current path).2) := by
  induction path generalizing before current with
  | nil => rfl
  | cons s rest ih =>
    cases s with
    | key k =>
      rcases current.opens_or with ⟨fields, hopens⟩ | ⟨hnull, hobject⟩
      · rw [hopens.storeFrom_eq, hopens.writeFrom_eq]
        split
        · rfl
        · rw [ih]
          cases (writeFrom new (before ++ [.key k]) ((Fields.get? k fields).getD null) rest).1 <;> rfl
      · cases current <;> first | rfl | contradiction
    | index i =>
      cases current with
      | array items =>
        simp only [storeFrom, writeFrom]
        cases resolveIndex i items.length with
        | none => rfl
        | some n =>
          show (storeFrom new (before ++ [.index i]) (items.getD n null) rest >>= _) = _
          rw [ih]
          cases (writeFrom new (before ++ [.index i]) (items.getD n null) rest).1 <;> rfl
      | _ => rfl

/-! ### The walk that looks -/

theorem Opens.checkFrom_eq {fields : Fields Value} (h : (found.getD null).Opens fields) (before : Path)
    (k : String) (rest : Path) :
    checkFrom before found (.key k :: rest) = checkFrom (before ++ [.key k]) (Fields.get? k fields) rest := by
  cases found with
  | none =>
    rcases h with hobject | ⟨-, rfl⟩
    · cases hobject
    · rfl
  | some v => rcases h with h | ⟨h, rfl⟩ <;> obtain rfl : v = _ := h <;> rfl

/-- Looking finds what writing would run into. -/
theorem checkFrom_eq (new : Value) (before : Path) (found : Option Value) (path : Path) :
    checkFrom before found path = (writeFrom new before (found.getD null) path).1.map fun _ => () := by
  induction path generalizing before found with
  | nil => rfl
  | cons s rest ih =>
    cases s with
    | key k =>
      rcases (found.getD null).opens_or with ⟨fields, hopens⟩ | ⟨hnull, hobject⟩
      · rw [hopens.checkFrom_eq, hopens.writeFrom_eq]
        split
        · -- nothing is left to look at behind the last name
          rename_i hrest
          rw [List.isEmpty_iff.1 hrest]
          rfl
        · exact ih _ _
      · cases found with
        | none => exact absurd rfl hnull
        | some v => cases v <;> first | rfl | contradiction
    | index i =>
      cases found with
      | none => rfl
      | some v =>
        cases v with
        | array items =>
          simp only [checkFrom, writeFrom, Option.getD_some]
          cases resolveIndex i items.length with
          | none => rfl
          | some n =>
            show checkFrom _ items[n]? rest = _
            rw [ih, ← List.getD_eq_getElem?_getD]
        | _ => rfl

/-! ### The first segment that cannot be followed -/

theorem checkFrom_of_refuses (h : Refuses before found s e) : checkFrom before found (s :: rest) = .error e := by
  cases h with
  | notAnObject v k hnull hobject => cases v <;> first | rfl | contradiction
  | outOfRange items i hrange =>
    rw [checkFrom, resolveIndex_eq_none_iff.2 hrange]
  | absent i => rfl
  | null i => rfl
  | notAnArray v i hnull harray => cases v <;> first | rfl | contradiction

theorem checkFrom_of_not_refuses (h : ∀ e, ¬ Refuses before found s e) :
    checkFrom before found (s :: rest) = checkFrom (before ++ [s]) (found.bind (·.get? [s])) rest := by
  cases s with
  | key k =>
    cases found with
    | none => rfl
    | some v =>
      cases v with
      | object fields => simp [checkFrom, Option.bind_some]
      | null => rfl
      | _ => exact absurd (.notAnObject _ k nofun nofun) (h _)
  | index i =>
    cases found with
    | none => exact absurd (.absent i) (h _)
    | some v =>
      cases v with
      | array items =>
        cases hn : resolveIndex i items.length with
        | none => exact absurd (.outOfRange items i (resolveIndex_eq_none_iff.1 hn)) (h _)
        | some n => simp [checkFrom, hn, get?_array hn]
      | null => exact absurd (.null i) (h _)
      | _ => exact absurd (.notAnArray _ i nofun nofun) (h _)

/-- What cannot be followed is refused for one reason only. -/
theorem refuses_unique (h : Refuses before found s e) (h' : Refuses before found s e') : e = e' := by
  have he : checkFrom before found [s] = .error e := checkFrom_of_refuses h
  exact Except.error.inj (he.symm.trans (checkFrom_of_refuses h'))

theorem checkFrom_cons_eq_error_iff :
    checkFrom before found (s :: rest) = .error e ↔
      Refuses before found s e ∨ (∀ e', ¬ Refuses before found s e') ∧
        checkFrom (before ++ [s]) (found.bind (·.get? [s])) rest = .error e := by
  by_cases hs : ∃ e', Refuses before found s e'
  · obtain ⟨e', he'⟩ := hs
    rw [checkFrom_of_refuses he']
    refine ⟨fun h => .inl (Except.error.inj h ▸ he'), fun h => ?_⟩
    rcases h with h | ⟨h, -⟩
    · rw [refuses_unique h he']
    · exact absurd he' (h e')
  · have hs' : ∀ e', ¬ Refuses before found s e' := fun e' he' => hs ⟨e', he'⟩
    rw [checkFrom_of_not_refuses hs']
    exact ⟨fun h => .inr ⟨hs', h⟩, fun h => h.elim (fun he => absurd he (hs' e)) And.right⟩

theorem refusedAt_zero : RefusedAt before found (s :: rest) 0 e ↔ Refuses before found s e := by
  simp [RefusedAt]

theorem refusedAt_succ {n : Nat} :
    RefusedAt before found (s :: rest) (n + 1) e ↔
      RefusedAt (before ++ [s]) (found.bind (·.get? [s])) rest n e := by
  have hget : found.bind (·.get? (s :: rest.take n)) = (found.bind (·.get? [s])).bind (·.get? (rest.take n)) := by
    rw [Option.bind_assoc]
    exact congrArg _ (funext fun v => get?_cons v s (rest.take n))
  simp [RefusedAt, hget]

/-- The walk that looks stops at the first segment that cannot be followed, and says why. -/
theorem checkFrom_eq_error_iff :
    checkFrom before found path = .error e ↔
      ∃ n, RefusedAt before found path n e ∧ ∀ m < n, ∀ e', ¬ RefusedAt before found path m e' := by
  induction path generalizing before found with
  | nil => simp [checkFrom, RefusedAt]
  | cons s rest ih =>
    -- either the first segment is refused, with nothing in front of it, or the walk stops further down
    rw [checkFrom_cons_eq_error_iff, ih]
    constructor
    · rintro (h | ⟨hfirst, n, hn, hbefore⟩)
      · exact ⟨0, refusedAt_zero.2 h, nofun⟩
      · refine ⟨n + 1, refusedAt_succ.2 hn, fun m hm e' => ?_⟩
        cases m with
        | zero => exact mt refusedAt_zero.1 (hfirst e')
        | succ m => exact mt refusedAt_succ.1 (hbefore m (Nat.lt_of_succ_lt_succ hm) e')
    · rintro ⟨n, hn, hbefore⟩
      cases n with
      | zero => exact .inl (refusedAt_zero.1 hn)
      | succ n =>
        exact .inr ⟨fun e' => mt refusedAt_zero.2 (hbefore 0 n.succ_pos e'), n, refusedAt_succ.1 hn,
          fun m hm e' => mt refusedAt_succ.2 (hbefore (m + 1) (Nat.succ_lt_succ hm) e')⟩

/-! ### Writes at any path -/

/-- What is looked at without finding a fault is written. -/
theorem exists_writeFrom_eq_ok {path : Path} (new : Value) (h : root.checkWrite path = .ok ()) :
    ∃ old root', writeFrom new [] root path = (.ok old, root') := by
  have hlook := checkFrom_eq new [] (some root) path
  rw [show checkFrom [] (some root) path = .ok () from h, Option.getD_some] at hlook
  cases hwritten : writeFrom new [] root path with
  | mk result root' =>
    cases result with
    | ok old => exact ⟨old, root', rfl⟩
    | error e => rw [hwritten] at hlook; cases hlook

theorem insert_eq_error_iff (root : Value) (path : Path) (new : Value) (e : WriteError) :
    root.insert path new = .error e ↔ root.checkWrite path = .error e := by
  rw [insert, storeFrom_eq]
  cases hcheck : root.checkWrite path with
  | error e' =>
    show (Except.error e' : Except WriteError (Option Value × Value)) = .error e ↔ _
    rw [Except.error.injEq, Except.error.injEq]
  | ok _ =>
    obtain ⟨old, root', hwritten⟩ := exists_writeFrom_eq_ok new hcheck
    rw [hwritten]
    constructor
    · intro h
      cases h
    · intro h
      cases h

theorem insertInPlace_of_error (new : Value) (h : root.checkWrite path = .error e) :
    root.insertInPlace path new = (.error e, root) := by
  rw [insertInPlace, h]

/-- A write is refused if and only if the walk that looks stops, with the same error, and then the tree is as it was;
otherwise no step of the walk that writes fails.  The error is the one of the first segment of the path that
cannot be followed. -/
theorem insert_refuses_exactly (root : Value) (path : Path) (new : Value) :
    (∀ e, root.insert path new = .error e ↔ root.checkWrite path = .error e) ∧
    (∀ e, root.checkWrite path = .error e → root.insertInPlace path new = (.error e, root)) ∧
    (root.checkWrite path = .ok () →
      ∃ old root', writeFrom new [] root path = (.ok old, root') ∧
        root.insertInPlace path new = (.ok old, root') ∧ root.insert path new = .ok (old, root')) ∧
    ∀ e, root.checkWrite path = .error e ↔
      ∃ n, RefusedAt [] (some root) path n e ∧ ∀ m < n, ∀ e', ¬ RefusedAt [] (some root) path m e' := by
  refine ⟨insert_eq_error_iff root path new, fun e => insertInPlace_of_error new, fun hcheck => ?_,
    fun e => checkFrom_eq_error_iff⟩
  obtain ⟨old, root', hwritten⟩ := exists_writeFrom_eq_ok new hcheck
  refine ⟨old, root', hwritten, ?_, ?_⟩
  · rw [insertInPlace, hcheck]
    exact hwritten
  · rw [insert, hcheck, storeFrom_eq, hwritten]
    rfl

/-- The name could be written into null, the position behind it could not: nothing is made of the null. -/
theorem insert_refuses_exactly_null :
    let root : Value := object [("a", null)]
    let path : Path := [.key "a", .key "b", .index 0]
    let e : WriteError := .missingArray [.key "a", .key "b"]
    root.checkWrite path = .error e ∧ root.insert path (boolean true) = .error e ∧
      root.insertInPlace path (boolean true) = (.error e, root) ∧
        ∃ n, RefusedAt [] (some root) path n e ∧ ∀ m < n, ∀ e', ¬ RefusedAt [] (some root) path m e' := by
  intro root path e
  have hcheck : root.checkWrite path = .error e := rfl
  obtain ⟨hinsert, hsame, -, hfirst⟩ := insert_refuses_exactly root path (boolean true)
  exact ⟨hcheck, (hinsert e).2 hcheck, hsame e hcheck, (hfirst e).1 hcheck⟩

end Value

end Reshape
