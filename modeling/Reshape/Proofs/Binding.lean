/-
What an assignment to two places leaves behind.

The second write walks through a tree that the first has changed: objects were made on the way of the first, and null
was turned into one.  But a write does not change what a path means, unless the path leads on below its place
(`Value.slots_of_storeFrom`), so that two paths which go different ways before the first write do so after it, and
neither write is seen along the way of the other.

* `Value.insert_insert` — two writes one after the other;
* `Function.call_event` — functions that may fail leave the event alone;
* `Node.eval_assignPair_binds` — what is read after an assignment to two places that completes.
-/
import Reshape.Proofs.Failure
import Reshape.Proofs.Frame
import Reshape.Proofs.Refusal

namespace Reshape

namespace Value

variable {root root' root'' a b : Value} {p q : Path} {old old' : Option Value}

/-- A write does not change which ways two paths go, unless one of them leads on below its place. -/
theorem diverges_of_insert {r : Path} (h : root.insert p a = .ok (old, root'))
    (hq : root.Within p q → root.Within q p) (hr : root.Within p r → root.Within r p) (hqr : root.Diverges q r) :
    root'.Diverges q r := by
  have hstore := storeFrom_of_insert h
  rwa [Diverges, Within, Within, slots_of_storeFrom hstore hq, slots_of_storeFrom hstore hr]

/-- Two writes that go different ways: both values are at their places, and along every path that goes another way
than either the same is read as before. -/
theorem insert_insert (h : root.insert p a = .ok (old, root')) (h' : root'.insert q b = .ok (old', root''))
    (hpq : root.Diverges p q) :
    root''.get? p = some a ∧ root''.get? q = some b ∧
      ∀ r, root.Diverges p r → root.Diverges q r → root''.get? r = root.get? r := by
  have hstore := storeFrom_of_insert h
  have hstore' := storeFrom_of_insert h'
  have hqp' : root'.Diverges q p :=
    diverges_of_insert h (fun hwithin => absurd hwithin hpq.1) (fun hwithin => hwithin) ⟨hpq.2, hpq.1⟩
  have ha : root''.get? p = some a := (get?_of_storeFrom_of_diverges hstore' hqp').trans (get?_of_storeFrom hstore)
  refine ⟨ha, get?_of_storeFrom hstore', fun r hpr hqr => ?_⟩
  have hqr' : root'.Diverges q r :=
    diverges_of_insert h (fun hwithin => absurd hwithin hpq.1) (fun hwithin => absurd hwithin hpr.1) hqr
  exact (get?_of_storeFrom_of_diverges hstore' hqr').trans (get?_of_storeFrom_of_diverges hstore hpr)

end Value

namespace Function

/-- A standard function that may fail leaves the event as it is. -/
theorem call_event {f : Function} (hf : f ∈ Library.standard) (hfallible : f.fallible = true) (s : Surroundings)
    (serial : Nat) (root : Value) (args : Arguments) : (f.call s serial root args).2 = root := by
  unfold call
  split
  · rfl
  · rfl
  · rfl
  · rfl
  · rename_i hbody
    rw [eq_delete_of_removing hf hbody] at hfallible
    cases hfallible

end Function

namespace Run

variable {ok err : Path} {span : Span} {v event event' : Value} {r : Except Failure Value}

/-- The end of an assignment to two places that completes: both writes were made. -/
theorem on_store_ok :
    (store ok err span r).on event = (.ok v, event') ↔
      v = okPart r ∧
        ∃ event₁, written ok (okPart r) event = .ok event₁ ∧ written err (errPart r) event₁ = .ok event' := by
  rw [store_eq, on_bind_ok]
  constructor
  · rintro ⟨⟨⟩, event₁, hok, h⟩
    obtain ⟨⟨⟩, event₂, herr, h⟩ := on_bind_ok.1 h
    obtain ⟨rfl, rfl⟩ : okPart r = v ∧ event₂ = event' := by simpa using h
    exact ⟨rfl, event₁, on_write_ok.1 hok, on_write_ok.1 herr⟩
  · rintro ⟨rfl, event₁, hok, herr⟩
    exact ⟨⟨⟩, event₁, on_write_ok.2 hok, on_bind_ok.2 ⟨⟨⟩, event', on_write_ok.2 herr, rfl⟩⟩

end Run

namespace Node

open Run

variable {s : Surroundings} {span : Span} {ok err : Path} {f : Function} {inputs : List (Input Node)}
  {v event event' : Value}

/-- An assignment to two places that completes has evaluated its arguments, called its function and made both
writes. -/
theorem exists_of_on_eval_assignPair_ok (h : ((assignPair span ok err f inputs).eval s).on event = (.ok v, event')) :
    ∃ args event₁ r event₂, (evalInputs s inputs).on event = (.ok args, event₁) ∧
      f.call s span.start event₁ args = (r, event₂) ∧ (store ok err span r).on event₂ = (.ok v, event') := by
  rw [eval_assignPair, on_bind_ok] at h
  obtain ⟨args, event₁, hargs, h⟩ := h
  obtain ⟨r, event₂, hcall, h⟩ := on_bind_ok.1 h
  rw [on_invoke, Prod.mk.injEq, Except.ok.injEq] at hcall
  exact ⟨args, event₁, r, event₂, hargs, Prod.ext hcall.1 hcall.2, h⟩

/-- An assignment to two places in a compiled program, at any depth, that completes.  If its places go different ways
in the event as the arguments leave it, then the first reads the value of the assignment; that is the value of the
function, and the second reads null, or the function failed, the value is null, and the second reads the message.
Along every path that goes another way than either place the same is read as after the arguments. -/
theorem eval_assignPair_binds {library : Library} (hlib : library ⊆ Library.standard) {source : String} {p : Program}
    (hp : compile library source = .ok p) (hn : assignPair span ok err f inputs ∈ p.parts)
    (h : ((assignPair span ok err f inputs).eval s).on event = (.ok v, event')) :
    ∃ args event₁ r, (evalInputs s inputs).on event = (.ok args, event₁) ∧
      f.call s span.start event₁ args = (r, event₁) ∧
        (event₁.Diverges ok err → event'.get? ok = some v ∧
          (∀ w, r = .ok w → event'.get? ok = some w ∧ event'.get? err = some .null) ∧
          (∀ e, r = .error e → event'.get? ok = some .null ∧ event'.get? err = some (.string e.message)) ∧
          ∀ q, event₁.Diverges ok q → event₁.Diverges err q → event'.get? q = event₁.get? q) := by
  obtain ⟨args, event₁, r, event₂, hargs, hcall, hstore⟩ := exists_of_on_eval_assignPair_ok h
  -- the function is one that may fail, since its failure is captured
  obtain ⟨n, hmem, hn⟩ := mem_partsAll.1 hn
  have hsite : (⟨f, false, true, inputs⟩ : CallSite) ∈ p.callSites :=
    callSites_subset_all hmem (callSites_subset_of_mem_parts hn (by simp [callSites]))
  have hdisciplined := disciplined_of_compile hlib hp _ hsite
  have hevent : event₂ = event₁ := by
    rw [← Function.call_event (hlib hdisciplined.known) (hdisciplined.captures rfl).2 s span.start event₁ args, hcall]
  subst hevent
  refine ⟨args, event₂, r, hargs, hcall, fun hapart => ?_⟩
  obtain ⟨rfl, event₃, hok, herr⟩ := on_store_ok.1 hstore
  obtain ⟨old, hok⟩ := exists_insert_of_written hok
  obtain ⟨old', herr⟩ := exists_insert_of_written herr
  obtain ⟨hvalue, hmessage, hbeside⟩ := Value.insert_insert hok herr hapart
  refine ⟨hvalue, ?_, ?_, hbeside⟩
  · rintro w rfl
    exact ⟨hvalue, hmessage⟩
  · rintro e rfl
    exact ⟨hvalue, hmessage⟩

/-- The function fails, the first write makes an object of null, and the second goes through it. -/
theorem eval_assignPair_binds_null :
    let s : Surroundings := ⟨.fixed "UTC" 0, ⟨0, 0, 0⟩, 0⟩
    let event : Value := .object [("a", .null), ("m", .string "x")]
    ∃ p n v event', compile Library.standard ".a.x, .a.y = to_int(.m)" = .ok p ∧ n ∈ p.parts ∧
      (n.eval s).on event = (.ok v, event') ∧ event'.get? [.key "a", .key "x"] = some .null ∧
        ∃ e : Failure, event'.get? [.key "a", .key "y"] = some (.string e.message) := by
  intro s event
  let ok : Path := [.key "a", .key "x"]
  let err : Path := [.key "a", .key "y"]
  have hrun : (compile Library.standard ".a.x, .a.y = to_int(.m)").toOption.map
      (fun p => p.statements.any fun n => failsInto s event ok err n && ((n.eval s).on event).1.toBool) =
        some true := by
    decide +kernel
  obtain ⟨p, hp, hany⟩ := exists_of_compile hrun
  obtain ⟨n, hn, hcompletes⟩ := List.any_eq_true.1 hany
  obtain ⟨hfails, hcompletes⟩ := Bool.and_eq_true_iff.1 hcompletes
  have hmem : n ∈ p.parts := mem_partsAll.2 ⟨n, hn, n.mem_parts_self⟩
  obtain ⟨span, f, inputs, args, event₁, e, event₂, rfl, hargs, hcall⟩ := exists_of_failsInto hfails
  rcases heval : ((assignPair span ok err f inputs).eval s).on event with ⟨fault | v, event'⟩
  · rw [heval] at hcompletes
    cases hcompletes
  · obtain ⟨args', event₁', r, hargs', hcall', hbinds⟩ := eval_assignPair_binds (List.Subset.refl _) hp hmem heval
    cases hargs'.symm.trans hargs
    cases hcall'.symm.trans hcall
    have hapart : Path.Apart (Path.ofNames ["a", "y"]) ok := by decide
    obtain ⟨-, -, hfailed, -⟩ := hbinds (Value.diverges_of_apart hapart _)
    obtain ⟨hnull, hmessage⟩ := hfailed e rfl
    exact ⟨p, _, v, event', hp, hmem, heval, hnull, e, hmessage⟩

end Node

end Reshape
