/-
Writes that are refused.

A write gives a changed event, or it is refused and the event is as it was.  An assignment to two places makes
two writes, and there is no way back from the first: when the second is refused, what the first wrote stays.

* `Run.on_write` — a refused write changes nothing;
* `Node.eval_assignPair_on_error` — the event that an assignment to two places leaves when it faults.
-/
import Reshape.Proofs.Capture

namespace Reshape

namespace Run

/-- The event after a write, or why the write is refused. -/
def written (p : Path) (v event : Value) : Except FaultCause Value :=
  if p.isEmpty && v.kind ≠ .object then
    .error (.typeMismatch s!"event root must be an object, got {v.kind.name}")
  else
    match event.insert p v with
    | .ok (_, event') => .ok event'
    | .error e => .error (refusal e)

/-- What an assignment to two places writes at the first. -/
def okPart : Except Failure Value → Value
  | .ok v => v
  | .error _ => .null

/-- What an assignment to two places writes at the second. -/
def errPart : Except Failure Value → Value
  | .ok _ => .null
  | .error e => .string e.message

variable {p ok err : Path} {v event event' : Value} {span : Span} {fault : Fault}

theorem on_write (p : Path) (v : Value) (span : Span) (event : Value) :
    (write p v span).on event =
      match written p v event with
      | .ok event' => (.ok ⟨⟩, event')
      | .error cause => (.error ⟨cause, some span⟩, event) := by
  unfold write written
  split
  · rfl
  · rw [on_bind, on_get]
    dsimp only
    rcases event.insert p v with e | ⟨old, event'⟩
    · rfl
    · rfl

theorem on_write_ok : (write p v span).on event = (.ok ⟨⟩, event') ↔ written p v event = .ok event' := by
  rw [on_write]
  cases written p v event with
  | ok event₁ => simp
  | error cause => simp

theorem on_write_error :
    (write p v span).on event = (.error fault, event') ↔
      ∃ cause, written p v event = .error cause ∧ fault = ⟨cause, some span⟩ ∧ event' = event := by
  rw [on_write]
  cases written p v event with
  | ok event₁ => simp
  | error cause => simp [eq_comm]

/-- A write that is made inserts. -/
theorem exists_insert_of_written (h : written p v event = .ok event') : ∃ old, event.insert p v = .ok (old, event') := by
  unfold written at h
  split at h
  · cases h
  · split at h
    · rename_i old event₁ hinsert
      obtain rfl := Except.ok.inj h
      exact ⟨old, hinsert⟩
    · cases h

/-- What was written is there. -/
theorem get?_of_written (h : written p v event = .ok event') : event'.get? p = some v := by
  obtain ⟨old, hinsert⟩ := exists_insert_of_written h
  exact Value.get?_of_insert hinsert

theorem store_eq (ok err : Path) (span : Span) (r : Except Failure Value) :
    store ok err span r = (do
      write ok (okPart r) span
      write err (errPart r) span
      return okPart r) := by
  cases r with
  | ok v => rfl
  | error e => rfl

/-- The end of an assignment to two places faults at its first write or at its second. -/
theorem on_store_error {r : Except Failure Value} :
    (store ok err span r).on event = (.error fault, event') ↔
      (∃ cause, written ok (okPart r) event = .error cause ∧ fault = ⟨cause, some span⟩ ∧ event' = event) ∨
        ∃ cause, written ok (okPart r) event = .ok event' ∧
          written err (errPart r) event' = .error cause ∧ fault = ⟨cause, some span⟩ := by
  rw [store_eq, on_bind_error, on_write_error]
  refine or_congr Iff.rfl ⟨?_, ?_⟩
  · rintro ⟨⟨⟩, event₁, hok, h⟩
    rw [on_bind_error, on_write_error] at h
    rcases h with ⟨cause, herr, hfault, rfl⟩ | ⟨-, event₂, -, h⟩
    · exact ⟨cause, on_write_ok.1 hok, herr, hfault⟩
    · simp at h
  · rintro ⟨cause, hok, herr, hfault⟩
    refine ⟨⟨⟩, event', on_write_ok.2 hok, ?_⟩
    exact on_bind_error.2 (.inl (on_write_error.2 ⟨cause, herr, hfault, rfl⟩))

end Run

namespace Node

open Run

variable {s : Surroundings} {span : Span} {ok err : Path} {f : Function} {inputs : List (Input Node)}
  {event event₁ event₂ : Value} {args : Arguments} {r : Except Failure Value}

/-- An assignment to two places, once its function was called, faults in two ways.  The write to the first
place is refused, and the event is as the call left it; or the write to the second is, and the event is that
one with the first write done. -/
theorem eval_assignPair_on_error (hargs : (evalInputs s inputs).on event = (.ok args, event₁))
    (hcall : f.call s span.start event₁ args = (r, event₂)) (fault : Fault) (event' : Value) :
    ((assignPair span ok err f inputs).eval s).on event = (.error fault, event') ↔
      (∃ cause, written ok (okPart r) event₂ = .error cause ∧ fault = ⟨cause, some span⟩ ∧ event' = event₂) ∨
        ∃ cause, written ok (okPart r) event₂ = .ok event' ∧ event'.get? ok = some (okPart r) ∧
          written err (errPart r) event' = .error cause ∧ fault = ⟨cause, some span⟩ := by
  have heval : ((assignPair span ok err f inputs).eval s).on event = (store ok err span r).on event₂ := by
    rw [eval_assignPair, on_bind, hargs]
    dsimp only
    rw [on_bind, on_invoke, hcall]
  rw [heval, on_store_error]
  refine or_congr Iff.rfl (exists_congr fun cause => ⟨?_, ?_⟩)
  · rintro ⟨hok, herr, hfault⟩
    exact ⟨hok, get?_of_written hok, herr, hfault⟩
  · rintro ⟨hok, -, herr, hfault⟩
    exact ⟨hok, herr, hfault⟩

/-- A number has no fields, so that the value is left without a place for the message. -/
theorem eval_assignPair_on_error_scalar :
    let s : Surroundings := ⟨.fixed "UTC" 0, ⟨0, 0, 0⟩, 0⟩
    let n := assignPair default [.key "ok"] [.key "x", .key "y"] .toInt [.value (.constant default (.string "5"))]
    ∃ fault, (n.eval s).on (.object [("x", .integer 1)]) =
      (.error fault, .object [("ok", .integer 5), ("x", .integer 1)]) := by
  intro s n
  exact ⟨_, (@eval_assignPair_on_error s default [.key "ok"] [.key "x", .key "y"] .toInt
    [.value (.constant default (.string "5"))] (.object [("x", .integer 1)]) _ _ _ _ rfl rfl _ _).2
    (.inr ⟨_, rfl, rfl, rfl, rfl⟩)⟩

/-- Whether a node is an assignment to two places that faults on an event and leaves something at the first of
them, where its call had left nothing. -/
def leavesFirst (s : Surroundings) (event : Value) : Node → Bool
  | assignPair span ok err f inputs =>
    let called := (evalInputs s inputs >>= invoke s f span).on event
    let out := ((assignPair span ok err f inputs).eval s).on event
    called.1.toBool && !out.1.toBool && (called.2.get? ok).isNone && (out.2.get? ok).isSome
  | _ => false

theorem exists_of_leavesFirst {n : Node} (h : leavesFirst s event n = true) :
    ∃ span ok err f inputs args event₁ r event₂ fault event', n = assignPair span ok err f inputs ∧
      (evalInputs s inputs).on event = (.ok args, event₁) ∧ f.call s span.start event₁ args = (r, event₂) ∧
        ((assignPair span ok err f inputs).eval s).on event = (.error fault, event') ∧ event' ≠ event₂ := by
  cases n with
  | assignPair span ok err f inputs =>
    simp only [leavesFirst, Bool.and_eq_true] at h
    obtain ⟨⟨⟨hcalled, hfault⟩, hnone⟩, hsome⟩ := h
    rw [on_bind] at hcalled hnone
    rcases hargs : (evalInputs s inputs).on event with ⟨fault | args, event₁⟩
    · simp [hargs, Except.toBool] at hcalled
    rcases hout : ((assignPair span ok err f inputs).eval s).on event with ⟨fault | v, event'⟩
    · rcases hcall : f.call s span.start event₁ args with ⟨r, event₂⟩
      refine ⟨span, ok, err, f, inputs, args, event₁, r, event₂, fault, event', rfl, hargs, hcall, hout, ?_⟩
      rintro rfl
      simp only [hargs, on_invoke, hcall] at hnone
      rw [hout, Option.isNone_iff_eq_none.1 hnone] at hsome
      cases hsome
    · simp [hout, Except.toBool] at hfault
  | _ => cases h

/-- A refused second write does not take the first one back. -/
theorem eval_assignPair_not_undone :
    ¬∀ {source : String} {p : Program}, compile Library.standard source = .ok p →
      ∀ {span ok err f inputs}, assignPair span ok err f inputs ∈ p.statements →
        ∀ {s event args event₁ r event₂ fault event'}, event.kind = .object →
          (evalInputs s inputs).on event = (.ok args, event₁) →
          f.call s span.start event₁ args = (r, event₂) →
          ((assignPair span ok err f inputs).eval s).on event = (.error fault, event') → event' = event₂ := by
  intro h
  let s : Surroundings := ⟨.fixed "UTC" 0, ⟨0, 0, 0⟩, 0⟩
  let event : Value := .object [("x", .integer 1)]
  have hrun : (compile Library.standard ".ok, .x.y = to_int(\"5\")").toOption.map
      (fun p => p.statements.any (leavesFirst s event)) = some true := by
    decide +kernel
  obtain ⟨p, hp, hleaves⟩ := exists_of_compile hrun
  obtain ⟨n, hn, hleaves⟩ := List.any_eq_true.1 hleaves
  obtain ⟨span, ok, err, f, inputs, args, event₁, r, event₂, fault, event', rfl, hargs, hcall, hout, hne⟩ :=
    exists_of_leavesFirst hleaves
  exact hne (h hp hn rfl hargs hcall hout)

end Node

end Reshape
