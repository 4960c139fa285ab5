/-
Failures that are captured.

An assignment to two places writes null and the message of a failure where the value and null would go.  The
places are written one after the other, each by `Run.write`, and that refuses to put anything but an object
in place of the event itself: a capture ends in a fault if one of its places is the root, even though
`Value.insert` has nothing against either write.

* `Run.on_write_of_insert`, `Run.on_write_root` — the two ways of a write that `Value.insert` admits;
* `Node.eval_assignPair_of_fails` — what becomes of a failure that could be captured.
-/
import Reshape.Function.Standard
import Reshape.Proofs.Fault
import Reshape.Proofs.Place
import Reshape.Proofs.Resolution

namespace Reshape

namespace Run

variable {p : Path} {v event event' : Value} {old : Option Value}

theorem on_write_of_insert (hroot : p ≠ [] ∨ v.kind = .object) (h : event.insert p v = .ok (old, event'))
    (span : Span) : (write p v span).on event = (.ok ⟨⟩, event') := by
  have hguard : ¬(p.isEmpty && decide (v.kind ≠ .object)) = true := by
    simpa [or_iff_not_imp_left] using hroot
  rw [write, if_neg hguard, on_bind, on_get]
  dsimp only
  rw [h]
  rfl

/-- Only an object takes the place of the event. -/
theorem on_write_root (hv : v.kind ≠ .object) (span : Span) (event : Value) :
    (write [] v span).on event =
      (.error ⟨.typeMismatch s!"event root must be an object, got {v.kind.name}", some span⟩, event) := by
  rw [write, if_pos (by simp [hv])]
  rfl

end Run

namespace Node

open Run

variable {s : Surroundings} {span : Span} {ok err : Path} {f : Function} {inputs : List (Input Node)}
  {event event₁ event₂ event₃ event₄ : Value} {args : Arguments} {e : Failure} {old old' : Option Value}

/-- Once its function has failed, only the writes of a capture are left. -/
theorem on_eval_assignPair_of_error (hargs : (evalInputs s inputs).on event = (.ok args, event₁))
    (hcall : f.call s span.start event₁ args = (.error e, event₂)) :
    ((assignPair span ok err f inputs).eval s).on event = (store ok err span (.error e)).on event₂ := by
  rw [eval_assignPair, on_bind, hargs]
  dsimp only
  rw [on_bind, on_invoke, hcall]

theorem on_store_root_ok (s : Failure) (span : Span) (err : Path) (event : Value) :
    (store [] err span (.error s)).on event =
      (.error ⟨.typeMismatch "event root must be an object, got null", some span⟩, event) := by
  rw [store, on_bind, on_write_root (by simp [Value.kind])]
  rfl

theorem on_store_root_err (hok : ok ≠ []) (h : event.insert ok .null = .ok (old, event₁)) (e : Failure)
    (span : Span) :
    (store ok [] span (.error e)).on event =
      (.error ⟨.typeMismatch "event root must be an object, got string", some span⟩, event₁) := by
  rw [store, on_bind, on_write_of_insert (.inl hok) h]
  dsimp only
  rw [on_bind, on_write_root (by simp [Value.kind])]
  rfl

theorem on_store_of_ne (hok : ok ≠ []) (herr : err ≠ [])
    (h₁ : event.insert ok .null = .ok (old, event₁))
    (h₂ : event₁.insert err (.string e.message) = .ok (old', event₂)) (span : Span) :
    (store ok err span (.error e)).on event = (.ok .null, event₂) := by
  rw [store, on_bind, on_write_of_insert (.inl hok) h₁]
  dsimp only
  rw [on_bind, on_write_of_insert (.inl herr) h₂]
  rfl

/-- A function fails in an assignment to two places, and `Value.insert` admits both writes.  The failure is
captured, and its message then is at the second place, exactly if neither place is the root; otherwise the
assignment faults at the first place that is, with what it wrote before. -/
theorem eval_assignPair_of_fails (hargs : (evalInputs s inputs).on event = (.ok args, event₁))
    (hcall : f.call s span.start event₁ args = (.error e, event₂))
    (hok : event₂.insert ok .null = .ok (old, event₃))
    (herr : event₃.insert err (.string e.message) = .ok (old', event₄)) :
    event₄.get? err = some (.string e.message) ∧
      (((assignPair span ok err f inputs).eval s).on event = (.ok .null, event₄) ↔ ok ≠ [] ∧ err ≠ []) ∧
      (ok = [] → ((assignPair span ok err f inputs).eval s).on event =
        (.error ⟨.typeMismatch "event root must be an object, got null", some span⟩, event₂)) ∧
      (ok ≠ [] → err = [] → ((assignPair span ok err f inputs).eval s).on event =
        (.error ⟨.typeMismatch "event root must be an object, got string", some span⟩, event₃)) := by
  rw [on_eval_assignPair_of_error hargs hcall]
  refine ⟨Value.get?_of_insert herr, ⟨fun h => ?_, fun h => on_store_of_ne h.1 h.2 hok herr span⟩, ?_, ?_⟩
  · refine ⟨?_, ?_⟩
    · rintro rfl
      simp [on_store_root_ok] at h
    · rintro rfl
      by_cases hroot : ok = []
      · subst hroot
        simp [on_store_root_ok] at h
      · simp [on_store_root_err hroot hok] at h
  · rintro rfl
    exact on_store_root_ok e span err event₂
  · rintro hne rfl
    exact on_store_root_err hne hok e span

/-- Two fields are places for a failure. -/
theorem eval_assignPair_of_fails_fields :
    let s : Surroundings := ⟨.fixed "UTC" 0, ⟨0, 0, 0⟩, 0⟩
    let n := assignPair default [.key "ok"] [.key "err"] .toInt [.value (.path default [.key "m"])]
    ∃ event', (n.eval s).on (.object [("m", .string "x")]) = (.ok .null, event') ∧
      event'.get? [.key "err"] = some (.string "unable to convert \"x\" to integer") := by
  intro s n
  have h := @eval_assignPair_of_fails s default [.key "ok"] [.key "err"] .toInt
    [.value (.path default [.key "m"])] (.object [("m", .string "x")]) _ _ _ _ _ _ _ _ rfl rfl rfl rfl
  exact ⟨_, h.2.1.2 (by simp), h.1.trans rfl⟩

/-- Whether a node is an assignment to two places whose function fails on an event. -/
def failsInto (s : Surroundings) (event : Value) (ok err : Path) : Node → Bool
  | assignPair span ok' err' f inputs =>
    decide (ok' = ok ∧ err' = err) &&
      ((evalInputs s inputs >>= invoke s f span).on event).1.toOption.any fun r => !r.toBool
  | _ => false

theorem exists_of_failsInto {n : Node} (h : failsInto s event ok err n = true) :
    ∃ span f inputs args event₁ e event₂, n = assignPair span ok err f inputs ∧
      (evalInputs s inputs).on event = (.ok args, event₁) ∧
        f.call s span.start event₁ args = (.error e, event₂) := by
  cases n with
  | assignPair span ok' err' f inputs =>
    rw [failsInto, Bool.and_eq_true, decide_eq_true_eq, on_bind] at h
    obtain ⟨⟨rfl, rfl⟩, h⟩ := h
    rcases hargs : (evalInputs s inputs).on event with ⟨fault | args, event₁⟩
    · simp [hargs, Except.toOption] at h
    · rcases hcall : f.call s span.start event₁ args with ⟨e | v, event₂⟩
      · exact ⟨span, f, inputs, args, event₁, e, event₂, rfl, hargs, hcall⟩
      · simp [hargs, hcall, Except.toOption, Except.toBool] at h
  | _ => cases h

/-- The root is a place for neither part of a failure, though both writes are admitted. -/
theorem eval_assignPair_of_fails_root :
    ¬∀ {source : String} {p : Program}, compile Library.standard source = .ok p →
      ∀ {span ok err f inputs}, assignPair span ok err f inputs ∈ p.statements →
        ∀ {s event args event₁ e event₂ old event₃ old' event₄}, event.kind = .object →
          (evalInputs s inputs).on event = (.ok args, event₁) →
          f.call s span.start event₁ args = (.error e, event₂) →
          event₂.insert ok .null = .ok (old, event₃) →
          event₃.insert err (.string e.message) = .ok (old', event₄) →
            ∃ v event', ((assignPair span ok err f inputs).eval s).on event = (.ok v, event') ∧
              event'.get? err = some (.string e.message) := by
  intro h
  let s : Surroundings := ⟨.fixed "UTC" 0, ⟨0, 0, 0⟩, 0⟩
  let event : Value := .object [("m", .string "x")]
  have hrun : (compile Library.standard "., .err = to_int(.m)").toOption.map
      (fun p => p.statements.any (failsInto s event [] [.key "err"])) = some true := by
    decide +kernel
  obtain ⟨p, hp, hfails⟩ := exists_of_compile hrun
  obtain ⟨n, hn, hfails⟩ := List.any_eq_true.1 hfails
  obtain ⟨span, f, inputs, args, event₁, e, event₂, rfl, hargs, hcall⟩ := exists_of_failsInto hfails
  obtain ⟨v, event', heval, -⟩ := h hp hn rfl hargs hcall rfl rfl
  rw [on_eval_assignPair_of_error hargs hcall, on_store_root_ok] at heval
  cases heval

end Node

end Reshape
