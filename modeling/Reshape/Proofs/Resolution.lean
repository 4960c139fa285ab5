/-
Resolutions that succeed.

`Resolution.Gives r a` says that a resolution ends with `a` and that nothing was reported on the way.  Each
combinator of `Resolution` has one lemma that says when it gives a result, and so has `compile`:

* `compile_eq_ok` — a text compiles when no stage reports anything, and its program is what resolving gives.
-/
import Reshape.Program.Resolve

namespace Reshape

namespace Resolution

variable {α β γ : Type}

/-- The resolution ends with `a` and reports nothing. -/
def Gives (r : Resolution α) (a : α) : Prop :=
  r.result? = some a ∧ r.issues = []

@[simp] theorem gives_pure {a b : α} : (pure a).Gives b ↔ a = b := by
  simp [Gives, pure]

@[simp] theorem gives_map {f : α → β} {r : Resolution α} {b : β} :
    (r.map f).Gives b ↔ ∃ a, r.Gives a ∧ f a = b := by
  simp only [Gives, map, Option.map_eq_some_iff]
  constructor
  · rintro ⟨⟨a, ha, hf⟩, hi⟩
    exact ⟨a, ⟨ha, hi⟩, hf⟩
  · rintro ⟨a, ⟨ha, hi⟩, hf⟩
    exact ⟨⟨a, ha, hf⟩, hi⟩

@[simp] theorem gives_zipWith {f : α → β → γ} {r : Resolution α} {q : Resolution β} {c : γ} :
    (zipWith f r q).Gives c ↔ ∃ a b, r.Gives a ∧ q.Gives b ∧ f a b = c := by
  simp only [Gives, zipWith, Option.pure_def, Option.bind_eq_bind, Option.bind_eq_some_iff,
    Option.some_inj, List.append_eq_nil_iff]
  constructor
  · rintro ⟨⟨a, ha, b, hb, hf⟩, hr, hq⟩
    exact ⟨a, b, ⟨ha, hr⟩, ⟨hb, hq⟩, hf⟩
  · rintro ⟨a, b, ⟨ha, hr⟩, ⟨hb, hq⟩, hf⟩
    exact ⟨⟨a, ha, b, hb, hf⟩, hr, hq⟩

@[simp] theorem not_gives_failed {issues : List Diagnostic} {r : Resolution α} {b : β} :
    ¬ (failed issues r).Gives b := by
  simp [Gives, failed]

@[simp] theorem gives_after {issues : List Diagnostic} {r : Resolution α} {a : α} :
    (after issues r).Gives a ↔ issues = [] ∧ r.Gives a := by
  rcases issues with _ | ⟨d, ds⟩
  · simp [Gives, after]
  · simp [Gives, after]

end Resolution

/-- A text compiles exactly when neither scanning nor reading nor resolving reports anything. -/
theorem compile_eq_ok {library : Library} {source : String} {p : Program} :
    compile library source = .ok p ↔
      (tokenize source).2 = [] ∧ ∃ es, Expr.parse (tokenize source).1 = .ok (es, []) ∧ p.source = source ∧
        (Expr.resolveAll library es).Gives p.statements := by
  obtain ⟨text, nodes⟩ := p
  simp only [compile, Resolution.Gives]
  rcases hparse : Expr.parse (tokenize source).1 with o | ⟨es, ds⟩
  · simp
  by_cases hread : (tokenize source).2 ++ ds = []
  · obtain ⟨hlex, rfl⟩ := List.append_eq_nil_iff.1 hread
    dsimp only
    rw [hread]
    simp only [List.isEmpty_nil, Bool.not_true, Bool.false_eq_true, if_false, hlex, true_and, Except.ok.injEq,
      Prod.mk.injEq, and_true, exists_eq_left']
    split
    · rename_i found hfound hnone
      rw [hfound, hnone]
      simp [eq_comm]
    · rename_i found issues hother
      constructor
      · intro h
        cases h
      · rintro ⟨-, hresult, hnone⟩
        exact absurd hnone (fun hnone => hother nodes hresult hnone)
  · dsimp only
    rw [if_pos (by simpa using hread)]
    constructor
    · intro h
      cases h
    · rintro ⟨hlex, es', hes, -⟩
      obtain ⟨rfl, rfl⟩ := Prod.mk.inj (Except.ok.inj hes)
      exact absurd (by rw [hlex]; rfl) hread

/-- A text compiles if something can be read off its program. -/
theorem exists_of_compile {library : Library} {source : String} {α : Type} {f : Program → α} {a : α}
    (h : (compile library source).toOption.map f = some a) :
    ∃ p, compile library source = .ok p ∧ f p = a := by
  obtain ⟨p, hp, hf⟩ := Option.map_eq_some_iff.1 h
  cases hc : compile library source with
  | error ds => simp [hc, Except.toOption] at hp
  | ok q =>
    obtain rfl : q = p := by simpa [hc, Except.toOption] using hp
    exact ⟨q, rfl, hf⟩

end Reshape
