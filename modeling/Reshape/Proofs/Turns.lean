/-
The loop over statements, turn by turn.

A turn of the loop finds a statement, or passes what is left of one that was abandoned, or leaves the loop.  An
overflow ends the loop as well, and with nothing found.

* `Expr.round`, `Expr.statements_succ` — a turn, and the loop as turns;
* `Expr.round_ends` — a turn that goes on has taken a token at least;
* `Expr.statements_stops` — so the loop comes to the end, or to the closing brace of its block.
-/
import Reshape.Proofs.Statements

namespace Reshape

variable {α : Type}

namespace Expr

open Parse

/-- The outcome of a reader that may abandon the statement, unless it has noted an overflow. -/
def attempt (q : Parse α) : Parse (Option α) := fun c =>
  match q c with
  | (some a, c) => (some (some a), c)
  | (none, c) => if c.overflowed then (none, c) else (some none, c)

theorem run_attempt_some {q : Parse α} {c c' : Cursor} {a : α} (h : q.run c = (some a, c')) :
    (attempt q).run c = (some (some a), c') := by
  rw [run] at h
  rw [run, attempt, h]

theorem run_attempt_none {q : Parse α} {c c' : Cursor} (h : q.run c = (none, c')) :
    (attempt q).run c = if c'.overflowed then (none, c') else (some none, c') := by
  rw [run] at h
  rw [run, attempt, h]

theorem cursor_attempt (q : Parse α) (c : Cursor) : ((attempt q).run c).2 = (q.run c).2 := by
  rcases hrun : q.run c with ⟨_ | a, c'⟩
  · rw [run_attempt_none hrun]
    split
    · rfl
    · rfl
  · rw [run_attempt_some hrun]

def unmatched (c : Cursor) : Cursor :=
  c.record
    { code := .syntaxError
      message := "unexpected `\x7d` with no open block"
      span := some c.current.span
      label := some "unmatched closing brace" }

/-- One turn of the loop over statements: what it has found, or none where the loop is left. -/
def round (inBlock : Bool) (statement : Parse Expr) : Parse (Option (List Expr)) := do
  move Cursor.skipSeparators
  let c ← cursor
  if c.kind = .eof || (inBlock && c.kind = .rBrace) then return none
  else if c.kind = .rBrace then
    move unmatched
    let _ ← token
    return some []
  else
    match ← attempt statement with
    | none =>
      move (Cursor.synchronize inBlock)
      return some []
    | some e =>
      let c ← cursor
      if c.kind.isTerminator || (inBlock && c.kind = .rBrace) then return some [e]
      else
        move (complain "end of statement")
        move (Cursor.synchronize inBlock)
        return some [e]

theorem statements_succ (fuel : Nat) (inBlock : Bool) :
    statements (fuel + 1) inBlock = (do
      match ← round inBlock (statement fuel) with
      | none => return []
      | some found => return found ++ (← statements fuel inBlock)) := by
  refine Parse.ext fun c => ?_
  rw [run, statements, round]
  dsimp only
  have hmove {β γ : Type} (m : Cursor → Cursor) (f : Unit → Parse β) (g : β → Parse γ) (c : Cursor) :
      ((move m >>= f) >>= g).run c = (f () >>= g).run (m c) := rfl
  have hcursor {β γ : Type} (f : Cursor → Parse β) (g : β → Parse γ) (c : Cursor) :
      ((cursor >>= f) >>= g).run c = (f c >>= g).run c := rfl
  have hon (found : List Expr) (c : Cursor) :
      (do return found ++ (← statements fuel inBlock) : Parse (List Expr)).run c =
        ((statements fuel inBlock c).1.map (found ++ ·), (statements fuel inBlock c).2) := by
    rw [run_bind, run]
    rcases statements fuel inBlock c with ⟨_ | rest, c'⟩
    · rfl
    · rfl
  have hagain (c : Cursor) :
      statements fuel inBlock c = (do return [] ++ (← statements fuel inBlock) : Parse (List Expr)).run c := by
    rw [hon]
    rcases statements fuel inBlock c with ⟨_ | rest, c'⟩
    · rfl
    · rfl
  rw [hmove]
  generalize c.skipSeparators = c₁
  rw [hcursor]
  split
  · rfl
  · split
    · exact hagain _
    · rw [run_bind, run_bind]
      rcases hrun : statement fuel c₁ with ⟨_ | e, c₂⟩
      · rw [run_attempt_none hrun]
        dsimp only
        split
        · rfl
        · exact hagain _
      · rw [run_attempt_some hrun]
        dsimp only
        rw [run_cursor_bind]
        by_cases hend : (c₂.kind.isTerminator || (inBlock && c₂.kind = .rBrace)) = true
        · rw [if_pos hend, if_pos hend]
          refine Eq.trans ?_ (hon [e] c₂).symm
          rcases statements fuel inBlock c₂ with ⟨_ | rest, c₃⟩
          · rfl
          · rfl
        · rw [if_neg hend, if_neg hend]
          refine Eq.trans ?_ (hon [e] ((complain "end of statement" c₂).synchronize inBlock)).symm
          rcases statements fuel inBlock ((complain "end of statement" c₂).synchronize inBlock) with ⟨_ | rest, c₃⟩
          · rfl
          · rfl

/-! ### Turns of the loop over statements -/

/-- Anything but the end and a closing brace is passed on the way to the next boundary. -/
theorem length_synchronize_lt {inBlock : Bool} {c : Cursor} (heof : c.kind ≠ .eof) (hclose : c.kind ≠ .rBrace) :
    (c.synchronize inBlock).tokens.length < c.tokens.length := by
  obtain ⟨tokens, last, ds⟩ := c
  rcases tokens with _ | ⟨t, rest⟩
  · exact absurd rfl heof
  have hpast (depth : Nat) : (Cursor.boundary inBlock depth t.span rest).1.length ≤ rest.length := by
    obtain ⟨front, hmoves⟩ := Cursor.exists_boundary_moves inBlock depth t.span rest ds
    have hlength := congrArg List.length hmoves.tokens
    rw [List.length_append] at hlength
    exact hlength ▸ Nat.le_add_left ..
  have hkind : Cursor.kind ⟨t :: rest, last, ds⟩ = t.kind := rfl
  rw [hkind] at heof hclose
  rw [Cursor.synchronize, List.length_cons, Nat.lt_succ_iff]
  dsimp only
  rw [Cursor.boundary]
  split
  · contradiction
  · exact Nat.le_refl _
  · exact Nat.le_refl _
  · exact hpast 1
  · contradiction
  · exact hpast 0

/-- How a turn ends: the loop is left before the end or a closing brace of its block, or the cursor has moved forward,
or there is an overflow. -/
def TurnEnds (inBlock : Bool) (c : Cursor) : Option (Option (List Expr)) × Cursor → Prop
  | (none, c') => c'.overflowed = true
  | (some none, c') => Reads c c' ∧ Stops inBlock c'
  | (some (some _), c') => Reads c c' ∧ c'.tokens.length < c.tokens.length

theorem round_ends (inBlock : Bool) {q : Parse Expr} (c : Cursor) (hq : ∀ c, Eats c (q.run c)) :
    TurnEnds inBlock c ((round inBlock q).run c) := by
  have hskipped := c.skipSeparators_reads
  have hle := hskipped.length_le
  have hskip (f : Unit → Parse (Option (List Expr))) :
      (move Cursor.skipSeparators >>= f).run c = (f ()).run c.skipSeparators := rfl
  rw [round, hskip, run_cursor_bind]
  generalize c.skipSeparators = c₁ at hle hskipped
  have hfound (found : List Expr) {c' : Cursor} (hreads : Reads c₁ c') (hlt : c'.tokens.length < c₁.tokens.length) :
      TurnEnds inBlock c (some (some found), c') :=
    ⟨hskipped.trans hreads, Nat.lt_of_lt_of_le hlt hle⟩
  split
  · rename_i hstops
    exact ⟨hskipped, by simpa [Stops] using hstops⟩
  · rename_i hstops
    have heof : c₁.kind ≠ .eof := fun heof => hstops (by simp [heof])
    split
    · have hlt : (unmatched c₁).advance.tokens.length < (unmatched c₁).tokens.length :=
        Cursor.length_advance_lt (c := unmatched c₁) heof
      exact hfound [] ((c₁.record_reads _).trans (Cursor.advance_reads _)) hlt
    · rename_i hclose
      have heats := hq c₁
      rw [run_bind]
      rcases hrun : q.run c₁ with ⟨_ | e, c₂⟩
      · rw [run_attempt_none hrun]
        by_cases hover : c₂.overflowed = true
        · rw [if_pos hover]
          exact hover
        rw [if_neg hover]
        -- what is left of an abandoned statement is passed
        have hreads := (heats.to hrun).trans (c₂.synchronize_reads inBlock)
        refine hfound [] hreads ?_
        have hsync := (c₂.synchronize_reads inBlock).length_le
        rcases Nat.lt_or_ge c₂.tokens.length c₁.tokens.length with hlt | hge
        · omega
        · have htokens : c₂.tokens = c₁.tokens := (heats.to hrun).left.eq_of_length_le hge
          have hkind : c₂.kind = c₁.kind := by rw [c₂.kind_eq_head?, c₁.kind_eq_head?, htokens]
          rw [← htokens]
          exact length_synchronize_lt (hkind ▸ heof) (hkind ▸ hclose)
      · have hlt := heats.lt hrun
        have hreads := heats.to hrun
        rw [run_attempt_some hrun]
        dsimp only
        rw [run_cursor_bind]
        split
        · exact hfound [e] hreads hlt
        · have hpast := (complain_reads c₂ "end of statement").trans (Cursor.synchronize_reads _ inBlock)
          exact hfound [e] (hreads.trans hpast) (Nat.lt_of_le_of_lt hpast.length_le hlt)

/-- With a turn for each token the loop comes to where it is left. -/
theorem statements_stops {inBlock : Bool} {fuel : Nat} {c c' : Cursor} {es : List Expr}
    (hfuel : c.tokens.length < fuel) (hrun : (statements fuel inBlock).run c = (some es, c')) : Stops inBlock c' := by
  induction fuel generalizing c es with
  | zero => omega
  | succ fuel ih =>
    rw [statements_succ] at hrun
    obtain ⟨r, c₁, hround, hrun⟩ := exists_of_run_bind hrun
    have hends := round_ends inBlock c (readersRead fuel).statement
    rw [hround] at hends
    cases r with
    | none =>
      obtain ⟨-, rfl⟩ := Prod.mk.inj hrun
      exact hends.2
    | some found =>
      have hfewer := hends.2
      obtain ⟨rest, c₂, hrest, hpure⟩ := exists_of_run_bind hrun
      obtain ⟨-, rfl⟩ := Prod.mk.inj hpure
      exact ih (by omega) hrest

end Expr

end Reshape
