/-
Expressions that programs can have.

Not every expression is read from some text: a path starts with a key, a function has a name that is a word, a minus
before a number is a part of the number, and what follows an `else` is a branch or a block.  An expression that
keeps to this, all through, is `Formed`.  Such an expression is written as tokens that can be read back.

* `Expr.Formed` — expressions as programs have them;
* `Expr.laid_program` — what is written for statements can be read back token by token.
-/
import Reshape.Proofs.Layout

namespace Reshape

open Piece

/-! ### Runs of pieces -/

/-- What can stand behind an operand: it neither continues a token nor depends on the token before, as long as
this is no name and ends no line. -/
structure Closing (rest : List Piece) : Prop where
  laid : ∀ k : TokenKind, k ≠ .newline → k.isName = false → Laid k rest
  delimits : Scan.isDelimiter (Scan.next (writeAll rest)) = true

/-- What can stand where an operand can: after a token that ends none, and before what can stand behind one. -/
def Phrase (ps : List Piece) : Prop :=
  ∀ ⦃k : TokenKind⦄ ⦃rest : List Piece⦄, k.endsOperand = false → Closing rest → Laid k (ps ++ rest)

theorem TokenKind.isName_of_endsOperand {k : TokenKind} (h : k.endsOperand = false) : k.isName = false := by
  cases k with
  | ident name => cases h
  | _ => rfl

namespace Closing

theorem nil : Closing [] :=
  ⟨fun _ _ _ => trivial, rfl⟩

theorem blank {ps : List Piece} (h : ∀ k : TokenKind, k ≠ .newline → k.isName = false → Laid k ps) :
    Closing (.blank :: ps) :=
  ⟨fun k hk hname => ⟨hname, h k hk hname⟩, rfl⟩

theorem rParen {ps : List Piece} (h : Laid .rParen ps) : Closing (.token .rParen :: ps) :=
  ⟨fun _ _ _ => ⟨trivial, trivial, rfl, h⟩, rfl⟩

theorem rBracket {ps : List Piece} (h : Laid .rBracket ps) : Closing (.token .rBracket :: ps) :=
  ⟨fun _ _ _ => ⟨trivial, trivial, rfl, h⟩, rfl⟩

theorem comma {ps : List Piece} (h : Laid .comma ps) : Closing (.token .comma :: ps) :=
  ⟨fun _ _ _ => ⟨trivial, trivial, rfl, h⟩, rfl⟩

theorem newline {ps : List Piece} (h : Laid .newline ps) : Closing (.token .newline :: ps) :=
  ⟨fun _ hk _ => ⟨trivial, hk, rfl, h⟩, rfl⟩

end Closing

section Runs

variable {k : TokenKind} {ps rest : List Piece} {pss : List (List Piece)}

theorem laid_enclosed (h : Phrase ps) (hrest : Laid .rParen rest) : Laid k (enclosed ps ++ rest) := by
  have hinner : Laid .lParen (ps ++ .token .rParen :: rest) := h rfl (.rParen hrest)
  rw [enclosed, List.cons_append, List.cons_append, List.append_assoc]
  exact ⟨trivial, trivial, rfl, hinner⟩

theorem Phrase.enclosed (h : Phrase ps) : Phrase (enclosed ps) :=
  fun _ _ _ hrest => laid_enclosed h (hrest.laid .rParen (by simp) rfl)

/-- Runs that can stand where operands can, each behind what separates it from the one before. -/
theorem laid_intercalate {sep : List Piece} {j : TokenKind} (hj : j.endsOperand = false)
    (hsep : ∀ {more : List Piece}, Laid j more → Closing (sep ++ more)) (h : ∀ ps ∈ pss, Phrase ps) (hne : pss ≠ [])
    (hk : k.endsOperand = false) (hrest : Closing rest) : Laid k (sep.intercalate pss ++ rest) := by
  induction pss generalizing k with
  | nil => exact absurd rfl hne
  | cons ps pss ih =>
    rw [intercalate_cons_append]
    split
    · exact h ps List.mem_cons_self hk hrest
    · rename_i hne'
      exact h ps List.mem_cons_self hk (hsep (ih (fun qs hqs => h qs (List.mem_cons_of_mem _ hqs)) hne' hj))

theorem laid_commas (h : ∀ ps ∈ pss, Phrase ps) (hk : k.endsOperand = false) (hnewline : k ≠ .newline)
    (hrest : Closing rest) : Laid k (commas pss ++ rest) := by
  by_cases hne : pss = []
  · rw [hne]
    exact hrest.laid k hnewline (TokenKind.isName_of_endsOperand hk)
  · have hj : TokenKind.endsOperand .comma = false := rfl
    exact laid_intercalate hj (fun hmore => .comma ⟨rfl, hmore⟩) h hne hk hrest

theorem laid_lines (h : ∀ ps ∈ pss, Phrase ps) (hne : pss ≠ []) (hk : k.endsOperand = false)
    (hrest : Closing rest) : Laid k (lines pss ++ rest) :=
  have hj : TokenKind.endsOperand .newline = false := rfl
  laid_intercalate hj .newline h hne hk hrest

theorem laid_braced (h : ∀ ps ∈ pss, Phrase ps) (hrest : Laid .rBrace rest) : Laid k (braced pss ++ rest) := by
  unfold braced
  split
  · exact ⟨trivial, trivial, rfl, trivial, trivial, rfl, trivial, trivial, rfl, hrest⟩
  · rename_i hne
    have hclose : Closing (.token .newline :: .token .rBrace :: rest) :=
      .newline ⟨trivial, trivial, rfl, hrest⟩
    have hbody : Laid .newline (lines pss ++ .token .newline :: .token .rBrace :: rest) :=
      laid_lines h (by simpa using hne) rfl hclose
    rw [List.cons_append, List.cons_append, List.append_assoc]
    exact ⟨trivial, trivial, rfl, trivial, TokenKind.noConfusion, rfl, hbody⟩

end Runs

/-! ### Expressions -/

/-- A path that can stand behind a value: it starts with a key, or is an index in brackets of its own. -/
def Path.Trails : Path → Prop
  | .key _ :: _ => True
  | [.index _] => True
  | _ => False

namespace Expr

/-- The places that an assignment writes to. -/
def targets : Expr → List Path
  | assign _ target _ => [target.path]
  | assignPair _ ok err _ => [ok.path, err.path]
  | _ => []

/-- The value of an assignment; any other expression is one itself. -/
def assigned : Expr → Expr
  | assign _ _ value | assignPair _ _ _ value => value
  | e => e

/-- What can follow an `else`. -/
def isAlternative : Expr → Bool
  | branch _ _ _ _ | block _ _ => true
  | _ => false

/-- Expressions that programs can have where no assignment can stand. -/
inductive Formed : Expr → Prop
  | literal {s v} : v.kind.Readable → Formed (literal s v)
  | array {s items} : (∀ e ∈ items, Formed e) → Formed (array s items)
  | object {s entries} : (∀ entry ∈ entries, Formed entry.2) → Formed (object s entries)
  | path {s p} : p.Rooted → Formed (path s p)
  | access {s base p} : Formed base → p.Trails → Formed (access s base p)
  | call {s callee arguments} : Scan.IsName callee.name → callee.name ≠ "del" → (∀ e ∈ arguments, Formed e) →
      Formed (call s callee arguments)
  | binary {s op left right} : Formed left → Formed right → Formed (binary s op left right)
  | unary {s op operand} : Formed operand → (∀ s, applyPrefix op s operand = unary s op operand) →
      Formed (unary s op operand)
  | branch {s condition body} : Formed condition → (∀ e ∈ body, ∀ p ∈ e.targets, p.Rooted) →
      (∀ e ∈ body, Formed e.assigned) → Formed (branch s condition body none)
  | branchElse {s condition body alternative} : Formed condition → (∀ e ∈ body, ∀ p ∈ e.targets, p.Rooted) →
      (∀ e ∈ body, Formed e.assigned) → alternative.isAlternative = true → Formed alternative →
      Formed (branch s condition body (some alternative))
  | block {s body} : (∀ e ∈ body, ∀ p ∈ e.targets, p.Rooted) → (∀ e ∈ body, Formed e.assigned) →
      Formed (block s body)
  | delete {s target aborts} : target.path.Rooted → Formed (delete s target aborts)

/-- Expressions that programs can have as a statement. -/
structure Stated (e : Expr) : Prop where
  targets : ∀ p ∈ e.targets, p.Rooted
  formed : e.assigned.Formed

theorem piecesEntries_eq_map (entries : List (String × Expr)) : piecesEntries entries =
    entries.map fun entry => token (.string entry.1) :: token .colon :: blank :: entry.2.pieces := by
  induction entries with
  | nil => rfl
  | cons entry rest ih => exact congrArg ((token (.string entry.1) :: token .colon :: blank :: entry.2.pieces) :: ·) ih

theorem phrase_assignment {e : Expr} (htargets : ∀ p ∈ e.targets, p.Rooted) (h : Phrase e.assigned.pieces) :
    Phrase e.pieces := by
  intro k rest hk hrest
  cases e with
  | assign s target value =>
    have hvalue : Laid .assign (value.pieces ++ rest) := h rfl hrest
    exact ⟨htargets _ List.mem_cons_self, trivial, rfl, rfl, trivial, trivial, rfl, rfl, hvalue⟩
  | assignPair s ok err value =>
    have hvalue : Laid .assign (value.pieces ++ rest) := h rfl hrest
    exact ⟨htargets _ List.mem_cons_self, trivial, rfl, trivial, trivial, rfl, rfl,
      htargets _ (List.mem_cons_of_mem _ List.mem_cons_self), trivial, rfl, rfl, trivial, trivial, rfl, rfl, hvalue⟩
  | _ => exact h hk hrest

theorem laid_callee {k : TokenKind} {name : String} {aborts : Bool} {ps : List Piece} (hname : Scan.IsName name)
    (hps : ∀ k, Laid k ps) (hnext : Scan.next (writeAll ps) = '(') : Laid k (calleePieces name aborts ++ ps) := by
  cases aborts with
  | false =>
    have hallows : (TokenKind.ident name).allows (Scan.next (writeAll ps)) = true := by
      rw [hnext]
      rfl
    exact ⟨hname, trivial, hallows, hps _⟩
  | true =>
    have hallows : TokenKind.abortMarker.allows (Scan.next (writeAll ps)) = true := by
      rw [hnext]
      rfl
    exact ⟨hname, trivial, rfl, trivial, rfl, hallows, hps _⟩

theorem laid_call {k : TokenKind} {name : String} {aborts : Bool} {ps rest : List Piece} (hname : Scan.IsName name)
    (h : ∀ k rest, k.endsOperand = false → Closing rest → k ≠ .newline → Laid k (ps ++ rest)) (hrest : Laid .rParen rest) :
    Laid k (calleePieces name aborts ++ enclosed ps ++ rest) := by
  rw [List.append_assoc]
  refine laid_callee hname (fun k => ?_) rfl
  rw [enclosed, List.cons_append, List.cons_append, List.append_assoc]
  exact ⟨trivial, trivial, rfl, h _ _ rfl (.rParen hrest) (by simp)⟩

theorem laid_suffix {p : Path} {rest : List Piece} (hp : p.Trails) (hrest : Closing rest) :
    Laid .rParen (suffixPieces p ++ rest) := by
  unfold suffixPieces
  split
  · exact ⟨trivial, trivial, rfl, trivial, fun _ => rfl, rfl, trivial, trivial, rfl, hrest.laid _ (by simp) rfl⟩
  · have hrooted : p.Rooted := by
      unfold Path.Trails at hp
      split at hp
      · trivial
      · rename_i i hne
        exact absurd rfl (hne i)
      · cases hp
    exact ⟨hrooted, trivial, hrest.delimits, hrest.laid _ (by simp) rfl⟩

theorem phrases_body {body : List Expr} (htargets : ∀ e ∈ body, ∀ p ∈ e.targets, p.Rooted)
    (h : ∀ e ∈ body, Phrase e.assigned.pieces) : ∀ ps ∈ piecesAll body, Phrase ps :=
  forall_mem_piecesAll.2 fun e he => phrase_assignment (htargets e he) (h e he)

theorem joins_scalar {v : Scalar} {k : TokenKind} {c : Char} (hv : v.kind.Readable) (hk : k.endsOperand = false)
    (hc : Scan.isDelimiter c = true) :
    k.Joins v.kind ∧ v.kind.allows c = true ∧ v.kind ≠ .newline ∧ v.kind.isName = false := by
  cases v with
  | boolean b =>
    cases b with
    | false => exact ⟨trivial, hc, by simp [Scalar.kind], rfl⟩
    | true => exact ⟨trivial, hc, by simp [Scalar.kind], rfl⟩
  | null => exact ⟨trivial, hc, by simp [Scalar.kind], rfl⟩
  | string t => exact ⟨trivial, rfl, by simp [Scalar.kind], rfl⟩
  | integer i => exact ⟨fun _ => hk, hc, by simp [Scalar.kind], rfl⟩
  | float f | timestamp t => cases hv

theorem readable_op (op : BinaryOp) : op.kind.Readable ∧ op.kind.allows ' ' = true ∧ op.kind.isName = false ∧
    ∀ k : TokenKind, k.Joins op.kind := by
  cases op with
  | _ => exact ⟨trivial, rfl, rfl, fun _ => trivial⟩

theorem isName_del : Scan.IsName "del" :=
  ⟨rfl, ⟨'d', ['e', 'l'], rfl, rfl⟩, List.all_eq_true.1 rfl⟩

/-- What is written for an expression can stand as an operand. -/
theorem Formed.phrase {e : Expr} (h : e.Formed) : Phrase e.pieces := by
  -- each case lays its tokens from the last one back to the first, with what is inside by induction
  induction h with
  | @literal s v hv =>
    intro k rest hk hrest
    obtain ⟨hjoins, hallows, hnewline, hname⟩ := joins_scalar hv hk hrest.delimits
    exact ⟨hv, hjoins, hallows, hrest.laid _ hnewline hname⟩
  | @array s items _ ih =>
    intro k rest hk hrest
    have hitems : Laid .lBracket (commas (piecesAll items) ++ .token .rBracket :: rest) :=
      laid_commas (forall_mem_piecesAll.2 ih) rfl (by simp) (.rBracket (hrest.laid _ (by simp) rfl))
    rw [pieces, List.cons_append, List.cons_append, List.append_assoc]
    exact ⟨trivial, trivial, rfl, hitems⟩
  | @object s entries _ ih =>
    intro k rest hk hrest
    have hclose : Closing (.blank :: .token .rBrace :: rest) :=
      .blank fun k _ _ => ⟨trivial, trivial, rfl, hrest.laid _ (by simp) rfl⟩
    have hphrases : ∀ ps ∈ piecesEntries entries, Phrase ps := by
      rw [piecesEntries_eq_map]
      refine List.forall_mem_map.2 fun entry hentry k' rest' hk' hrest' => ?_
      have hvalue : Laid .colon (entry.2.pieces ++ rest') := ih entry hentry rfl hrest'
      exact ⟨trivial, trivial, rfl, trivial, trivial, rfl, rfl, hvalue⟩
    have hentries : Laid .lBrace (commas (piecesEntries entries) ++ .blank :: .token .rBrace :: rest) :=
      laid_commas hphrases rfl (by simp) hclose
    rw [pieces, List.cons_append, List.cons_append, List.cons_append, List.cons_append, List.append_assoc]
    exact ⟨trivial, trivial, rfl, rfl, hentries⟩
  | @path s p hp =>
    intro k rest hk hrest
    exact ⟨hp, trivial, hrest.delimits, hrest.laid _ (by simp) rfl⟩
  | @access s base p _ hp ih =>
    intro k rest hk hrest
    rw [pieces, List.append_assoc]
    exact laid_enclosed ih (laid_suffix hp hrest)
  | @call s callee arguments hname hdel _ ih =>
    intro k rest hk hrest
    rw [pieces]
    refine laid_call hname (fun k' rest' hk' hrest' hnewline => ?_) (hrest.laid _ (by simp) rfl)
    have harguments : ∀ ps ∈ piecesAll arguments, Phrase (enclosed ps) :=
      forall_mem_piecesAll.2 fun e he => (ih e he).enclosed
    exact laid_commas (List.forall_mem_map.2 harguments) hk' hnewline hrest'
  | @binary s op left right _ _ ihl ihr =>
    intro k rest hk hrest
    obtain ⟨hop, hallows, hname, hjoins⟩ := readable_op op
    have hright : Laid op.kind (enclosed right.pieces ++ rest) := laid_enclosed ihr (hrest.laid _ (by simp) rfl)
    rw [pieces, List.append_assoc]
    exact laid_enclosed ihl ⟨rfl, hop, hjoins _, hallows, hname, hright⟩
  | @unary s op operand _ _ ih =>
    intro k rest hk hrest
    have hoperand : Laid op.kind (enclosed operand.pieces ++ rest) := laid_enclosed ih (hrest.laid _ (by simp) rfl)
    cases op with
    | negate => exact ⟨trivial, trivial, rfl, hoperand⟩
    | not => exact ⟨trivial, TokenKind.isName_of_endsOperand hk, rfl, hoperand⟩
  | @branch s condition body _ htargets _ ih ihs =>
    intro k rest hk hrest
    have hbody : ∀ k, Laid k (braced (piecesAll body) ++ rest) :=
      fun _ => laid_braced (phrases_body htargets ihs) (hrest.laid _ (by simp) rfl)
    have hcondition : Laid .kwIf (enclosed condition.pieces ++ .blank :: (braced (piecesAll body) ++ rest)) :=
      laid_enclosed ih ⟨rfl, hbody _⟩
    rw [pieces, List.cons_append, List.cons_append, List.cons_append, List.cons_append, List.append_assoc]
    exact ⟨trivial, trivial, rfl, rfl, hcondition⟩
  | @branchElse s condition body alternative _ htargets _ _ _ ih ihs iha =>
    intro k rest hk hrest
    have halternative : Laid .kwElse (alternative.pieces ++ rest) := iha rfl hrest
    have hbody : ∀ k, Laid k (braced (piecesAll body) ++
        .blank :: .token .kwElse :: .blank :: (alternative.pieces ++ rest)) :=
      fun _ => laid_braced (phrases_body htargets ihs) ⟨rfl, trivial, trivial, rfl, rfl, halternative⟩
    have hcondition : Laid .kwIf (enclosed condition.pieces ++ .blank :: (braced (piecesAll body) ++
        .blank :: .token .kwElse :: .blank :: (alternative.pieces ++ rest))) :=
      laid_enclosed ih ⟨rfl, hbody _⟩
    have hpieces : pieces (Expr.branch s condition body (some alternative)) ++ rest =
        .token .kwIf :: .blank :: (enclosed condition.pieces ++ .blank :: (braced (piecesAll body) ++
          .blank :: .token .kwElse :: .blank :: (alternative.pieces ++ rest))) := by
      simp [pieces]
    rw [hpieces]
    exact ⟨trivial, trivial, rfl, rfl, hcondition⟩
  | @block s body htargets _ ihs =>
    intro k rest hk hrest
    exact laid_braced (phrases_body htargets ihs) (hrest.laid _ (by simp) rfl)
  | @delete s target aborts hp =>
    intro k rest hk hrest
    rw [pieces]
    refine laid_call isName_del (fun k' rest' hk' hrest' hnewline => ?_) (hrest.laid _ (by simp) rfl)
    exact ⟨hp, trivial, hrest'.delimits, hrest'.laid _ (by simp) rfl⟩

theorem Stated.phrase {e : Expr} (h : e.Stated) : Phrase e.pieces :=
  phrase_assignment h.targets h.formed.phrase

/-- Statements are written so that they can be read back token by token. -/
theorem laid_program {es : List Expr} (h : ∀ e ∈ es, e.Stated) : Laid .newline (lines (piecesAll es)) := by
  have hphrases := phrases_body (fun e he => (h e he).targets) fun e he => (h e he).formed.phrase
  cases es with
  | nil => trivial
  | cons e es =>
    have hlaid := laid_lines (k := .newline) hphrases (by simp [piecesAll]) rfl .nil
    rwa [List.append_nil] at hlaid

end Expr

end Reshape
