/-
Operators and how tightly they bind.

An `Operand` is a token or an expression in parentheses, with any prefix operators in front, and `Links` are operators
with the operand behind each.  The expression that they are read as is `Grouped`: it splits at the last of the loosest
operators, and so do both of its sides.  Reading operators that bind tighter than a level takes as many of them as do,
and groups what it has taken (`Climbs`); a longer sequence is read by reading shorter ones.

* `BinaryOp.level_lt_iff` — which operators bind tighter than which;
* `Expr.Whole.read_before` — an expression is read in parentheses as it is read alone;
* `Expr.Grouped.unique` — a sequence is grouped in one way;
* `Expr.parse_grouped` — a sequence on one line is read as the expression that it is grouped into.
-/
import Reshape.Proofs.Joining
import Reshape.Proofs.Writing

namespace Reshape

namespace BinaryOp

/-- The binary operators by how tightly they bind, the loosest first. -/
def classes : List (List BinaryOp) :=
  [[.or], [.and], [.equal, .notEqual, .less, .lessOrEqual, .greater, .greaterOrEqual], [.add, .subtract],
    [.multiply, .divide, .remainder]]

/-- An operator binds tighter than another if its class stands behind the class of the other. -/
theorem level_lt_iff (op op' : BinaryOp) :
    op.level < op'.level ↔ classes.findIdx (·.contains op) < classes.findIdx (·.contains op') := by
  have hlevel (op : BinaryOp) : op.level = classes.findIdx (·.contains op) + 1 := by cases op <;> rfl
  rw [hlevel, hlevel, Nat.add_lt_add_iff_right]

end BinaryOp

/-- The kind of the first token, or of the end. -/
def Token.firstKind (ts : List Token) : TokenKind :=
  (ts.head?.map (·.kind)).getD .eof

@[simp] theorem Token.firstKind_cons (t : Token) (ts : List Token) : firstKind (t :: ts) = t.kind := rfl

open Token

namespace Cursor

variable {last : Span} {ns : List Note}

theorem kind_mk (ts : List Token) : kind ⟨ts, last, ns⟩ = firstKind ts :=
  kind_eq_head? _

theorem run_token_cons {t : Token} (ht : t.kind ≠ .eof) (ts : List Token) :
    Parse.token.run ⟨t :: ts, last, ns⟩ = (some t, ⟨ts, t.span, ns⟩) := by
  rw [Parse.run_token, advance]
  dsimp only
  rw [if_neg ht]
  rfl

/-- Line breaks up to a token that is none. -/
theorem exists_skipNewlines_append {lead ts : List Token} (hlead : ∀ t ∈ lead, t.kind = .newline)
    (hts : firstKind ts ≠ .newline) : ∃ last', skipNewlines ⟨lead ++ ts, last, ns⟩ = ⟨ts, last', ns⟩ := by
  have htokens : (skipNewlines ⟨lead ++ ts, last, ns⟩).tokens = ts := by
    rw [tokens_skipNewlines]
    dsimp only
    rw [List.dropWhile_append_of_pos (by simpa using hlead)]
    cases ts with
    | nil => rfl
    | cons t rest => exact List.dropWhile_cons_of_neg (by simpa [firstKind] using hts)
  have hns : (skipNewlines ⟨lead ++ ts, last, ns⟩).notes = ns := rfl
  rcases hskip : skipNewlines ⟨lead ++ ts, last, ns⟩ with ⟨tokens, last', ns'⟩
  rw [hskip] at htokens hns
  exact ⟨last', by rw [← htokens, ← hns]⟩

end Cursor

namespace Expr

open Parse

/-! ### Expressions alone and in parentheses -/

/-- The tokens are an expression: alone they are read as it, up to the end. -/
structure Whole (ts : List Token) (e : Expr) : Prop where
  inner : ∀ t ∈ ts, t.Inner
  read : ∃ (stop : Token) (last : Span), stop.kind = .eof ∧
    (expression (fuelFor (ts.length + 1)) 0).run ⟨ts ++ [stop], ⟨0, 0, 0, 0⟩, []⟩ = (some e, ⟨[stop], last, []⟩)

variable {ts rest : List Token} {links : List (BinaryOp × Expr)} {e x : Expr} {fuel : Nat} {last : Span}

/-- In parentheses, perhaps before line breaks, the same expression is read. -/
theorem Whole.read_before (h : Whole ts e) {trail : List Token} {close : Token}
    (htrail : ∀ t ∈ trail, t.kind = .newline) (hclose : close.kind = .rParen)
    (hfuel : Fed 4 fuel ⟨ts ++ (trail ++ close :: rest), last, []⟩) :
    ∃ last', (expression fuel 0).run ⟨ts ++ (trail ++ close :: rest), last, []⟩ =
      (some e, ⟨trail ++ close :: rest, last', []⟩) := by
  obtain ⟨hinner, stop, last₁, hstop, hrun⟩ := h
  -- the end of the tokens on one side, the closing parenthesis on the other: an expression stops at both
  let S : Seam :=
    { shift := ⟨0, 0⟩
      ends := [stop]
      tail := trail ++ close :: rest
      ends_eq := ⟨stop, hstop, .inl rfl⟩
      tail_eq := by
        cases trail with
        | nil => exact ⟨close, rest, rfl, .inr (.inr hclose)⟩
        | cons t trail => exact ⟨t, _, rfl, .inr (.inl (htrail t List.mem_cons_self))⟩
      noElse := by
        intro t more hdrop
        rw [List.dropWhile_append_of_pos (by simpa using htrail),
          List.dropWhile_cons_of_neg (by simp [hclose])] at hdrop
        obtain ⟨rfl, -⟩ := List.cons.inj hdrop
        simp [hclose] }
  have halike : Alike S ⟨ts ++ [stop], ⟨0, 0, 0, 0⟩, []⟩ ⟨ts ++ (trail ++ close :: rest), last, []⟩ :=
    ⟨rfl, ts, hinner, rfl, by simp [S]⟩
  have hfuel₀ : Fed 4 (fuelFor (ts.length + 1)) ⟨ts ++ [stop], ⟨0, 0, 0, 0⟩, []⟩ := by
    simp only [Fed, fuelFor, List.length_append, List.length_singleton]
    omega
  obtain ⟨⟨tokens, last', ns⟩, hrun', hd⟩ := (readersMirror S _).expression 0 halike hfuel₀ hfuel e _ hrun rfl
  obtain ⟨body, -, hbody, htokens⟩ := hd.tokens
  have hbody : [stop] = body ++ [stop] := hbody
  obtain rfl : body = [] := by simpa using hbody
  obtain rfl : tokens = trail ++ close :: rest := htokens
  obtain rfl : ns = [] := hd.clean
  have he : e.shift S.shift = e := shift_zero e
  dsimp only at hrun'
  rw [he] at hrun'
  exact ⟨last', hrun'⟩

/-! ### Operands -/

/-- The tokens are a literal, a path or an expression in parentheses. -/
inductive Atom : List Token → Expr → Prop
  | literal {t v} : Scalar.ofToken? t.kind = some v → Atom [t] (literal t.span v)
  | path {t p} : t.kind = .path p → Atom [t] (path t.span p)
  | group {start lead trail close} {ts : List Token} {e : Expr} : start.kind = .lParen →
      (∀ t ∈ lead, t.kind = .newline) → Whole ts e → (∀ t ∈ trail, t.kind = .newline) → close.kind = .rParen →
        Atom (start :: (lead ++ (ts ++ (trail ++ [close])))) (e.withSpan (start.span.join close.span))

/-- The same behind any number of prefix operators.  A minus is part of the number behind it. -/
inductive Operand : List Token → Expr → Prop
  | atom {ts : List Token} {e : Expr} : Atom ts e → Operand ts e
  | operator {t op} {ts : List Token} {e : Expr} : UnaryOp.ofToken? t.kind = some op → Operand ts e →
      Operand (t :: ts) (applyPrefix op (t.span.join e.span) e)

theorem Whole.firstKind_ne (h : Whole ts e) : firstKind (ts ++ rest) ≠ .newline := by
  obtain ⟨-, stop, last, hstop, hrun⟩ := h
  intro hkind
  have hends : Ends ⟨ts ++ [stop], ⟨0, 0, 0, 0⟩, []⟩ := by
    cases ts with
    | nil => exact .inl hstop
    | cons t ts => exact .inr (.inl hkind)
  have hnone := expression_ends (fuelFor (ts.length + 1)) 0 hends
  rw [hrun] at hnone
  cases hnone

theorem Atom.firstKind_append (h : Atom ts e) : firstKind (ts ++ rest) = firstKind ts := by
  cases h <;> rfl

theorem ofToken?_of_scalar {kind : TokenKind} {v : Scalar} (h : Scalar.ofToken? kind = some v) :
    UnaryOp.ofToken? kind = none := by
  cases kind with
  | minus | bang => cases h
  | _ => rfl

/-- An atom starts with no prefix operator. -/
theorem Atom.ofToken?_firstKind (h : Atom ts e) : UnaryOp.ofToken? (firstKind ts) = none := by
  cases h with
  | literal hv => exact ofToken?_of_scalar hv
  | path hp =>
    rw [firstKind_cons, hp]
    rfl
  | group hstart =>
    rw [firstKind_cons, hstart]
    rfl

/-- No statement is over where an operand starts. -/
def Starts (kind : TokenKind) : Prop :=
  kind.isTerminator = false ∧ kind ≠ .rBrace

theorem Starts.ne {kind : TokenKind} (h : Starts kind) (kind' : TokenKind) (h' : kind'.isTerminator = true) :
    kind ≠ kind' := by
  rintro rfl
  rw [h.1] at h'
  cases h'

theorem starts_of_scalar {kind : TokenKind} {v : Scalar} (h : Scalar.ofToken? kind = some v) : Starts kind := by
  cases kind with
  | newline | semicolon | eof | rBrace => cases h
  | _ => exact ⟨rfl, by simp⟩

theorem starts_of_unary {kind : TokenKind} {op : UnaryOp} (h : UnaryOp.ofToken? kind = some op) : Starts kind := by
  cases kind with
  | newline | semicolon | eof | rBrace => cases h
  | _ => exact ⟨rfl, by simp⟩

theorem Atom.starts (h : Atom ts e) : Starts (firstKind ts) := by
  cases h with
  | literal hv => exact starts_of_scalar hv
  | path hp =>
    rw [firstKind_cons, hp]
    exact ⟨rfl, by simp⟩
  | group hstart =>
    rw [firstKind_cons, hstart]
    exact ⟨rfl, by simp⟩

theorem primary_group {start close : Token} {lead trail : List Token} (hstart : start.kind = .lParen)
    (hlead : ∀ t ∈ lead, t.kind = .newline) (he : Whole ts e) (htrail : ∀ t ∈ trail, t.kind = .newline)
    (hclose : close.kind = .rParen)
    (hfuel : Fed 2 (fuel + 1) ⟨start :: (lead ++ (ts ++ (trail ++ close :: rest))), last, []⟩) :
    (primary (fuel + 1)).run ⟨start :: (lead ++ (ts ++ (trail ++ close :: rest))), last, []⟩ =
      (some (e.withSpan (start.span.join close.span)), ⟨rest, close.span, []⟩) := by
  simp only [Fed, List.length_cons, List.length_append] at hfuel
  obtain ⟨last₁, hskip⟩ : ∃ last₁, Cursor.skipNewlines ⟨lead ++ (ts ++ (trail ++ close :: rest)), start.span, []⟩ =
      ⟨ts ++ (trail ++ close :: rest), last₁, []⟩ := Cursor.exists_skipNewlines_append hlead he.firstKind_ne
  have hfuel₁ : Fed 4 fuel ⟨ts ++ (trail ++ close :: rest), last₁, []⟩ := by
    simp only [Fed, List.length_cons, List.length_append]
    omega
  obtain ⟨last₂, hexpr⟩ := he.read_before htrail hclose hfuel₁
  obtain ⟨last₃, hskip'⟩ : ∃ last₃, Cursor.skipNewlines ⟨trail ++ close :: rest, last₂, []⟩ =
      ⟨close :: rest, last₃, []⟩ := Cursor.exists_skipNewlines_append htrail (by simp [hclose])
  have hexpect : (expect .rParen "`)`").run ⟨close :: rest, last₃, []⟩ = (some close, ⟨rest, close.span, []⟩) := by
    rw [run_expect, if_pos (by rw [Cursor.kind_mk]; exact hclose), ← run_token,
      Cursor.run_token_cons (by simp [hclose])]
  rw [primary, run_cursor_bind, Cursor.kind_mk, firstKind_cons, hstart]
  show (token >>= fun start => skipNewlines >>= fun _ => expression fuel 0 >>= fun e => skipNewlines >>= fun _ =>
    expect .rParen "`)`" >>= fun stop => pure (e.withSpan (start.span.join stop.span))).run _ = _
  rw [run_bind_some (Cursor.run_token_cons (by simp [hstart]) _), run_skipNewlines_bind, hskip, run_bind_some hexpr,
    run_skipNewlines_bind, hskip', run_bind_some hexpect]
  rfl

theorem Atom.read (h : Atom ts e) (hfuel : Fed 2 fuel ⟨ts ++ rest, last, []⟩) :
    ∃ last', (primary fuel).run ⟨ts ++ rest, last, []⟩ = (some e, ⟨rest, last', []⟩) := by
  obtain ⟨fuel, rfl⟩ := hfuel.exists_succ
  have hne := h.starts.ne .eof rfl
  cases h with
  | @literal t v hv =>
    refine ⟨t.span, ?_⟩
    rw [List.singleton_append, primary, run_cursor_bind, Cursor.kind_mk, firstKind_cons, hv]
    dsimp only
    rw [run_bind_some (Cursor.run_token_cons hne rest)]
    rfl
  | @path t p hp =>
    refine ⟨t.span, ?_⟩
    rw [List.singleton_append, primary, run_cursor_bind, Cursor.kind_mk, firstKind_cons, hp]
    show (token >>= fun t => pure (Expr.path t.span p)).run _ = _
    rw [run_bind_some (Cursor.run_token_cons hne rest)]
    rfl
  | @group start lead trail close ts e hstart hlead he htrail hclose =>
    simp only [List.cons_append, List.append_assoc, List.nil_append] at hfuel ⊢
    exact ⟨close.span, primary_group hstart hlead he htrail hclose hfuel⟩

theorem Operand.starts (h : Operand ts e) : Starts (firstKind ts) := by
  cases h with
  | atom h => exact h.starts
  | operator hop => exact starts_of_unary hop

theorem Operand.firstKind_append (h : Operand ts e) : firstKind (ts ++ rest) = firstKind ts := by
  cases h with
  | atom h => exact h.firstKind_append
  | operator => rfl

/-- No binary operator binds as tightly as a prefix operator. -/
theorem level_le (op : BinaryOp) : op.level ≤ UnaryOp.level := by
  cases op <;> decide

/-- In front of what is no suffix, an operand is read, and nothing more. -/
theorem Operand.read (h : Operand ts x) (hrest : suffixOf (firstKind rest) = none)
    (hfuel : Fed 3 fuel ⟨ts ++ rest, last, []⟩) :
    ∃ last', (prefixed fuel).run ⟨ts ++ rest, last, []⟩ = (some x, ⟨rest, last', []⟩) := by
  induction h generalizing fuel last with
  | @atom ts e h =>
    obtain ⟨fuel, rfl⟩ := hfuel.exists_succ
    simp only [Fed] at hfuel
    have hfed : Fed 2 fuel ⟨ts ++ rest, last, []⟩ := by
      simp only [Fed]
      omega
    obtain ⟨last', hread⟩ := h.read hfed
    have hstop : (suffixes fuel e).run ⟨rest, last', []⟩ = (some e, ⟨rest, last', []⟩) :=
      suffixes_stop fuel e (by rwa [Cursor.kind_mk])
    refine ⟨last', ?_⟩
    rw [prefixed, run_cursor_bind, Cursor.kind_mk, h.firstKind_append, h.ofToken?_firstKind]
    dsimp only
    rw [run_bind_some hread]
    split
    · rfl
    · exact hstop
  | @operator t op ts e hop h ih =>
    obtain ⟨fuel, rfl⟩ := hfuel.exists_succ
    simp only [List.cons_append, Fed, List.length_cons] at hfuel ⊢
    obtain ⟨fuel, rfl⟩ : ∃ k, fuel = k + 1 := ⟨fuel - 1, by omega⟩
    have hfed : Fed 3 fuel ⟨ts ++ rest, t.span, []⟩ := by
      simp only [Fed]
      omega
    obtain ⟨last', hread⟩ := ih hfed
    have ht : t.kind ≠ .eof := (starts_of_unary hop).ne .eof rfl
    -- the operand is read at a level that stops in front of every binary operator
    have hexpr : (expression (fuel + 1) UnaryOp.level).run ⟨ts ++ rest, t.span, []⟩ = (some e, ⟨rest, last', []⟩) := by
      rw [expression, run_bind_some hread]
      exact operators_stop fuel UnaryOp.level e fun op _ => level_le op
    refine ⟨last', ?_⟩
    rw [prefixed, run_cursor_bind, Cursor.kind_mk, firstKind_cons, hop]
    show (token >>= fun start => expression (fuel + 1) UnaryOp.level >>= fun operand =>
      pure (applyPrefix op (start.span.join operand.span) operand)).run _ = _
    rw [run_bind_some (Cursor.run_token_cons ht _), run_bind_some hexpr]
    rfl

/-! ### Sequences of operands -/

/-- Operators, with the operand behind each. -/
inductive Links : List Token → List (BinaryOp × Expr) → Prop
  | nil : Links [] []
  | cons {t op} {ts rest : List Token} {x : Expr} {links : List (BinaryOp × Expr)} :
      BinaryOp.ofToken? t.kind = some op → Operand ts x → Links rest links →
        Links (t :: (ts ++ rest)) ((op, x) :: links)

/-- The expression of a sequence: an operand alone, or an operator with the expressions of what is on either side of
it.  It is the last of the loosest operators, since those on its left are as loose at most, and those on its right
tighter. -/
inductive Grouped : Expr → List (BinaryOp × Expr) → Expr → Prop
  | operand (x : Expr) : Grouped x [] x
  | split {front op back left right} {x y : Expr} : Grouped x front left → Grouped y back right →
      (∀ l ∈ front, op.level ≤ l.1.level) → (∀ l ∈ back, op.level < l.1.level) →
        Grouped x (front ++ (op, y) :: back) (binary (left.span.join right.span) op left right)

theorem suffixOf_of_ofToken? {kind : TokenKind} {op : BinaryOp} (h : BinaryOp.ofToken? kind = some op) :
    suffixOf kind = none := by
  cases kind with
  | path p => cases h
  | lBracket => cases h
  | _ => rfl

/-- No operator is a suffix. -/
theorem Links.firstKind_append (h : Links ts links) (hrest : suffixOf (firstKind rest) = none) :
    suffixOf (firstKind (ts ++ rest)) = none := by
  cases h with
  | nil => exact hrest
  | cons hop => exact suffixOf_of_ofToken? hop

/-- Of a sequence, the operators that bind tighter than a level are read with their operands, up to one that does
not, and grouped with what was read before. -/
def Climbs (level : Nat) (x : Expr) (front links : List (BinaryOp × Expr)) (rest : List Token)
    (r : Option Expr × Cursor) : Prop :=
  ∃ taken left ts e last, links = taken ++ left ∧ Links ts left ∧ r = (some e, ⟨ts ++ rest, last, []⟩) ∧
    Grouped x (front ++ taken) e ∧ (∀ l ∈ taken, level < l.1.level) ∧ ∀ l ∈ left.head?, l.1.level ≤ level

section Climbing

variable {front : List (BinaryOp × Expr)} {left : Expr} {level : Nat}

/-- An operand and the operators behind it, if those are read as they should. -/
theorem expression_climbs (hsuffix : suffixOf (firstKind rest) = none) (hx : Operand ts x) {tail : List Token}
    (hlinks : Links tail links)
    (hoperators : ∀ {fuel last}, Fed 1 fuel ⟨tail ++ rest, last, []⟩ →
      Climbs level x [] links rest ((operators fuel level x).run ⟨tail ++ rest, last, []⟩))
    (hfuel : Fed 4 fuel ⟨ts ++ (tail ++ rest), last, []⟩) :
    Climbs level x [] links rest ((expression fuel level).run ⟨ts ++ (tail ++ rest), last, []⟩) := by
  obtain ⟨fuel, rfl⟩ := hfuel.exists_succ
  simp only [Fed, List.length_append] at hfuel
  have hfed : Fed 3 fuel ⟨ts ++ (tail ++ rest), last, []⟩ := by
    simp only [Fed, List.length_append]
    omega
  obtain ⟨last', hread⟩ := hx.read (hlinks.firstKind_append hsuffix) hfed
  have hfed' : Fed 1 fuel ⟨tail ++ rest, last', []⟩ := by
    simp only [Fed, List.length_append]
    omega
  rw [expression, run_bind_some hread]
  exact hoperators hfed'

/-- What was read before binds at least as tightly as the operator that comes next, so that it can become the left
side of that operator.  The operator takes what is tighter for its right side and leaves the rest to the loop, so the
induction is on the number of operators. -/
theorem operators_climb (hop : BinaryOp.ofToken? (firstKind rest) = none)
    (hsuffix : suffixOf (firstKind rest) = none) (hlinks : Links ts links) (hleft : Grouped x front left)
    (hloose : ∀ l ∈ links.head?, ∀ l' ∈ front, l.1.level ≤ l'.1.level) (hfuel : Fed 1 fuel ⟨ts ++ rest, last, []⟩) :
    Climbs level x front links rest ((operators fuel level left).run ⟨ts ++ rest, last, []⟩) := by
  induction hlength : links.length using Nat.strong_induction_on
    generalizing level x ts links front left fuel last with
  | _ n ih =>
    cases hlinks with
    | nil =>
      refine ⟨[], [], [], left, last, rfl, .nil, ?_, by simpa using hleft, by simp, by simp⟩
      refine operators_stop fuel level left fun op h => ?_
      rw [Cursor.kind_mk, List.nil_append, hop] at h
      cases h
    | @cons t op ts tail y links hop' hy htail =>
      by_cases hlevel : op.level ≤ level
      · refine ⟨[], (op, y) :: links, _, left, last, rfl, .cons hop' hy htail, ?_, by simpa using hleft, by simp,
          by simpa using hlevel⟩
        refine operators_stop fuel level left fun op' h => ?_
        rw [Cursor.kind_mk, List.cons_append, firstKind_cons, hop'] at h
        cases h
        exact hlevel
      · obtain ⟨fuel, rfl⟩ := hfuel.exists_succ
        simp only [List.cons_append, List.append_assoc, Fed, List.length_cons] at hfuel ⊢
        -- the right side: an operand and what is tighter than the operator
        have hright : Climbs op.level y [] links rest
            ((expression fuel op.level).run ⟨ts ++ (tail ++ rest), t.span, []⟩) :=
          expression_climbs hsuffix hy htail
            (fun hfed => ih links.length (by simp [← hlength]) htail (.operand y) (by simp) hfed rfl)
            (by simp only [Fed]; omega)
        obtain ⟨taken, later, ts₁, right, last₁, rfl, hlater, hrun, hgrouped, htaken, hnext⟩ := hright
        have hlt : (ts₁ ++ rest).length < (ts ++ (tail ++ rest)).length :=
          ((readersRead fuel).expression op.level ⟨ts ++ (tail ++ rest), t.span, []⟩).lt hrun
        -- what was read so far, with the operator, is the left side of the operators that are left
        have hsplit : Grouped x (front ++ (op, y) :: taken) (binary (left.span.join right.span) op left right) :=
          .split hleft hgrouped (hloose (op, y) rfl) htaken
        have hloose' : ∀ l ∈ later.head?, ∀ l' ∈ front ++ (op, y) :: taken, l.1.level ≤ l'.1.level := by
          intro l hl l' hl'
          have hle := hnext l hl
          rcases List.mem_append.1 hl' with hl' | hl'
          · exact hle.trans (hloose (op, y) rfl l' hl')
          · rcases List.mem_cons.1 hl' with rfl | hl'
            · exact hle
            · exact hle.trans (htaken l' hl').le
        have hshorter : later.length < n := by
          rw [← hlength, List.length_cons, List.length_append]
          omega
        have hfed : Fed 1 fuel ⟨ts₁ ++ rest, last₁, []⟩ := by
          simp only [Fed]
          omega
        have hloop : Climbs level x (front ++ (op, y) :: taken) later rest
            ((operators fuel level (binary (left.span.join right.span) op left right)).run
              ⟨ts₁ ++ rest, last₁, []⟩) :=
          ih later.length hshorter hlater hsplit hloose' hfed rfl
        obtain ⟨taken', left', ts₂, e, last₂, rfl, hleft', hrun', hgrouped', htaken', hnext'⟩ := hloop
        refine ⟨(op, y) :: (taken ++ taken'), left', ts₂, e, last₂, by simp, hleft', ?_, by simpa using hgrouped', ?_,
          hnext'⟩
        · have ht : t.kind ≠ .eof := by
            intro ht
            rw [ht] at hop'
            cases hop'
          have hskip : Cursor.skipNewlines ⟨ts ++ (tail ++ rest), t.span, []⟩ = ⟨ts ++ (tail ++ rest), t.span, []⟩ :=
            Cursor.skipWhile_of_kind (by
              rw [Cursor.kind_mk, hy.firstKind_append]
              simpa using hy.starts.ne .newline rfl)
          rw [operators, run_cursor_bind, Cursor.kind_mk, firstKind_cons, hop']
          dsimp only
          rw [if_neg hlevel, run_bind_some (Cursor.run_token_cons ht _), run_skipNewlines_bind, hskip,
            run_bind_some hrun]
          exact hrun'
        · intro l hl
          rcases List.mem_cons.1 hl with rfl | hl
          · exact Nat.lt_of_not_le hlevel
          · rcases List.mem_append.1 hl with hl | hl
            · exact (Nat.lt_of_not_le hlevel).trans (htaken l hl)
            · exact htaken' l hl

end Climbing

/-- At the loosest level the whole sequence is read. -/
theorem expression_grouped {tail : List Token} (hx : Operand ts x) (hlinks : Links tail links)
    (hop : BinaryOp.ofToken? (firstKind rest) = none) (hsuffix : suffixOf (firstKind rest) = none)
    (hfuel : Fed 4 fuel ⟨ts ++ (tail ++ rest), last, []⟩) :
    ∃ e last', (expression fuel 0).run ⟨ts ++ (tail ++ rest), last, []⟩ = (some e, ⟨rest, last', []⟩) ∧
      Grouped x links e := by
  have hclimbs : Climbs 0 x [] links rest ((expression fuel 0).run ⟨ts ++ (tail ++ rest), last, []⟩) :=
    expression_climbs hsuffix hx hlinks
      (fun hfed => operators_climb hop hsuffix hlinks (.operand x) (by simp) hfed) hfuel
  obtain ⟨taken, left, ts', e, last', rfl, hleft, hrun, hgrouped, -, hnext⟩ := hclimbs
  cases hleft with
  | nil => exact ⟨e, last', hrun, by simpa using hgrouped⟩
  | @cons t op ts'' tail' y links' hop' hy htail =>
    -- no operator is as loose as that
    have hlevel : op.level ≤ 0 := hnext (op, y) rfl
    cases op <;> cases hlevel

/-- A sequence in parentheses is an operand again. -/
theorem exists_whole {tail : List Token} (hx : Operand ts x) (hlinks : Links tail links)
    (hinner : ∀ t ∈ ts ++ tail, t.Inner) : ∃ e, Whole (ts ++ tail) e ∧ Grouped x links e := by
  let stop : Token := Cursor.endToken ⟨0, 0, 0, 0⟩
  have hfed : Fed 4 (fuelFor ((ts ++ tail).length + 1)) ⟨ts ++ (tail ++ [stop]), ⟨0, 0, 0, 0⟩, []⟩ := by
    simp only [Fed, fuelFor, List.length_append, List.length_singleton]
    omega
  obtain ⟨e, last, hrun, hgrouped⟩ := expression_grouped hx hlinks rfl rfl hfed
  rw [← List.append_assoc] at hrun
  exact ⟨e, ⟨hinner, stop, last, rfl, hrun⟩, hgrouped⟩

/-- There is one last of the loosest operators. -/
theorem split_unique {front front' back back' : List (BinaryOp × Expr)} {l l' : BinaryOp × Expr}
    (h : front ++ l :: back = front' ++ l' :: back') (hfront : ∀ k ∈ front, l.1.level ≤ k.1.level)
    (hback : ∀ k ∈ back, l.1.level < k.1.level) (hfront' : ∀ k ∈ front', l'.1.level ≤ k.1.level)
    (hback' : ∀ k ∈ back', l'.1.level < k.1.level) : front = front' ∧ l = l' ∧ back = back' := by
  rcases List.append_eq_append_iff.1 h with ⟨mid, rfl, hmid⟩ | ⟨mid, rfl, hmid⟩
  · cases mid with
    | nil => simpa using hmid
    | cons k mid =>
      obtain ⟨rfl, rfl⟩ := List.cons.inj hmid
      have hle : l'.1.level ≤ l.1.level := hfront' l (by simp)
      have hlt : l.1.level < l'.1.level := hback l' (by simp)
      omega
  · cases mid with
    | nil => simpa [eq_comm] using hmid
    | cons k mid =>
      obtain ⟨rfl, rfl⟩ := List.cons.inj hmid
      have hle : l.1.level ≤ l'.1.level := hfront l' (by simp)
      have hlt : l'.1.level < l.1.level := hback' l (by simp)
      omega

/-- A sequence is grouped in one way. -/
theorem Grouped.unique {e e' : Expr} (h : Grouped x links e) (h' : Grouped x links e') : e = e' := by
  induction h generalizing e' with
  | operand x =>
    generalize hnil : [] = links at h'
    cases h' with
    | operand => rfl
    | split => simp at hnil
  | @split front op back left right x y hleft hright hfront hback ihleft ihright =>
    generalize hlinks : front ++ (op, y) :: back = links at h'
    cases h' with
    | operand => simp at hlinks
    | @split front' op' back' left' right' _ y' hleft' hright' hfront' hback' =>
      obtain ⟨rfl, hl, rfl⟩ := split_unique hlinks hfront hback hfront' hback'
      obtain ⟨rfl, rfl⟩ := Prod.mk.inj hl
      rw [ihleft hleft', ihright hright']

/-- Behind an operand stands an operator or the end. -/
theorem Links.firstKind_ne {tail : List Token} (h : Links tail links) {stop : Token} (hstop : stop.kind = .eof) :
    firstKind (tail ++ [stop]) ≠ .assign ∧ firstKind (tail ++ [stop]) ≠ .comma := by
  cases h with
  | nil => simp [hstop]
  | @cons t op ts tail x links hop =>
    rw [List.cons_append, firstKind_cons]
    generalize t.kind = kind at hop
    cases kind with
    | assign | comma => cases hop
    | _ => simp

/-- An operand that starts with a path is that path. -/
theorem Operand.eq_singleton (h : Operand ts x) {p : Path} (hp : firstKind ts = .path p) : ∃ t, ts = [t] := by
  cases h with
  | atom h =>
    cases h with
    | literal => exact ⟨_, rfl⟩
    | path => exact ⟨_, rfl⟩
    | group hstart => cases hstart.symm.trans hp
  | operator hop =>
    rw [firstKind_cons] at hp
    rw [hp] at hop
    cases hop

/-- A sequence is no assignment. -/
theorem statement_grouped {tail : List Token} (hx : Operand ts x) (hlinks : Links tail links) {stop : Token}
    (hstop : stop.kind = .eof) :
    (statement (fuel + 1)).run ⟨ts ++ (tail ++ [stop]), last, []⟩ =
      (expression fuel 0).run ⟨ts ++ (tail ++ [stop]), last, []⟩ := by
  have hnext : ∀ {p}, Cursor.kind ⟨ts ++ (tail ++ [stop]), last, []⟩ = .path p →
      Cursor.kind (Cursor.advance ⟨ts ++ (tail ++ [stop]), last, []⟩) = firstKind (tail ++ [stop]) := by
    intro p hp
    rw [Cursor.kind_mk, hx.firstKind_append] at hp
    obtain ⟨t, rfl⟩ := hx.eq_singleton hp
    rw [firstKind_cons] at hp
    rw [Cursor.advance]
    dsimp only [List.cons_append, List.nil_append]
    rw [if_neg (by simp [hp]), Cursor.kind_mk]
  obtain ⟨hassign, hcomma⟩ := hlinks.firstKind_ne hstop
  refine statement_of_neither fuel ?_ ?_
  · rintro ⟨p, hp, hkind⟩
    exact hassign ((hnext hp).symm.trans hkind)
  · rintro ⟨p, q, hp, hkind, -⟩
    exact hcomma ((hnext hp).symm.trans hkind)

/-- A sequence of operands with operators between them, on one line, is read as one expression, and nothing is
reported.  The expression is the sequence from left to right, and splits at the last of its loosest operators. -/
theorem parse_grouped {tail : List Token} {stop : Token} (hx : Operand ts x) (hlinks : Links tail links)
    (hstop : stop.kind = .eof) : ∃ e, parse (ts ++ tail ++ [stop]) = .ok ([e], []) ∧ Grouped x links e := by
  have hfed : Fed 4 (10 * ((ts ++ tail).length + 1) + 8) ⟨ts ++ (tail ++ [stop]), ⟨0, 0, 0, 0⟩, []⟩ := by
    simp only [Fed, List.length_append, List.length_singleton]
    omega
  obtain ⟨e, last, hrun, hgrouped⟩ := expression_grouped hx hlinks (by rw [firstKind_cons, hstop]; rfl)
    (by rw [firstKind_cons, hstop]; rfl) hfed
  have hstarts : Starts (Cursor.kind ⟨ts ++ (tail ++ [stop]), ⟨0, 0, 0, 0⟩, []⟩) := by
    rw [Cursor.kind_mk, hx.firstKind_append]
    exact hx.starts
  have hskip : Cursor.skipSeparators ⟨ts ++ (tail ++ [stop]), ⟨0, 0, 0, 0⟩, []⟩ =
      ⟨ts ++ (tail ++ [stop]), ⟨0, 0, 0, 0⟩, []⟩ :=
    Cursor.skipWhile_of_kind (by simpa using ⟨hstarts.ne .newline rfl, hstarts.ne .semicolon rfl⟩)
  have hskip' : Cursor.skipSeparators ⟨[stop], last, []⟩ = ⟨[stop], last, []⟩ :=
    Cursor.skipWhile_of_kind (by simp [Cursor.kind_mk, hstop])
  have hstop' : Cursor.kind ⟨[stop], last, []⟩ = .eof := hstop
  rw [← statement_grouped hx hlinks hstop] at hrun
  refine ⟨e, (parse_eq hstop).2 ⟨⟨[stop], last, []⟩, ?_, rfl⟩, hgrouped⟩
  rw [List.append_assoc]
  refine statements_of_closes (by rw [hskip]; exact hstarts.2) (by rw [hskip]; exact hstarts.ne .eof rfl)
    (by rw [hskip]; exact hrun) (.inl (by rw [hstop']; rfl)) ?_
  rw [statements_of_stops _ (.inl (by rw [hskip', hstop'])), hskip']

/-- A minus before a number, a product in a difference, differences from left to right, and a negated path. -/
theorem parse_grouped_text :
    ∃ e, parse (tokenize "1 - 2 - - 3 * (.a) || !.b").1 = .ok ([e], []) ∧ e.bare =
      binary default .or
        (binary default .subtract
          (binary default .subtract (literal default (.integer 1)) (literal default (.integer 2)))
          (binary default .multiply (literal default (.integer (-3))) (path default [.key "a"])))
        (unary default .not (path default [.key "b"])) := by
  let made (kind : TokenKind) (lexeme : String) (start : Nat) : Token :=
    ⟨kind, lexeme, ⟨start, start + lexeme.length, 1, start + 1⟩⟩
  let one := made (.integer 1) "1" 0
  let two := made (.integer 2) "2" 4
  let sign := made .minus "-" 8
  let three := made (.integer 3) "3" 10
  let start := made .lParen "(" 14
  let a := made (.path [.key "a"]) ".a" 15
  let close := made .rParen ")" 17
  let bang := made .bang "!" 22
  let b := made (.path [.key "b"]) ".b" 23
  let tail : List Token := made .minus "-" 2 :: ([two] ++ made .minus "-" 6 :: ([sign, three] ++ made .star "*" 12 ::
    ((start :: ([] ++ ([a] ++ ([] ++ [close])))) ++ made .orOr "||" 19 :: ([bang, b] ++ []))))
  have htokens : (tokenize "1 - 2 - - 3 * (.a) || !.b").1 = [one] ++ tail ++ [made .eof "" 25] := by
    decide +kernel
  have hone : Operand [one] (literal one.span (.integer 1)) := .atom (.literal rfl)
  obtain ⟨inner, hinner, hpath⟩ : ∃ e, Whole ([a] ++ []) e ∧ Grouped (path a.span [.key "a"]) [] e :=
    exists_whole (.atom (.path rfl)) .nil (by simp [Token.Inner, a, made])
  obtain rfl : path a.span [.key "a"] = inner := Grouped.unique (.operand _) hpath
  have hlinks : Links tail _ :=
    .cons rfl (.atom (.literal rfl)) <| .cons rfl (.operator rfl (.atom (.literal rfl))) <|
      .cons rfl (.atom (.group rfl (by simp) hinner (by simp) rfl)) <|
        .cons rfl (.operator rfl (.atom (.path rfl))) .nil
  have hstop : (made .eof "" 25).kind = .eof := rfl
  obtain ⟨e, hparse, hgrouped⟩ := parse_grouped hone hlinks hstop
  -- the first difference and the product are the sides of the second difference, which is the left side of `||`
  have hfirst := @Grouped.split [] .subtract [] _ _ (literal one.span (.integer 1)) (literal two.span (.integer 2))
    (.operand _) (.operand _) (by simp) (by simp)
  have hproduct := @Grouped.split [] .multiply [] _ _ (literal (sign.span.join three.span) (.integer (-3)))
    (path (start.span.join close.span) [.key "a"]) (.operand _) (.operand _) (by simp) (by simp)
  have hsecond := @Grouped.split _ .subtract _ _ _ _ _ hfirst hproduct (by simp [BinaryOp.level])
    (by simp [BinaryOp.level])
  have hall := @Grouped.split _ .or [] _ _ _ (unary (bang.span.join b.span) .not (path b.span [.key "b"])) hsecond
    (.operand _) (by simp [BinaryOp.level]) (by simp)
  rw [htokens]
  refine ⟨e, hparse, ?_⟩
  rw [hgrouped.unique hall]
  rfl

end Expr

end Reshape
