/-
Reading undoes writing.

Every expression that programs can have is read back as itself, apart from regions, from the text that it is written
as.

* `Expr.Formed.readAs` — an expression is read back, by induction on how it is formed;
* `Expr.parse_programText` — so are statements;
* `Expr.parse_programText_parse` — and so is what was read from a text.
-/
import Reshape.Proofs.Forming
import Reshape.Proofs.Rereading

namespace Reshape

open Piece

namespace Expr

open Parse

variable {m : Nat} {rest : List Piece} {c : Cursor}

/-! ### Expressions -/

theorem ofToken?_kind (v : Scalar) : Scalar.ofToken? v.kind = some v ∧ v.kind.startsOperand = true ∧
    UnaryOp.ofToken? v.kind = none := by
  cases v with
  | boolean b =>
    cases b with
    | false => exact ⟨rfl, rfl, rfl⟩
    | true => exact ⟨rfl, rfl, rfl⟩
  | _ => exact ⟨rfl, rfl, rfl⟩

theorem readAs_literal (s : Span) (v : Scalar) : ReadAs (literal s v).pieces (literal s v) := by
  obtain ⟨hscalar, hstarts, hunary⟩ := ofToken?_kind v
  refine readAs_of_primary hstarts hunary fun fuel m rest c hc hfuel hrest => ?_
  obtain ⟨n, rfl⟩ := hfuel.exists_succ
  have hc : Stands m (.token v.kind :: rest) c := hc
  have hkind : c.kind = v.kind := hc.kind
  have heof : v.kind ≠ .eof := by
    intro heof
    rw [heof] at hscalar
    cases hscalar
  rw [primary, run_cursor_bind, hkind, hscalar]
  exact gives_bind (gives_token hc heof) fun t c₁ m₁ hc₁ _ _ => gives_pure hc₁ rfl

theorem readAs_path (s : Span) (p : Path) : ReadAs (path s p).pieces (path s p) := by
  refine readAs_of_primary rfl rfl fun fuel m rest c hc hfuel hrest => ?_
  obtain ⟨n, rfl⟩ := hfuel.exists_succ
  have hkind : c.kind = .path p := hc.kind
  rw [primary, run_cursor_bind, hkind]
  exact gives_bind (gives_token hc (by simp)) fun t c₁ m₁ hc₁ _ _ => gives_pure hc₁ rfl

theorem forall₂_map {R : List Piece → Expr → Prop} {f : Expr → List Piece} {es : List Expr}
    (h : ∀ e ∈ es, R (f e) e) : List.Forall₂ R (es.map f) es := by
  rw [List.forall₂_map_left_iff, List.forall₂_same]
  exact h

theorem readAs_array {s : Span} {items : List Expr} (h : ∀ e ∈ items, ReadAs e.pieces e) :
    ReadAs (array s items).pieces (array s items) := by
  refine readAs_of_primary rfl rfl fun fuel m rest c hc hfuel hrest => ?_
  obtain ⟨n, rfl⟩ := hfuel.exists_succ
  have hc : Stands m (.token .lBracket :: (commas (items.map pieces) ++ .token .rBracket :: rest)) c := by
    simpa [pieces, piecesAll_eq_map] using hc
  have hkind : c.kind = .lBracket := hc.kind
  rw [hc.fed, kinds_token, List.length_cons] at hfuel
  rw [primary, run_cursor_bind, hkind]
  refine gives_bind (gives_token hc (by simp)) fun start c₁ m₁ hc₁ _ _ => ?_
  refine gives_bind (gives_list (forall₂_map h) (.inr rfl) hc₁ (hc₁.fed.2 (by omega))) fun items' c₂ m₂ hc₂ _ hitems' => ?_
  refine gives_bind (gives_token hc₂ (by simp)) fun stop c₃ m₃ hc₃ _ _ => gives_pure hc₃ ?_
  simp only [bare, bareAll_eq_map, hitems']

/-- Whether what is behind a brace and line breaks shows that an object starts. -/
def opensObject : List TokenKind → Bool
  | .rBrace :: _ => true
  | .string _ :: .colon :: _ => true
  | _ => false

theorem startsObject_eq_opensObject (c : Cursor) :
    startsObject c = opensObject (((c.tokens.map (·.kind)).drop 1).dropWhile (· == .newline)) := by
  rw [startsObject, ← List.map_drop, ← Cursor.kinds_dropWhile]
  generalize (c.tokens.drop 1).dropWhile (·.kind == .newline) = ts
  cases ts with
  | nil => rfl
  | cons t rest =>
    rw [List.map_cons]
    dsimp only
    generalize t.kind = k
    cases k with
    | string key =>
      cases rest with
      | nil => rfl
      | cons t' rest =>
        rw [List.map_cons, List.head?_cons, Option.map_some]
        generalize t'.kind = k'
        cases k' with
        | _ => rfl
    | _ => rfl

theorem readAs_object {s : Span} {es : List (String × Expr)} (h : ∀ entry ∈ es, ReadAs entry.2.pieces entry.2) :
    ReadAs (object s es).pieces (object s es) := by
  refine readAs_of_primary rfl rfl fun fuel m rest c hc hfuel hrest => ?_
  obtain ⟨n, rfl⟩ := hfuel.exists_succ
  have hc : Stands m (.token .lBrace :: .blank :: (commas (piecesEntries es) ++ .blank :: .token .rBrace :: rest)) c := by
    simpa [pieces] using hc
  have hkind : c.kind = .lBrace := hc.kind
  -- a closing brace or the first key shows that it is no block
  have hstarts : startsObject c = true := by
    rw [startsObject_eq_opensObject, hc.spells.kinds, kinds_token, List.cons_append, List.drop_one, List.tail_cons,
      kinds_blank]
    cases es with
    | nil => rfl
    | cons entry es =>
      rw [piecesEntries, commas_cons]
      rfl
  rw [hc.fed] at hfuel
  simp only [kinds_token, kinds_blank, List.length_cons] at hfuel
  have hprimary : (primary (n + 1)).run c = (do
      let start ← token
      let fields ← entries n
      return object (start.span.join (← token).span) fields : Parse Expr).run c := by
    rw [primary, run_cursor_bind, hkind]
    exact congrArg (Parse.run · c) (if_pos hstarts)
  rw [hprimary]
  refine gives_bind (gives_token hc (by simp)) fun start c₁ m₁ hc₁ _ _ => ?_
  refine gives_bind ((gives_entries h hc₁.blank (hc₁.blank.fed.2 (by omega))).mono (Nat.le_succ m₁))
    fun es' c₂ m₂ hc₂ _ hes' => ?_
  refine gives_bind (gives_token hc₂ (by simp)) fun stop c₃ m₃ hc₃ _ _ => gives_pure hc₃ ?_
  simp only [bare, hes']

/-- A brace and statements do not look like an object. -/
theorem startsObject_braced {pss : List (List Piece)} {es : List Expr} (h : List.Forall₂ StatedAs pss es)
    (hc : Stands m (braced pss ++ rest) c) : startsObject c = false := by
  rw [startsObject_eq_opensObject, hc.spells.kinds, braced_append, kinds_token, kinds_token, List.cons_append,
    List.drop_one, List.tail_cons, List.cons_append]
  cases h with
  | nil => rfl
  | @cons ps e pss es hps hpss =>
    have hstop : EndsBody true (.token .rBrace :: rest) := .inr ⟨rfl, rfl⟩
    obtain ⟨more, htext, hends, -⟩ := bodyText_cons hpss (.inl rfl) hstop ps
    rw [if_neg (by simp), List.dropWhile_cons_of_pos rfl, htext, kinds_append]
    have hstarts := hps.starts
    have halone := hps.alone
    rw [first] at hstarts
    rw [Alone, first] at halone
    cases hkinds : kinds ps with
    | nil =>
      rw [hkinds] at hstarts
      cases hstarts
    | cons k ks =>
      rw [hkinds, List.headD_cons] at hstarts halone
      have hnewline : k ≠ .newline := by
        rintro rfl
        cases hstarts
      rw [List.cons_append, List.cons_append, List.dropWhile_cons_of_neg (by simpa using hnewline)]
      cases k with
      | string key =>
        -- a string by itself is followed by the end of its line
        obtain rfl : ks = [] := by simpa using halone rfl
        have hfirst := hends.1
        rw [first] at hfirst
        cases hks : kinds more with
        | nil => rfl
        | cons k' ks' =>
          rw [hks, List.headD_cons] at hfirst
          rcases hfirst with rfl | rfl
          · rfl
          · rfl
      | rBrace => cases hstarts
      | _ => rfl

theorem readAs_block {s : Span} {body : List Expr} (h : List.Forall₂ StatedAs (piecesAll body) body) :
    ReadAs (block s body).pieces (block s body) := by
  have hfirst : first (block s body).pieces = .lBrace := by
    have hfirst := first_braced (piecesAll body) []
    rwa [List.append_nil] at hfirst
  refine readAs_of_primary (by rw [hfirst]; rfl) (by rw [hfirst]; rfl) fun fuel m rest c hc hfuel hrest => ?_
  obtain ⟨n, rfl⟩ := hfuel.exists_succ
  have hc : Stands m (braced (piecesAll body) ++ rest) c := hc
  have hkind : c.kind = .lBrace := hc.kind.trans (first_braced _ _)
  have hprimary : (primary (n + 1)).run c = (do
      let r ← braces n
      return block r.2 r.1 : Parse Expr).run c := by
    rw [primary, run_cursor_bind, hkind]
    exact congrArg (Parse.run · c) (if_neg (by simp [startsObject_braced h hc]))
  rw [hprimary]
  refine gives_bind (gives_braces h hc (by simp only [Fed] at hfuel ⊢; omega)) fun r c₁ m₁ hc₁ _ hbody => ?_
  refine gives_pure hc₁ ?_
  simp only [bare, bareAll_eq_map, hbody]

theorem readAs_branch {s : Span} {condition : Expr} {body : List Expr} {alternative : Option Expr}
    (hcondition : ReadAs condition.pieces condition) (hbody : List.Forall₂ StatedAs (piecesAll body) body)
    (halternative : ∀ a ∈ alternative, AlternativeAs a.pieces a) :
    ReadAs (branch s condition body alternative).pieces (branch s condition body alternative) := by
  have hfirst : first (branch s condition body alternative).pieces = .kwIf := by
    cases alternative with
    | none => rfl
    | some a => rfl
  refine readAs_of_primary (by rw [hfirst]; rfl) (by rw [hfirst]; rfl) fun fuel m rest c hc hfuel hrest => ?_
  obtain ⟨n, rfl⟩ := hfuel.exists_succ
  have hkind : c.kind = .kwIf := by
    have hc := hc
    rw [pieces_branch] at hc
    exact hc.kind
  rw [primary, run_cursor_bind, hkind]
  exact gives_branching hcondition hbody halternative hc (by simp only [Fed] at hfuel ⊢; omega) hrest

theorem readAs_called {name : String} {aborts : Bool} {pss : List (List Piece)} {es : List Expr}
    (h : List.Forall₂ ReadAs pss es) {e : Expr}
    (hcall : ∀ ⦃rest start stop es' m c⦄, es'.map bare = es.map bare → Stands m rest c →
      Gives m rest (fun e' _ => e'.bare = e.bare) ((callOf name start aborts es' stop).run c)) :
    ReadAs (calleePieces name aborts ++ enclosed (commas pss)) e := by
  refine readAs_of_primary rfl rfl fun fuel m rest c hc hfuel hrest => ?_
  obtain ⟨n, rfl⟩ := hfuel.exists_succ
  have hkind : c.kind = .ident name := hc.kind
  rw [primary, run_cursor_bind, hkind]
  exact gives_called h (fun _ _ _ _ _ => @hcall rest _ _ _ _ _) hc (by simp only [Fed] at hfuel ⊢; omega)

theorem readAs_call {s : Span} {callee : Callee} {arguments : List Expr} (hdel : callee.name ≠ "del")
    (h : ∀ e ∈ arguments, ReadAs e.pieces e) :
    ReadAs (call s callee arguments).pieces (call s callee arguments) := by
  have harguments : List.Forall₂ ReadAs ((piecesAll arguments).map enclosed) arguments := by
    rw [piecesAll_eq_map, List.map_map]
    exact forall₂_map fun e he => (h e he).enclosed
  refine readAs_called harguments fun rest start stop es' m c hes' hc => ?_
  rw [callOf_of_ne hdel]
  refine gives_pure hc ?_
  simp only [bare, bareAll_eq_map, hes']

theorem eq_path_of_bare {e : Expr} {s : Span} {p : Path} (h : e.bare = path s p) : ∃ s', e = path s' p := by
  cases e with
  | path s' q =>
    simp only [bare, path.injEq] at h
    exact ⟨s', by rw [h.2]⟩
  | branch s' condition body alternative =>
    rw [bare_branch] at h
    cases h
  | _ => cases h

theorem readAs_delete (s : Span) (t : Target) (aborts : Bool) :
    ReadAs (delete s t aborts).pieces (delete s t aborts) := by
  have harguments : List.Forall₂ ReadAs [[.token (.path t.path)]] [path default t.path] :=
    .cons (readAs_path default t.path) .nil
  have hpieces : (delete s t aborts).pieces =
      calleePieces "del" aborts ++ enclosed (commas [[.token (.path t.path)]]) := by
    rw [pieces, commas, List.intercalate_singleton]
  rw [hpieces]
  refine readAs_called harguments fun rest start stop es' m c hes' hc => ?_
  obtain ⟨e, rfl⟩ : ∃ e, es' = [e] := by
    have hlength := congrArg List.length hes'
    simpa [List.length_eq_one_iff] using hlength
  obtain ⟨s', rfl⟩ := eq_path_of_bare (List.head_eq_of_cons_eq hes')
  exact gives_pure hc rfl

theorem ofToken?_binaryOp (op : BinaryOp) :
    BinaryOp.ofToken? op.kind = some op ∧ suffixOf op.kind = none ∧ op.kind ≠ .eof ∧ ¬op.level ≤ 0 := by
  cases op with
  | _ => exact ⟨rfl, rfl, by simp [BinaryOp.kind], by decide⟩

theorem readAs_binary {s : Span} {op : BinaryOp} {left right : Expr} (hleft : ReadAs left.pieces left)
    (hright : ReadAs right.pieces right) : ReadAs (binary s op left right).pieces (binary s op left right) := by
  refine ⟨rfl, fun fuel m rest c hc hfuel hrest => ?_⟩
  obtain ⟨hop, hsuffix, heof, hlevel⟩ := ofToken?_binaryOp op
  have hc : Stands m (enclosed left.pieces ++ .blank :: .token op.kind :: .blank ::
      (enclosed right.pieces ++ rest)) c := by
    simpa [pieces] using hc
  have hlength : 0 < (kinds (enclosed left.pieces)).length := by simp [enclosed]
  rw [hc.fed] at hfuel
  simp only [kinds_append, kinds_token, kinds_blank, List.length_append, List.length_cons] at hfuel
  obtain ⟨n, rfl⟩ : ∃ n, fuel = n + 2 := ⟨fuel - 2, by omega⟩
  have hunary : UnaryOp.ofToken? c.kind = none := hc.kind ▸ rfl
  have hfuel₀ : Fed 2 n c := by
    rw [hc.fed]
    simp only [kinds_append, kinds_token, kinds_blank, List.length_append, List.length_cons]
    omega
  have hread : Gives m (.blank :: .token op.kind :: .blank :: (enclosed right.pieces ++ rest))
      (fun e' _ => e'.bare = left.bare) ((prefixed (n + 1)).run c) :=
    gives_prefixed hunary hsuffix ((gives_enclosed hleft hc hfuel₀).imp fun _ _ he => he.1)
  rw [expression]
  refine gives_bind hread fun left' c₁ m₁ hc₁ _ hleft' => ?_
  have hkind : c₁.kind = op.kind := hc₁.kind
  rw [operators, run_cursor_bind, hkind, hop]
  dsimp only
  rw [if_neg hlevel]
  refine gives_bind ((gives_token hc₁.blank heof).mono (Nat.le_succ m₁)) fun _ c₂ m₂ hc₂ _ _ => ?_
  refine gives_bind (gives_skipNewlines hc₂ (by simp [first, enclosed])) fun _ c₃ m₃ hc₃ _ _ => ?_
  have hfuel₃ : Fed 4 n c₃ := by
    rw [hc₃.blank.fed]
    simp only [kinds_append, List.length_append]
    omega
  -- the right operand ends with its parenthesis, and no operator follows it
  have hnone : ∀ op', BinaryOp.ofToken? (first rest) = some op' → op'.level ≤ op.level := by
    rw [hrest.operator]
    intro op' hop'
    cases hop'
  refine gives_bind ((gives_operand hright hc₃.blank hfuel₃ hnone hrest.suffix).mono (Nat.le_succ m₃))
    fun right' c₄ m₄ hc₄ _ hright' => ?_
  have hstop : (operators n 0 (binary (left'.span.join right'.span) op left' right')).run c₄ = (some _, c₄) :=
    operators_stop n 0 _ (by simp [hc₄.kind, hrest.operator])
  rw [hstop]
  exact ⟨_, c₄, m₄, rfl, hc₄, Nat.le_refl m₄, by simp only [bare, hleft', hright']⟩

theorem eq_literal_of_bare {e : Expr} {s : Span} {v : Scalar} (h : e.bare = literal s v) : ∃ s', e = literal s' v := by
  cases e with
  | literal s' w =>
    simp only [bare, literal.injEq] at h
    exact ⟨s', by rw [h.2]⟩
  | branch s' condition body alternative =>
    rw [bare_branch] at h
    cases h
  | _ => cases h

/-- Regions do not matter to whether a minus becomes a part of a number. -/
theorem applyPrefix_of_bare {op : UnaryOp} {e e' : Expr} (h : ∀ s, applyPrefix op s e = unary s op e)
    (hbare : e'.bare = e.bare) (s : Span) : applyPrefix op s e' = unary s op e' := by
  unfold applyPrefix
  split
  · rename_i s' i
    obtain ⟨s₁, rfl⟩ := eq_literal_of_bare hbare.symm
    have happly := h s
    simp only [applyPrefix] at happly
    split at happly
    · rename_i hi
      exact if_pos hi
    · cases happly
  · rename_i s' f
    obtain ⟨s₁, rfl⟩ := eq_literal_of_bare hbare.symm
    cases h s
  · rfl

theorem ofToken?_unaryOp (op : UnaryOp) :
    UnaryOp.ofToken? op.kind = some op ∧ op.kind.startsOperand = true ∧ op.kind ≠ .eof := by
  cases op with
  | _ => exact ⟨rfl, rfl, by simp [UnaryOp.kind]⟩

theorem readAs_unary {s : Span} {op : UnaryOp} {operand : Expr} (h : ReadAs operand.pieces operand)
    (hsign : ∀ s, applyPrefix op s operand = unary s op operand) :
    ReadAs (unary s op operand).pieces (unary s op operand) := by
  obtain ⟨hop, hstarts, heof⟩ := ofToken?_unaryOp op
  refine ⟨hstarts, fun fuel m rest c hc hfuel hrest => ?_⟩
  have hc : Stands m (.token op.kind :: (enclosed operand.pieces ++ rest)) c := hc
  have hkind : c.kind = op.kind := hc.kind
  rw [hc.fed, kinds_token, List.length_cons] at hfuel
  obtain ⟨n, rfl⟩ : ∃ n, fuel = n + 2 := ⟨fuel - 2, by omega⟩
  refine gives_expression (by simp [hrest.operator]) ?_
  rw [prefixed, run_cursor_bind, hkind, hop]
  refine gives_bind (gives_token hc heof) fun start c₁ m₁ hc₁ _ _ => ?_
  refine gives_bind (gives_operand h hc₁ (hc₁.fed.2 (by omega)) (by simp [hrest.operator]) hrest.suffix)
    fun operand' c₂ m₂ hc₂ _ hoperand => ?_
  refine gives_pure hc₂ ?_
  rw [applyPrefix_of_bare hsign hoperand]
  simp only [bare, hoperand]

theorem gives_indexSuffix {i : Int64}
    (hc : Stands m (.token .lBracket :: .token (.integer i) :: .token .rBracket :: rest) c) :
    Gives m rest (fun j _ => j = i) (indexSuffix.run c) := by
  rw [indexSuffix_eq]
  refine gives_bind (gives_expect hc (by simp)) fun _ c₁ m₁ hc₁ _ _ => ?_
  refine gives_bind (gives_refuse hc₁ (by simp [first])) fun negative c₂ m₂ hc₂ _ hfalse => ?_
  have hkind : c₂.kind = .integer i := hc₂.kind
  rw [run_cursor_bind, hkind]
  refine gives_bind (gives_token hc₂ (by simp)) fun _ c₃ m₃ hc₃ _ _ => ?_
  refine gives_bind (gives_expect hc₃ (by simp)) fun _ c₄ m₄ hc₄ _ _ => ?_
  rw [hfalse]
  exact gives_pure hc₄ rfl

/-- The path behind a value. -/
theorem exists_suffixOf {p : Path} (hp : p.Trails) (hc : Stands m (suffixPieces p ++ rest) c) :
    c.current.span.start = m ∧
      ∃ read, suffixOf c.kind = some read ∧ Gives m rest (fun q _ => q = p) (read.run c) := by
  unfold suffixPieces at hc
  split at hc
  · rename_i i
    have hkind : c.kind = .lBracket := hc.kind
    refine ⟨hc.start, _, by rw [hkind]; rfl, ?_⟩
    exact gives_bind (gives_indexSuffix hc) fun j c₁ m₁ hc₁ _ hj => gives_pure hc₁ (by rw [hj])
  · have hkind : c.kind = .path p := hc.kind
    have hne : p ≠ [] := by
      rintro rfl
      cases hp
    obtain ⟨segment, p, rfl⟩ := List.exists_cons_of_ne_nil hne
    refine ⟨hc.start, _, by rw [hkind]; rfl, ?_⟩
    exact gives_bind (gives_token hc (by simp)) fun t c₁ m₁ hc₁ _ _ => gives_pure hc₁ rfl

theorem readAs_access {s : Span} {base : Expr} {p : Path} (h : ReadAs base.pieces base) (hp : p.Trails) :
    ReadAs (access s base p).pieces (access s base p) := by
  refine ⟨rfl, fun fuel m rest c hc hfuel hrest => ?_⟩
  have hc : Stands m (enclosed base.pieces ++ (suffixPieces p ++ rest)) c := by
    simpa [pieces] using hc
  have hkind : c.kind = .lParen := hc.kind
  simp only [Fed] at hfuel
  obtain ⟨n, rfl⟩ : ∃ n, fuel = n + 3 := ⟨fuel - 3, by omega⟩
  refine gives_expression (by simp [hrest.operator]) ?_
  rw [prefixed, run_cursor_bind, hkind]
  refine gives_bind (gives_enclosed h hc (by simp only [Fed]; omega)) fun base' c₁ m₁ hc₁ _ hbase => ?_
  obtain ⟨hstart, read, hread, hgives⟩ := exists_suffixOf hp hc₁
  have hsuffix : suffix? base' c₁ = some read := by
    rw [suffix?_eq, hstart, hbase.2, if_pos rfl, hread]
  have hsuffixes : (suffixes (n + 1) base').run c₁ = (do
      let q ← read
      suffixes n (access (base'.span.join (← cursor).last) base' q) : Parse Expr).run c₁ := by
    rw [suffixes, run_cursor_bind, hsuffix]
  show Gives m₁ rest _ ((suffixes (n + 1) base').run c₁)
  rw [hsuffixes]
  refine gives_bind hgives fun q c₂ m₂ hc₂ _ hq => ?_
  rw [run_cursor_bind, suffixes_stop n _ (hc₂.kind ▸ hrest.suffix)]
  exact ⟨_, c₂, m₂, rfl, hc₂, Nat.le_refl m₂, by simp only [bare, hbase.1, hq]⟩

/-- A path or a string that comes first in what is written for an expression is all of it. -/
theorem Formed.alone {e : Expr} (h : e.Formed) : Alone (fun k => k.isPath || k.isString) e.pieces := by
  cases h with
  | literal _ | path _ => exact fun _ => rfl
  | @unary s op operand _ _ =>
    cases op with
    | _ => exact fun h => by cases h
  | @block s body _ _ =>
    have hfirst := first_braced (piecesAll body) []
    rw [List.append_nil] at hfirst
    intro h
    rw [pieces, hfirst] at h
    cases h
  | _ => exact fun h => by cases h

theorem statedAs_of_formed {e : Expr} (h : e.assigned.Formed) (hread : ReadAs e.assigned.pieces e.assigned) :
    StatedAs e.pieces e := by
  cases e with
  | assign s t value => exact statedAs_assign hread
  | assignPair s ok err value => exact statedAs_assignPair hread
  | _ =>
    refine hread.stated (fun hpath => h.alone ?_) fun hstring => h.alone ?_
    · exact Bool.or_eq_true_iff.2 (.inl hpath)
    · exact Bool.or_eq_true_iff.2 (.inr hstring)

theorem statedAs_body {body : List Expr} (hformed : ∀ e ∈ body, e.assigned.Formed)
    (h : ∀ e ∈ body, ReadAs e.assigned.pieces e.assigned) : List.Forall₂ StatedAs (piecesAll body) body := by
  rw [piecesAll_eq_map]
  exact forall₂_map fun e he => statedAs_of_formed (hformed e he) (h e he)

theorem alternativeAs_block {s : Span} {body : List Expr} (h : List.Forall₂ StatedAs (piecesAll body) body) :
    AlternativeAs (block s body).pieces (block s body) := by
  intro fuel m rest c hc hfuel hrest
  have hc : Stands m (braced (piecesAll body) ++ rest) c := hc
  have hkind : c.kind ≠ .kwIf := by simp [hc.kind, first_braced]
  rw [alternative, run_cursor_bind, if_neg hkind]
  refine gives_bind (gives_braces h hc hfuel) fun r c₁ m₁ hc₁ _ hbody => gives_pure hc₁ ?_
  simp only [bare, bareAll_eq_map, hbody]

theorem alternativeAs_branch {s : Span} {condition : Expr} {body : List Expr} {alternative : Option Expr}
    (hcondition : ReadAs condition.pieces condition) (hbody : List.Forall₂ StatedAs (piecesAll body) body)
    (halternative : ∀ a ∈ alternative, AlternativeAs a.pieces a) :
    AlternativeAs (branch s condition body alternative).pieces (branch s condition body alternative) := by
  intro fuel m rest c hc hfuel hrest
  have hkind : c.kind = .kwIf := by
    have hc := hc
    rw [pieces_branch] at hc
    exact hc.kind
  rw [Expr.alternative, run_cursor_bind, if_pos hkind]
  exact gives_branching hcondition hbody halternative hc hfuel hrest

/-- What is written for an expression is read back, and so is an alternative behind its `else`. -/
theorem Formed.readAs_and {e : Expr} (h : e.Formed) :
    ReadAs e.pieces e ∧ (e.isAlternative = true → AlternativeAs e.pieces e) := by
  induction h with
  | @literal s v _ => exact ⟨readAs_literal s v, fun h => by cases h⟩
  | array _ ih => exact ⟨readAs_array fun e he => (ih e he).1, fun h => by cases h⟩
  | object _ ih => exact ⟨readAs_object fun entry hentry => (ih entry hentry).1, fun h => by cases h⟩
  | @path s p _ => exact ⟨readAs_path s p, fun h => by cases h⟩
  | access _ hp ih => exact ⟨readAs_access ih.1 hp, fun h => by cases h⟩
  | call _ hdel _ ih => exact ⟨readAs_call hdel fun e he => (ih e he).1, fun h => by cases h⟩
  | binary _ _ ihl ihr => exact ⟨readAs_binary ihl.1 ihr.1, fun h => by cases h⟩
  | unary _ hsign ih => exact ⟨readAs_unary ih.1 hsign, fun h => by cases h⟩
  | branch _ _ hbody ih ihs =>
    have hstated := statedAs_body hbody fun e he => (ihs e he).1
    exact ⟨readAs_branch ih.1 hstated (by simp), fun _ => alternativeAs_branch ih.1 hstated (by simp)⟩
  | branchElse _ _ hbody halternative _ ih ihs iha =>
    have hstated := statedAs_body hbody fun e he => (ihs e he).1
    have hread := iha.2 halternative
    exact ⟨readAs_branch ih.1 hstated (by simpa using hread),
      fun _ => alternativeAs_branch ih.1 hstated (by simpa using hread)⟩
  | block _ hbody ihs =>
    have hstated := statedAs_body hbody fun e he => (ihs e he).1
    exact ⟨readAs_block hstated, fun _ => alternativeAs_block hstated⟩
  | @delete s t aborts _ => exact ⟨readAs_delete s t aborts, fun h => by cases h⟩

theorem Formed.readAs {e : Expr} (h : e.Formed) : ReadAs e.pieces e :=
  h.readAs_and.1

/-- Statements on lines of their own are read back. -/
theorem parse_lines {es : List Expr} (h : ∀ e ∈ es, e.Stated) {ts : List Token}
    (hts : Spells 0 (lines (piecesAll es)) ts) : ∃ es', parse ts = .ok (es', []) ∧ es'.map bare = es.map bare := by
  have hstated := statedAs_body (fun e he => (h e he).formed) fun e he => (h e he).formed.readAs
  obtain ⟨front, back, rfl, -, hback⟩ := List.map_eq_append_iff.1 hts.kinds
  obtain ⟨stop, rfl, hstop⟩ := List.map_eq_singleton_iff.1 hback
  have htext : bodyText (piecesAll es) [] [] = lines (piecesAll es) := by
    rw [bodyText, List.append_nil, List.append_nil]
    split
    · rename_i hnil
      rw [hnil]
      rfl
    · rfl
  have hc : Stands 0 (bodyText (piecesAll es) [] []) ⟨front ++ [stop], ⟨0, 0, 0, 0⟩, []⟩ := ⟨htext ▸ hts, rfl⟩
  have hskip := skipSeparators_of_first hc (first_bodyText hstated rfl (by simp [first]))
    (first_bodyText hstated rfl (by simp [first]))
  have hfuel : Fed 6 (fuelFor (front.length + 1)) (⟨front ++ [stop], ⟨0, 0, 0, 0⟩, []⟩ : Cursor).skipSeparators := by
    simp only [hskip, Fed, fuelFor, List.length_append, List.length_singleton]
    omega
  have hends : EndsBody false [] := .inl rfl
  obtain ⟨es', c', m', hr, hc', -, hes'⟩ :=
    gives_statements hstated (.inr ⟨rfl, rfl⟩) hends (hskip.symm ▸ hc) hfuel
  exact ⟨es', (parse_eq hstop).2 ⟨c', hr, hc'.clean⟩, hes'⟩

/-- Statements that programs can have are read back from the text that they are written as, and nothing is reported. -/
theorem parse_programText {es : List Expr} (h : ∀ e ∈ es, e.Stated) :
    ∃ ts es', tokenize (programText es) = (ts, []) ∧ parse ts = .ok (es', []) ∧ es'.map bare = es.map bare := by
  obtain ⟨ts, hts, hspells⟩ := tokenize_laid (laid_program h)
  obtain ⟨es', hes', hbare⟩ := parse_lines h hspells
  exact ⟨ts, es', hts, hes', hbare⟩

mutual

theorem pieces_bare : ∀ e : Expr, e.bare.pieces = e.pieces
  | literal _ _ | path _ _ | delete _ _ _ => rfl
  | array _ items => by rw [bare, pieces, pieces, piecesAll_bareAll items]
  | object _ entries => by rw [bare, pieces, pieces, piecesEntries_bareEntries entries]
  | access _ base _ => by rw [bare, pieces, pieces, pieces_bare base]
  | assign _ _ value => by rw [bare, pieces, pieces, pieces_bare value]
  | assignPair _ _ _ value => by rw [bare, pieces, pieces, pieces_bare value]
  | call _ _ arguments => by rw [bare, pieces, pieces, piecesAll_bareAll arguments]
  | binary _ _ left right => by rw [bare, pieces, pieces, pieces_bare left, pieces_bare right]
  | unary _ _ operand => by rw [bare, pieces, pieces, pieces_bare operand]
  | branch _ condition body none => by rw [bare, pieces, pieces, pieces_bare condition, piecesAll_bareAll body]
  | branch _ condition body (some alternative) => by
    rw [bare, pieces, pieces, pieces_bare condition, piecesAll_bareAll body, pieces_bare alternative]
  | block _ body => by rw [bare, pieces, pieces, piecesAll_bareAll body]

theorem piecesAll_bareAll : ∀ es : List Expr, piecesAll (bareAll es) = piecesAll es
  | [] => rfl
  | e :: rest => by rw [bareAll, piecesAll, piecesAll, pieces_bare e, piecesAll_bareAll rest]

theorem piecesEntries_bareEntries : ∀ entries : List (String × Expr),
    piecesEntries (bareEntries entries) = piecesEntries entries
  | [] => rfl
  | (k, e) :: rest => by
    rw [bareEntries, piecesEntries, piecesEntries, pieces_bare e, piecesEntries_bareEntries rest]

end

/-- Regions are not written. -/
theorem programText_of_bare {es es' : List Expr} (h : es'.map bare = es.map bare) :
    programText es' = programText es := by
  rw [programText, ← piecesAll_bareAll, bareAll_eq_map, h, ← bareAll_eq_map, piecesAll_bareAll]
  rfl

/-- What is read back from a written program is written in the same way. -/
theorem programText_parse_programText {es : List Expr} (h : ∀ e ∈ es, e.Stated) :
    ∃ es', parse (tokenize (programText es)).1 = .ok (es', []) ∧ programText es' = programText es := by
  obtain ⟨ts, es', hts, hes', hbare⟩ := parse_programText h
  rw [hts]
  exact ⟨es', hes', programText_of_bare hbare⟩

/-- Parsing undoes printing.  What is read from any text without floats and timestamps, well-formed or not, is read
back from the text that it is written as, apart from regions, and nothing is reported. -/
theorem parse_programText_parse {source : String} {es : List Expr} {ds : List Diagnostic}
    (h : ∀ t ∈ (tokenize source).1, t.kind.IsPlain) (hparse : parse (tokenize source).1 = .ok (es, ds)) :
    ∃ ts es', tokenize (programText es) = (ts, []) ∧ parse ts = .ok (es', []) ∧ es'.map bare = es.map bare :=
  parse_programText (parse_stated h hparse)

/-- An empty object against an empty block, and a minus before a path against a negative integer. -/
theorem parse_programText_parse_minus :
    ∃ source text : String,
      source = "(\x7b\x7d).k[0]; if -.a == -1 \x7b;\x7d else \x7b .b, .c = f(.d) \x7d" ∧
      text = "(\x7b  \x7d).k[0]\nif ((-(.a)) == (-1)) \x7b;\x7d else \x7b\n.b, .c = f((.d))\n\x7d" ∧
      (∀ t ∈ (tokenize source).1, t.kind.IsPlain) ∧
      ∃ es, parse (tokenize source).1 = .ok (es, []) ∧ programText es = text ∧
        ∃ ts es', tokenize text = (ts, []) ∧ parse ts = .ok (es', []) ∧ es'.map bare = es.map bare := by
  refine ⟨_, _, rfl, rfl, ?_⟩
  have hplain : ∀ t ∈ (tokenize "(\x7b\x7d).k[0]; if -.a == -1 \x7b;\x7d else \x7b .b, .c = f(.d) \x7d").1,
      t.kind.IsPlain := by
    decide +kernel
  obtain ⟨es, hparse, htext⟩ : ∃ es, parse (tokenize
        "(\x7b\x7d).k[0]; if -.a == -1 \x7b;\x7d else \x7b .b, .c = f(.d) \x7d").1 = .ok (es, []) ∧
      programText es = "(\x7b  \x7d).k[0]\nif ((-(.a)) == (-1)) \x7b;\x7d else \x7b\n.b, .c = f((.d))\n\x7d" :=
    exists_of_map_parse (by decide +kernel)
  exact ⟨hplain, es, hparse, htext, htext ▸ parse_programText_parse hplain hparse⟩

end Expr

end Reshape
