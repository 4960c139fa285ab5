/-
Readers taken apart.

What a reader does next is told by a few tokens.  A call, an assignment and the start of an object are seen from
the kinds of the tokens ahead; at the end of a line or program no expression starts; and statements that were
read without a diagnostic are over, or start with one that is closed.

* `statement_of_single`, `statement_of_double`, `statement_of_neither` — the three ways to read a statement;
* `exists_of_statements` — statements without a diagnostic, one by one.
-/
import Reshape.Proofs.Reading

namespace Reshape

namespace Cursor

theorem skipWhile_of_kind {p : TokenKind → Bool} {c : Cursor} (h : p c.kind = false) :
    c.skipWhile p = c := by
  obtain ⟨tokens, last, diagnostics⟩ := c
  cases tokens with
  | nil => rfl
  | cons t rest =>
    have ht : p t.kind = false := h
    simp [skipWhile, ht]

theorem tokens_skipNewlines (c : Cursor) :
    c.skipNewlines.tokens = c.tokens.dropWhile (·.kind == .newline) := by
  rw [skipNewlines, tokens_skipWhile]
  congr 1
  funext t
  by_cases ht : t.kind = .newline
  · simp [ht]
  · simp [ht]

/-- Before anything but a semicolon, only line breaks are skipped. -/
theorem skipSeparators_eq {c : Cursor} (h : c.skipNewlines.kind ≠ .semicolon) :
    c.skipSeparators = c.skipNewlines := by
  rw [kind_eq_head?, tokens_skipNewlines] at h
  have htake : c.tokens.takeWhile (fun t => (t.kind == .newline || t.kind == .semicolon) && t.kind != .eof) =
      c.tokens.takeWhile (fun t => t.kind == .newline && t.kind != .eof) := by
    generalize c.tokens = ts at h ⊢
    induction ts with
    | nil => rfl
    | cons t rest ih =>
      rw [List.dropWhile_cons] at h
      rw [List.takeWhile_cons, List.takeWhile_cons]
      by_cases ht : t.kind = .newline
      · simp only [ht, beq_self_eq_true, if_true] at h
        simp [ht, ih h]
      · have hsemicolon : t.kind ≠ .semicolon := by simpa [ht] using h
        simp [ht, hsemicolon]
  rw [skipSeparators, skipNewlines, skipWhile, skipWhile, htake]

theorem skipSeparators_cons {t : Token} (h : t.kind = .newline) (ts : List Token) (last : Span)
    (ns : List Note) : skipSeparators ⟨t :: ts, last, ns⟩ = skipSeparators ⟨ts, t.span, ns⟩ := by
  have htake : (t :: ts).takeWhile (fun t => (t.kind == .newline || t.kind == .semicolon) && t.kind != .eof) =
      t :: ts.takeWhile (fun t => (t.kind == .newline || t.kind == .semicolon) && t.kind != .eof) := by
    simp [h]
  rw [skipSeparators, skipWhile, skipWhile]
  dsimp only
  rw [htake, List.getLast?_cons]
  cases (ts.takeWhile fun t => (t.kind == .newline || t.kind == .semicolon) && t.kind != .eof).getLast? with
  | none => rfl
  | some t' => rfl

/-- Line breaks in front are skipped with what they stand before. -/
theorem exists_skipSeparators_append {lead : List Token} (h : ∀ t ∈ lead, t.kind = .newline) (ts : List Token)
    (last : Span) (ns : List Note) :
    ∃ last', skipSeparators ⟨lead ++ ts, last, ns⟩ = skipSeparators ⟨ts, last', ns⟩ := by
  induction lead generalizing last with
  | nil => exact ⟨last, rfl⟩
  | cons t lead ih =>
    obtain ⟨last', hlast'⟩ := ih (fun t' ht' => h t' (List.mem_cons_of_mem t ht')) t.span
    exact ⟨last', (skipSeparators_cons (h t List.mem_cons_self) _ _ _).trans hlast'⟩

theorem start_of_eof {ts : List Token} {stop : Token} (h : stop.kind = .eof) :
    start (ts ++ [stop]) = ⟨ts ++ [stop], ⟨0, 0, 0, 0⟩, []⟩ := by
  rw [start, List.getLast?_concat]
  simp [h]

theorem kindAt_succ {c : Cursor} (h : c.kind ≠ .eof) (n : Nat) : c.kindAt (n + 1) = c.advance.kindAt n := by
  obtain ⟨t, rest, htokens, -, hadvance⟩ := Cursor.exists_of_kind_ne h
  rw [hadvance, Cursor.kindAt, htokens]
  rfl

theorem kindAt_one {c : Cursor} (h : c.kind ≠ .eof) : c.kindAt 1 = c.advance.kind :=
  kindAt_succ h 0

end Cursor

namespace Expr

open Parse

/-! ### Where no expression starts -/

theorem bind_none {α β : Type} {p : Parse α} {f : α → Parse β} {c : Cursor} (h : (p.run c).1 = none) :
    ((p >>= f).run c).1 = none := by
  rcases hp : p.run c with ⟨_ | a, c₁⟩
  · rw [run_bind_none hp]
  · rw [hp] at h
    cases h

/-- The end of a program or line, or an `else`: no expression starts there. -/
def Ends (c : Cursor) : Prop :=
  c.kind = .eof ∨ c.kind = .newline ∨ c.kind = .kwElse

theorem primary_ends (fuel : Nat) {c : Cursor} (h : Ends c) : ((primary fuel).run c).1 = none := by
  cases fuel with
  | zero => rfl
  | succ fuel =>
    rw [primary, run_cursor_bind]
    rcases h with h | h | h
    · rw [h]
      rfl
    · rw [h]
      rfl
    · rw [h]
      rfl

theorem prefixed_ends (fuel : Nat) {c : Cursor} (h : Ends c) : ((prefixed fuel).run c).1 = none := by
  cases fuel with
  | zero => rfl
  | succ fuel =>
    have hop : UnaryOp.ofToken? c.kind = none := by
      rcases h with h | h | h
      · rw [h]
        rfl
      · rw [h]
        rfl
      · rw [h]
        rfl
    rw [prefixed, run_cursor_bind, hop]
    exact bind_none (primary_ends fuel h)

theorem expression_ends (fuel level : Nat) {c : Cursor} (h : Ends c) :
    ((expression fuel level).run c).1 = none := by
  cases fuel with
  | zero => rfl
  | succ fuel =>
    rw [expression]
    exact bind_none (prefixed_ends fuel h)

theorem expect_lost {c : Cursor} {kind : TokenKind} (hkind : kind ≠ .eof) (expected : String) (h : c.kind = .eof) :
    ((expect kind expected).run c).1 = none := by
  rw [run_expect, if_neg (fun hk => hkind (hk.symm.trans h))]

/-- Line breaks and semicolons up to the end leave nothing to read in braces. -/
theorem braces_lost (fuel : Nat) {c : Cursor} (h : c.advance.skipSeparators.kind = .eof) :
    ((braces fuel).run c).1 = none := by
  cases fuel with
  | zero => rfl
  | succ fuel =>
    rw [braces]
    by_cases hkind : c.kind = .lBrace
    · have hexpect : (expect .lBrace "`\x7b`").run c = (some c.current, c.advance) := if_pos hkind
      rw [run_bind_some hexpect]
      obtain ⟨body, c', hbody, hc'⟩ : ∃ body c', (statements fuel true).run c.advance = (some body, c') ∧
          c'.kind ≠ .rBrace := by
        cases fuel with
        | zero =>
          refine ⟨[], c.advance, rfl, fun hbrace => ?_⟩
          rw [Cursor.skipSeparators, Cursor.skipWhile_of_kind (by simp [hbrace]), hbrace] at h
          cases h
        | succ fuel =>
          refine ⟨[], c.advance.skipSeparators, ?_, by simp [h]⟩
          rw [run, statements]
          simp [h]
      rw [run_bind_some hbody, run_cursor_bind, if_neg hc']
      rfl
    · have hexpect : (expect .lBrace "`\x7b`").run c = (none, complain "`\x7b`" c) := if_neg hkind
      rw [run_bind_none hexpect]

/-! ### Suffixes, calls and objects -/

/-- The reader of a suffix that starts with a token of a kind. -/
def suffixOf : TokenKind → Option (Parse Path)
  | .path [] => none
  | .path p => some do let _ ← token; return p
  | .lBracket => some do return [.index (← indexSuffix)]
  | _ => none

theorem suffix?_eq (e : Expr) (c : Cursor) :
    suffix? e c = if c.current.span.start = e.span.stop then suffixOf c.kind else none := rfl

theorem operators_stop (fuel level : Nat) (e : Expr) {c : Cursor}
    (h : ∀ op, BinaryOp.ofToken? c.kind = some op → op.level ≤ level) :
    (operators fuel level e).run c = (some e, c) := by
  cases fuel with
  | zero => rfl
  | succ fuel =>
    rw [operators, run_cursor_bind]
    split
    · rfl
    · rename_i op hop
      rw [if_pos (h op hop)]
      rfl

theorem suffixes_stop (fuel : Nat) (e : Expr) {c : Cursor} (h : suffixOf c.kind = none) :
    (suffixes fuel e).run c = (some e, c) := by
  cases fuel with
  | zero => rfl
  | succ fuel =>
    have hnone : suffix? e c = none := by
      rw [suffix?_eq, h, ite_self]
    rw [suffixes, run_cursor_bind, hnone]
    rfl

/-- The start of an object, seen with two tokens past the brace and the line breaks behind it. -/
theorem startsObject_eq {c : Cursor} (heof : c.kind ≠ .eof) :
    startsObject c =
      match c.advance.skipNewlines.kind with
      | .rBrace => true
      | .string _ => decide (c.advance.skipNewlines.advance.kind = .colon)
      | _ => false := by
  obtain ⟨t₀, rest₀, htokens₀, -, hadvance₀⟩ := Cursor.exists_of_kind_ne heof
  have htokens := c.advance.tokens_skipNewlines
  rw [show c.advance.tokens = c.tokens.drop 1 by rw [hadvance₀, htokens₀]; rfl] at htokens
  unfold startsObject
  rw [← htokens]
  generalize c.advance.skipNewlines = c₁
  rcases hc₁ : c₁.tokens with _ | ⟨t, rest⟩
  · rw [show c₁.kind = .eof by simp [Cursor.kind, Cursor.kindAt, hc₁]]
  · rw [c₁.kind_cons hc₁]
    by_cases ht : t.kind = .eof
    · simp [ht]
    · have hadvance : c₁.advance.tokens = rest := by simp [Cursor.advance, hc₁, ht]
      have hcolon : (rest.head?.map (·.kind) == some .colon) = decide (c₁.advance.kind = .colon) := by
        rw [Cursor.kind_eq_head?, hadvance]
        cases rest.head? with
        | none => rfl
        | some t' =>
          rw [Option.map_some, Option.getD_some, Bool.eq_iff_iff]
          simp
      exact congrArg (fun b => match t.kind with
        | .rBrace => true
        | .string _ => b
        | _ => false) hcolon

/-- The call of a name, when its arguments have been read. -/
def callOf (name : String) (start : Token) (aborts : Bool) (arguments : List Expr) (stop : Token) :
    Parse Expr :=
  let span := start.span.join stop.span
  if name = "del" then
    match arguments with
    | [path pathSpan p] => return delete span ⟨p, pathSpan⟩ aborts
    | [other] =>
      report .pathArgumentRequired "function `del` requires a field path argument" other.span
        "expected a field path such as `.field`"
    | _ =>
      report .arityMismatch s!"function `del` takes 1 argument but {arguments.length} were supplied" span
        "expected a single field path"
  else return call span ⟨name, start.span, aborts⟩ arguments

theorem callOf_of_ne {name : String} {start stop : Token} {aborts : Bool} {es : List Expr} (h : name ≠ "del") :
    callOf name start aborts es stop =
      pure (call (start.span.join stop.span) ⟨name, start.span, aborts⟩ es) := by
  unfold callOf
  exact if_neg h

/-- A removal blames what stands for its place if that is no place. -/
theorem callOf_del_of_ne {start stop : Token} {aborts : Bool} {e : Expr} (h : ∀ s p, e ≠ path s p) :
    callOf "del" start aborts [e] stop =
      report .pathArgumentRequired "function `del` requires a field path argument" e.span
        "expected a field path such as `.field`" := by
  cases e with
  | path s p => exact absurd rfl (h s p)
  | _ => rfl

theorem callOf_del_of_two {start stop : Token} {aborts : Bool} {e e' : Expr} {es : List Expr} :
    callOf "del" start aborts (e :: e' :: es) stop =
      report .arityMismatch s!"function `del` takes 1 argument but {es.length + 2} were supplied"
        (start.span.join stop.span) "expected a single field path" := by
  cases e <;> rfl

theorem called_succ (fuel : Nat) (name : String) :
    called (fuel + 1) name = (do
      let start ← token
      let aborts ← accept .abortMarker
      if (← cursor).kind = .lParen then
        let _ ← token
        let arguments ← list fuel .rParen "`,` or `)`"
        let stop ← token
        callOf name start aborts arguments stop
      else
        report .syntaxError s!"unexpected identifier `{name}`" start.span
          "bare identifiers are not supported; expected a function call") := by
  rw [called]
  rfl

/-! ### Three kinds of statements -/

/-- An assignment to one place. -/
def single (fuel : Nat) : Parse Expr := do
  let place ← target
  let _ ← expect .assign "`=`"
  skipNewlines
  let value ← expression fuel 0
  return assign (place.span.join value.span) place value

/-- An assignment to two places. -/
def double (fuel : Nat) : Parse Expr := do
  let ok ← target
  let _ ← expect .comma "`,`"
  let err ← target
  let _ ← expect .assign "`=`"
  skipNewlines
  let value ← expression fuel 0
  return assignPair (ok.span.join value.span) ok err value

def StartsSingle (c : Cursor) : Prop :=
  ∃ p, c.kind = .path p ∧ c.advance.kind = .assign

def StartsDouble (c : Cursor) : Prop :=
  ∃ p q, c.kind = .path p ∧ c.advance.kind = .comma ∧ c.advance.advance.kind = .path q ∧
    c.advance.advance.advance.kind = .assign

theorem startsSingle_iff_kindAt {c : Cursor} :
    StartsSingle c ↔ ∃ p, c.kind = .path p ∧ c.kindAt 1 = .assign := by
  refine exists_congr fun p => and_congr_right fun hpath => ?_
  rw [Cursor.kindAt_one (by simp [hpath])]

theorem startsDouble_iff_kindAt {c : Cursor} :
    StartsDouble c ↔
      ∃ p q, c.kind = .path p ∧ c.kindAt 1 = .comma ∧ c.kindAt 2 = .path q ∧ c.kindAt 3 = .assign := by
  refine exists_congr fun p => exists_congr fun q => and_congr_right fun hpath => ?_
  have hne : c.kind ≠ .eof := by simp [hpath]
  rw [Cursor.kindAt_one hne, Cursor.kindAt_succ hne 1, Cursor.kindAt_succ hne 2]
  refine and_congr_right fun hcomma => ?_
  have hne₁ : c.advance.kind ≠ .eof := by simp [hcomma]
  rw [Cursor.kindAt_one hne₁, Cursor.kindAt_succ hne₁ 1]
  refine and_congr_right fun hpath' => ?_
  rw [Cursor.kindAt_one (by simp [hpath'])]

theorem statement_of_single (fuel : Nat) {c : Cursor} (h : StartsSingle c) :
    (statement (fuel + 1)).run c = (single fuel).run c := by
  obtain ⟨p, hpath, hassign⟩ := startsSingle_iff_kindAt.1 h
  rw [statement, run_cursor_bind, hpath, hassign]
  rfl

theorem statement_of_double (fuel : Nat) {c : Cursor} (h : StartsDouble c) :
    (statement (fuel + 1)).run c = (double fuel).run c := by
  obtain ⟨p, q, hpath, hcomma, hpath', hassign⟩ := startsDouble_iff_kindAt.1 h
  rw [statement, run_cursor_bind, hpath, hcomma, hpath', hassign]
  rfl

theorem statement_of_neither (fuel : Nat) {c : Cursor} (hs : ¬StartsSingle c) (hd : ¬StartsDouble c) :
    (statement (fuel + 1)).run c = (expression fuel 0).run c := by
  rw [statement, run_cursor_bind]
  split
  · rename_i p hpath hassign
    exact absurd (startsSingle_iff_kindAt.2 ⟨p, hpath, hassign⟩) hs
  · rename_i p q hpath hcomma hpath' hassign
    exact absurd (startsDouble_iff_kindAt.2 ⟨p, q, hpath, hcomma, hpath', hassign⟩) hd
  · rfl

theorem statement_else (fuel : Nat) {c : Cursor} (h : c.kind = .kwElse) :
    ((statement fuel).run c).1 = none := by
  cases fuel with
  | zero => rfl
  | succ fuel =>
    rw [statement_of_neither fuel]
    · exact expression_ends fuel 0 (.inr (.inr h))
    · rintro ⟨p, hpath, -⟩
      rw [h] at hpath
      cases hpath
    · rintro ⟨p, q, hpath, -⟩
      rw [h] at hpath
      cases hpath

/-! ### Statements one by one -/

/-- A list of statements is over: at the end, or, in a block, at its closing brace. -/
def Stops (inBlock : Bool) (c : Cursor) : Prop :=
  c.kind = .eof ∨ inBlock = true ∧ c.kind = .rBrace

/-- A statement is over: its line is, or the block. -/
def Closes (inBlock : Bool) (c : Cursor) : Prop :=
  c.kind.isTerminator = true ∨ inBlock = true ∧ c.kind = .rBrace

/-- Line breaks and semicolons before statements do not matter. -/
theorem statements_congr (fuel : Nat) (inBlock : Bool) {c d : Cursor} (h : c.skipSeparators = d.skipSeparators) :
    (statements (fuel + 1) inBlock).run c = (statements (fuel + 1) inBlock).run d := by
  rw [run, run, statements]
  dsimp only
  rw [h]

theorem statements_of_stops {inBlock : Bool} (fuel : Nat) {c : Cursor} (h : Stops inBlock c.skipSeparators) :
    (statements (fuel + 1) inBlock).run c = (some [], c.skipSeparators) := by
  rw [run, statements]
  simp only [Stops] at h
  simp [h]

theorem statements_of_closes {inBlock : Bool} {fuel : Nat} {c c₁ c' : Cursor} {e : Expr} {rest : List Expr}
    (hbrace : c.skipSeparators.kind ≠ .rBrace) (heof : c.skipSeparators.kind ≠ .eof)
    (he : (statement fuel).run c.skipSeparators = (some e, c₁)) (hcloses : Closes inBlock c₁)
    (hrest : (statements fuel inBlock).run c₁ = (some rest, c')) :
    (statements (fuel + 1) inBlock).run c = (some (e :: rest), c') := by
  rw [run] at he hrest
  rw [run, statements]
  simp only [Closes] at hcloses
  simp [hbrace, heof, he, hcloses, hrest]

/-- Without a diagnostic, statements are over or start with one that is closed. -/
theorem exists_of_statements {inBlock : Bool} {fuel : Nat} {c c' : Cursor} {es : List Expr} (hc : c.Valid)
    (hfuel : Fed 6 (fuel + 1) c) (h : (statements (fuel + 1) inBlock).run c = (some es, c'))
    (hclean : c'.notes = []) :
    (Stops inBlock c.skipSeparators ∧ es = [] ∧ c' = c.skipSeparators) ∨
      ∃ e c₁ rest, c.skipSeparators.kind ≠ .rBrace ∧ c.skipSeparators.kind ≠ .eof ∧
        (statement fuel).run c.skipSeparators = (some e, c₁) ∧ Closes inBlock c₁ ∧
        (statements fuel inBlock).run c₁ = (some rest, c') ∧ es = e :: rest := by
  have hle := c.skipSeparators_reads.length_le
  have hc₀ := hc.of_reads c.skipSeparators_reads
  simp only [Fed] at hfuel
  rw [run, statements] at h
  dsimp only at h
  generalize c.skipSeparators = c₀ at h hle hc₀ ⊢
  split at h
  · rename_i hstops
    obtain ⟨hes, rfl⟩ := Prod.mk.inj h
    exact .inl ⟨by simpa [Stops] using hstops, (Option.some.inj hes).symm, rfl⟩
  rename_i hstops
  have heof : c₀.kind ≠ .eof := by
    intro hkind
    simp [hkind] at hstops
  split at h
  · -- an unmatched brace is recorded
    rename_i hbrace
    have hrest := ((c₀.record _).advance_reads.trans ((readersRead fuel).statements inBlock _)).clean
      (show ((statements fuel inBlock).run _).2.notes = [] by rw [run, h]; exact hclean)
    simp [Cursor.record, Cursor.note] at hrest
  rename_i hbrace
  have hreports : Reports ((statement fuel).run c₀) :=
    (readersReport fuel).statement hc₀ (by simp only [Fed]; omega)
  have hreads := ((readersRead fuel).statement c₀).toReads
  rw [run] at hreports hreads
  split at h
  · -- so is why a statement is abandoned
    rename_i c₁ he
    split at h
    · cases h
    have hrest := ((c₁.synchronize_reads inBlock).trans ((readersRead fuel).statements inBlock _)).clean
      (show ((statements fuel inBlock).run _).2.notes = [] by rw [run, h]; exact hclean)
    rw [he] at hreports
    exact absurd hrest (hreports rfl)
  · rename_i e c₁ he
    split at h
    · rename_i rest c₂ hrest
      obtain ⟨hes, rfl⟩ := Prod.mk.inj h
      -- and what stands behind a statement that is not closed
      have hcloses : Closes inBlock c₁ := by
        by_contra hopen
        rw [if_neg (by simpa [Closes] using hopen)] at hrest
        have hclean₁ := (((complain "end of statement" c₁).synchronize_reads inBlock).trans
          ((readersRead fuel).statements inBlock _)).clean
          (show ((statements fuel inBlock).run _).2.notes = [] by rw [run, hrest]; exact hclean)
        exact notes_complain (hc₀.of_reads (hreads.to he)) _ hclean₁
      rw [if_pos (by simpa [Closes] using hcloses)] at hrest
      exact .inr ⟨e, c₁, rest, hbrace, heof, he, hcloses, hrest, (Option.some.inj hes).symm⟩
    · cases h

/-- Without a diagnostic, statements do not start with an `else`. -/
theorem kind_ne_else_of_statements {inBlock : Bool} {fuel : Nat} {c c' : Cursor} {es : List Expr}
    (hc : c.Valid) (hfuel : Fed 6 (fuel + 1) c)
    (h : (statements (fuel + 1) inBlock).run c = (some es, c')) (hclean : c'.notes = []) :
    c.skipSeparators.kind ≠ .kwElse := by
  intro helse
  rcases exists_of_statements hc hfuel h hclean with ⟨heof | ⟨-, hbrace⟩, -⟩ | ⟨e, c₁, rest, -, -, he, -⟩
  · rw [helse] at heof
    cases heof
  · rw [helse] at hbrace
    cases hbrace
  · have hnone := statement_else fuel helse
    rw [he] at hnone
    cases hnone

/-- What it is to read a text without a diagnostic. -/
theorem parse_eq {ts : List Token} {stop : Token} (h : stop.kind = .eof) {es : List Expr} :
    parse (ts ++ [stop]) = .ok (es, []) ↔
      ∃ c', (statements (fuelFor (ts.length + 1)) false).run ⟨ts ++ [stop], ⟨0, 0, 0, 0⟩, []⟩ = (some es, c') ∧
        c'.notes = [] := by
  simp only [parse_eq_ok, Cursor.start_of_eof h, List.length_append, List.length_singleton, Cursor.notes_eq_nil_iff]

end Expr

end Reshape
