/-
What every reader of expressions does to the cursor.

A reader only moves on and keeps what was noted before, that is, it `Reads`; it `Eats` if a result has taken a token
at least.  It `Reports` if a statement is not abandoned without a note of why.  Steps in a row do what each of them
does, so every reader needs one lemma for each of its steps:

* `Moves` — from one cursor to another past certain tokens;
* `Expr.readersRead` — all readers read, whatever their fuel, and those of an expression eat;
* `Expr.readersReport` — with fuel for the tokens that are left, a reader that gives up has reported why.
-/
import Mathlib.Data.List.Basic
import Mathlib.Data.List.TakeWhile
import Reshape.Expr.Parser

namespace Reshape

/-- The second cursor stands behind the tokens `front`, none of them the end, and knows the last of them. -/
structure Moves (c c' : Cursor) (front : List Token) : Prop where
  tokens : c.tokens = front ++ c'.tokens
  inner : ∀ t ∈ front, t.kind ≠ .eof
  last : c'.last = (front.getLast?.map (·.span)).getD c.last

/-- The second cursor is reached from the first: it is behind some of the tokens, and no note is lost. -/
structure Reads (c c' : Cursor) : Prop where
  moves : ∃ front, Moves c c' front
  kept : c.notes <+: c'.notes

/-- A result has taken at least one token. -/
structure Eats {α : Type} (c : Cursor) (r : Option α × Cursor) : Prop extends Reads c r.2 where
  fewer : r.1 ≠ none → r.2.tokens.length < c.tokens.length

/-- A reader that gives up leaves a note. -/
def Reports {α : Type} (r : Option α × Cursor) : Prop :=
  r.1 = none → r.2.notes ≠ []

variable {α β : Type}

theorem Moves.refl (c : Cursor) : Moves c c [] :=
  ⟨rfl, by simp, rfl⟩

theorem Moves.trans {c c' c'' : Cursor} {front front' : List Token} (h : Moves c c' front) (h' : Moves c' c'' front') :
    Moves c c'' (front ++ front') where
  tokens := by rw [h.tokens, h'.tokens, List.append_assoc]
  inner := List.forall_mem_append.2 ⟨h.inner, h'.inner⟩
  last := by
    rw [h'.last, h.last, List.getLast?_append]
    cases front'.getLast? with
    | none => rfl
    | some t => rfl

theorem Reads.refl (c : Cursor) : Reads c c :=
  ⟨⟨[], .refl c⟩, List.prefix_refl _⟩

theorem Reads.trans {c c' c'' : Cursor} (h : Reads c c') (h' : Reads c' c'') : Reads c c'' := by
  obtain ⟨front, hmoves⟩ := h.moves
  obtain ⟨front', hmoves'⟩ := h'.moves
  exact ⟨⟨front ++ front', hmoves.trans hmoves'⟩, h.kept.trans h'.kept⟩

theorem Reads.left {c c' : Cursor} (h : Reads c c') : c'.tokens <:+ c.tokens := by
  obtain ⟨front, hmoves⟩ := h.moves
  exact ⟨front, hmoves.tokens.symm⟩

theorem Reads.length_le {c c' : Cursor} (h : Reads c c') : c'.tokens.length ≤ c.tokens.length :=
  h.left.length_le

/-- Nothing was noted before if nothing is noted after. -/
theorem Reads.clean {c c' : Cursor} (h : Reads c c') (hc' : c'.notes = []) : c.notes = [] :=
  List.prefix_nil.1 (hc' ▸ h.kept)

/-- An overflow stays. -/
theorem Reads.overflowed {c c' : Cursor} (h : Reads c c') (hc : c.overflowed = true) : c'.overflowed = true := by
  rw [Cursor.overflowed, List.contains_iff_mem] at hc ⊢
  exact h.kept.subset hc

theorem Eats.of_none {c : Cursor} {r : Option α × Cursor} (h : Reads c r.2) (hr : r.1 = none) : Eats c r :=
  ⟨h, fun hne => absurd hr hne⟩

theorem Reads.to {c c' : Cursor} {r : Option α × Cursor} {a : Option α} (h : Reads c r.2)
    (hr : r = (a, c')) : Reads c c' := by
  rwa [hr] at h

theorem Eats.to {c c' : Cursor} {r : Option α × Cursor} {a : Option α} (h : Eats c r)
    (hr : r = (a, c')) : Reads c c' :=
  h.toReads.to hr

theorem Eats.lt {c c' : Cursor} {r : Option α × Cursor} {a : α} (h : Eats c r) (hr : r = (some a, c')) :
    c'.tokens.length < c.tokens.length := by
  have hlt := h.fewer (by simp [hr])
  rwa [hr] at hlt

/-! ### Cursors -/

namespace Cursor

variable (c : Cursor)

/-- With nothing noted there is no overflow. -/
theorem not_overflowed {c : Cursor} (h : c.notes = []) : c.overflowed = false := by
  rw [overflowed, h]
  rfl

theorem notes_ne_nil {c : Cursor} (h : c.overflowed = true) : c.notes ≠ [] := by
  intro hnil
  rw [not_overflowed hnil] at h
  cases h

/-- Nothing is noted if there is neither an overflow nor anything to report. -/
theorem notes_eq_nil_iff {c : Cursor} : c.notes = [] ↔ c.overflowed = false ∧ c.diagnostics = [] := by
  rw [overflowed, diagnostics]
  rcases c.notes with _ | ⟨_ | _, rest⟩
  · simp
  · simp [Note.diagnostic?]
  · simp

theorem overflowed_note (c : Cursor) : (c.note .overflow).overflowed = true := by
  simp [overflowed, note]

@[simp] theorem diagnostics_note (c : Cursor) : (c.note .overflow).diagnostics = c.diagnostics := by
  simp [diagnostics, note, Note.diagnostic?]

@[simp] theorem overflowed_record (c : Cursor) (d : Diagnostic) : (c.record d).overflowed = c.overflowed := by
  simp [overflowed, record, note]

@[simp] theorem diagnostics_record (c : Cursor) (d : Diagnostic) :
    (c.record d).diagnostics = c.diagnostics ++ [d] := by
  simp [diagnostics, record, note, Note.diagnostic?]

@[simp] theorem notes_advance (c : Cursor) : c.advance.notes = c.notes := by
  unfold advance
  split
  · rfl
  · split
    · rfl
    · rfl

@[simp] theorem overflowed_advance (c : Cursor) : c.advance.overflowed = c.overflowed := by
  rw [overflowed, notes_advance, overflowed]

@[simp] theorem diagnostics_advance (c : Cursor) : c.advance.diagnostics = c.diagnostics := by
  rw [diagnostics, notes_advance, diagnostics]

/-- No token that is left is invalid. -/
def Valid : Prop :=
  ∀ t ∈ c.tokens, t.kind ≠ .invalid

theorem Valid.of_reads {c c' : Cursor} (hc : c.Valid) (h : Reads c c') : c'.Valid :=
  fun t ht => hc t (h.left.subset ht)

theorem kind_eq_head? : c.kind = (c.tokens.head?.map (·.kind)).getD .eof := by
  rw [kind, kindAt, List.head?_eq_getElem?]

theorem kind_cons {t : Token} {rest : List Token} (h : c.tokens = t :: rest) : c.kind = t.kind := by
  simp [kind, kindAt, h]

theorem kind_current : c.current.kind = c.kind := by
  rw [kind_eq_head?, current]
  cases c.tokens with
  | nil => rfl
  | cons t rest => rfl

theorem Valid.kind_ne {c : Cursor} (hc : c.Valid) : c.kind ≠ .invalid := by
  cases h : c.tokens with
  | nil => simp [kind, kindAt, h]
  | cons t rest =>
    rw [kind_cons c h]
    exact hc t (h ▸ List.mem_cons_self)

/-- Before the end there is a token to move past. -/
theorem exists_of_kind_ne {c : Cursor} (h : c.kind ≠ .eof) :
    ∃ t rest, c.tokens = t :: rest ∧ t.kind = c.kind ∧
      c.advance = { c with tokens := rest, last := t.span } := by
  cases htokens : c.tokens with
  | nil => simp [kind, kindAt, htokens] at h
  | cons t rest =>
    have hkind := kind_cons c htokens
    refine ⟨t, rest, rfl, hkind.symm, ?_⟩
    rw [advance, htokens]
    exact if_neg (hkind ▸ h)

theorem advance_moves {c : Cursor} (h : c.kind ≠ .eof) : Moves c c.advance [c.current] := by
  obtain ⟨t, rest, htokens, hkind, hadvance⟩ := exists_of_kind_ne h
  have hcurrent : c.current = t := by
    rw [current, htokens]
    rfl
  rw [hadvance, hcurrent]
  exact ⟨htokens, by simpa [hkind] using h, rfl⟩

theorem advance_of_eof {c : Cursor} (h : c.kind = .eof) : c.advance = c := by
  unfold advance
  split
  · rfl
  · rename_i t rest htokens
    rw [kind_cons c htokens] at h
    exact if_pos h

theorem advance_reads : Reads c c.advance := by
  by_cases h : c.kind = .eof
  · rw [advance_of_eof h]
    exact Reads.refl c
  · refine ⟨⟨[c.current], advance_moves h⟩, ?_⟩
    obtain ⟨t, rest, -, -, hadvance⟩ := exists_of_kind_ne h
    simp [hadvance]

theorem length_advance_lt {c : Cursor} (h : c.kind ≠ .eof) : c.advance.tokens.length < c.tokens.length := by
  obtain ⟨t, rest, htokens, -, hadvance⟩ := exists_of_kind_ne h
  rw [hadvance, htokens]
  exact Nat.lt_succ_self _

theorem tokens_skipWhile (p : TokenKind → Bool) (c : Cursor) :
    (c.skipWhile p).tokens = c.tokens.dropWhile fun t => p t.kind && t.kind != .eof := by
  rw [skipWhile]
  generalize c.tokens = ts
  induction ts with
  | nil => rfl
  | cons t ts ih =>
    simp only [List.takeWhile_cons, List.dropWhile_cons]
    split
    · simpa using ih
    · rfl

theorem exists_skipWhile_moves (p : TokenKind → Bool) :
    ∃ front, Moves c (c.skipWhile p) front ∧ ∀ t ∈ front, p t.kind = true := by
  have hskipped : ∀ t ∈ c.tokens.takeWhile (fun t => p t.kind && t.kind != .eof), p t.kind = true ∧ t.kind ≠ .eof := by
    intro t ht
    simpa using List.mem_takeWhile_imp ht
  refine ⟨c.tokens.takeWhile fun t => p t.kind && t.kind != .eof, ⟨?_, fun t ht => (hskipped t ht).2, rfl⟩,
    fun t ht => (hskipped t ht).1⟩
  rw [tokens_skipWhile, List.takeWhile_append_dropWhile]

/-- What is skipped before a statement. -/
theorem exists_skipSeparators_moves :
    ∃ front, Moves c c.skipSeparators front ∧ ∀ t ∈ front, t.kind = .newline ∨ t.kind = .semicolon := by
  obtain ⟨front, hmoves, hfront⟩ := c.exists_skipWhile_moves fun k => k == .newline || k == .semicolon
  exact ⟨front, hmoves, fun t ht => by simpa using hfront t ht⟩

theorem skipWhile_reads (p : TokenKind → Bool) : Reads c (c.skipWhile p) := by
  obtain ⟨front, hmoves, -⟩ := c.exists_skipWhile_moves p
  exact ⟨⟨front, hmoves⟩, List.prefix_refl _⟩

theorem skipNewlines_reads : Reads c c.skipNewlines :=
  c.skipWhile_reads _

theorem skipSeparators_reads : Reads c c.skipSeparators :=
  c.skipWhile_reads _

theorem note_moves (n : Note) : Moves c (c.note n) [] :=
  ⟨rfl, by simp, rfl⟩

theorem note_reads (n : Note) : Reads c (c.note n) :=
  ⟨⟨[], c.note_moves n⟩, List.prefix_append _ _⟩

theorem record_moves (d : Diagnostic) : Moves c (c.record d) [] :=
  c.note_moves _

theorem record_reads (d : Diagnostic) : Reads c (c.record d) :=
  c.note_reads _

theorem exists_moves_cons {c' : Cursor} {t : Token} {rest : List Token} {ns : List Note} (ht : t.kind ≠ .eof)
    (last : Span) (h : ∃ front, Moves ⟨rest, t.span, ns⟩ c' front) :
    ∃ front, Moves ⟨t :: rest, last, ns⟩ c' front := by
  obtain ⟨front, h⟩ := h
  have hstep : Moves ⟨t :: rest, last, ns⟩ ⟨rest, t.span, ns⟩ [t] := ⟨rfl, by simpa using ht, rfl⟩
  exact ⟨t :: front, hstep.trans h⟩

theorem exists_boundary_moves (inBlock : Bool) (depth : Nat) (last : Span) (ts : List Token)
    (ns : List Note) :
    ∃ front, Moves ⟨ts, last, ns⟩
      ⟨(boundary inBlock depth last ts).1, (boundary inBlock depth last ts).2, ns⟩ front := by
  fun_induction boundary inBlock depth last ts with
  | case1 | case2 | case8 => exact ⟨[], .refl _⟩
  | case3 last t rest ht => exact exists_moves_cons (by simp [ht]) last ⟨[], .refl _⟩
  | case5 last t rest ht => exact exists_moves_cons (by simp [ht]) last ⟨[], .refl _⟩
  | case9 last t rest ht _ => exact exists_moves_cons (by simp [ht]) last ⟨[], .refl _⟩
  | case4 depth last t rest ht _ ih => exact exists_moves_cons (by simp [ht]) last ih
  | case6 depth last t rest ht _ ih => exact exists_moves_cons (by simp [ht]) last ih
  | case7 depth last t rest ht ih => exact exists_moves_cons (by simp [ht]) last ih
  | case10 depth last t rest ht _ ih => exact exists_moves_cons (by simp [ht]) last ih
  | case11 depth last t rest heof _ _ _ _ ih => exact exists_moves_cons heof last ih

theorem synchronize_reads (inBlock : Bool) : Reads c (c.synchronize inBlock) :=
  ⟨exists_boundary_moves inBlock 0 c.last c.tokens c.notes, List.prefix_refl _⟩

end Cursor

namespace Parse

/-! ### Steps in a row -/

/-- The outcome of a reader at a cursor. -/
def run (p : Parse α) (c : Cursor) : Option α × Cursor :=
  p c

theorem ext {p q : Parse α} (h : ∀ c, p.run c = q.run c) : p = q :=
  funext h

theorem run_bind (p : Parse α) (f : α → Parse β) (c : Cursor) :
    (p >>= f).run c =
      match p.run c with
      | (some a, c') => (f a).run c'
      | (none, c') => (none, c') := rfl

theorem run_bind_some {p : Parse α} {f : α → Parse β} {c c' : Cursor} {a : α}
    (h : p.run c = (some a, c')) : (p >>= f).run c = (f a).run c' := by
  rw [run_bind, h]

theorem run_bind_none {p : Parse α} {f : α → Parse β} {c c' : Cursor} (h : p.run c = (none, c')) :
    (p >>= f).run c = (none, c') := by
  rw [run_bind, h]

theorem exists_of_run_bind {p : Parse α} {f : α → Parse β} {c c' : Cursor} {b : β}
    (h : (p >>= f).run c = (some b, c')) :
    ∃ a c₁, p.run c = (some a, c₁) ∧ (f a).run c₁ = (some b, c') := by
  rcases hp : p.run c with ⟨_ | a, c₁⟩
  · rw [run_bind_none hp] at h
    cases h
  · rw [run_bind_some hp] at h
    exact ⟨a, c₁, rfl, h⟩

theorem run_cursor_bind (f : Cursor → Parse β) (c : Cursor) : (cursor >>= f).run c = (f c).run c := rfl

theorem run_token (c : Cursor) : token.run c = (some c.current, c.advance) := rfl

theorem run_skipNewlines_bind (f : Unit → Parse β) (c : Cursor) :
    (skipNewlines >>= f).run c = (f ()).run c.skipNewlines := rfl

theorem run_expect (kind : TokenKind) (expected : String) (c : Cursor) :
    (expect kind expected).run c =
      if c.kind = kind then (some c.current, c.advance) else (none, complain expected c) := rfl

theorem run_accept (kind : TokenKind) (c : Cursor) :
    (accept kind).run c = if c.kind = kind then (some true, c.advance) else (some false, c) := rfl

@[simp] theorem run_pure (a : α) (c : Cursor) : (pure a : Parse α).run c = (some a, c) := rfl

theorem bind_pure_eq (p : Parse α) : (p >>= fun a => pure a) = p := by
  refine ext fun c => ?_
  rw [run_bind]
  rcases p.run c with ⟨_ | a, c'⟩
  · rfl
  · rfl

variable {p : Parse α} {f : α → Parse β} {c : Cursor}

theorem reads_bind (hp : Reads c (p.run c).2) (hf : ∀ a c', p.run c = (some a, c') → Reads c' ((f a).run c').2) :
    Reads c ((p >>= f).run c).2 := by
  rcases h : p.run c with ⟨_ | a, c'⟩
  · rw [run_bind_none h]
    rw [h] at hp
    exact hp
  · rw [run_bind_some h]
    exact (h ▸ hp).trans (hf a c' h)

/-- The first step eats. -/
theorem eats_bind (hp : Eats c (p.run c)) (hf : ∀ a c', p.run c = (some a, c') → Reads c' ((f a).run c').2) :
    Eats c ((p >>= f).run c) := by
  refine ⟨reads_bind hp.toReads hf, fun hne => ?_⟩
  rcases h : p.run c with ⟨_ | a, c'⟩
  · rw [run_bind_none h] at hne
    exact absurd rfl hne
  · rw [run_bind_some h]
    have hlt := hp.fewer (by simp [h])
    rw [h] at hlt
    exact Nat.lt_of_le_of_lt (hf a c' h).length_le hlt

/-- A later step eats. -/
theorem eats_bind_right (hp : Reads c (p.run c).2) (hf : ∀ a c', p.run c = (some a, c') → Eats c' ((f a).run c')) :
    Eats c ((p >>= f).run c) := by
  refine ⟨reads_bind hp fun a c' h => (hf a c' h).toReads, fun hne => ?_⟩
  rcases h : p.run c with ⟨_ | a, c'⟩
  · rw [run_bind_none h] at hne
    exact absurd rfl hne
  · rw [run_bind_some h] at hne ⊢
    have hle := hp.length_le
    rw [h] at hle
    exact Nat.lt_of_lt_of_le ((hf a c' h).fewer hne) hle

theorem reports_bind (hp : Reports (p.run c)) (hf : ∀ a c', p.run c = (some a, c') → Reports ((f a).run c')) :
    Reports ((p >>= f).run c) := by
  rcases h : p.run c with ⟨_ | a, c'⟩
  · rw [run_bind_none h]
    rw [h] at hp
    exact fun _ => hp rfl
  · rw [run_bind_some h]
    exact hf a c' h

/-! ### Single steps -/

variable (c)

theorem token_eats (h : c.kind ≠ .eof) : Eats c (token.run c) :=
  ⟨c.advance_reads, fun _ => Cursor.length_advance_lt h⟩

theorem token_reads : Reads c (token.run c).2 :=
  c.advance_reads

theorem complain_reads (expected : String) : Reads c (complain expected c) := by
  unfold complain
  dsimp only
  split
  · exact Reads.refl c
  · exact c.record_reads _

theorem unexpected_reads (expected : String) : Reads c ((unexpected expected : Parse α).run c).2 :=
  complain_reads c expected

theorem report_reads (code : Code) (message : String) (span : Span) (label : String) :
    Reads c ((report code message span label : Parse α).run c).2 :=
  c.record_reads _

theorem expect_reads (kind : TokenKind) (expected : String) : Reads c ((expect kind expected).run c).2 := by
  rw [run_expect]
  split
  · exact token_reads c
  · exact unexpected_reads c expected

theorem expect_eats {kind : TokenKind} (hkind : kind ≠ .eof) (expected : String) :
    Eats c ((expect kind expected).run c) := by
  rw [run_expect]
  split
  · rename_i h
    exact token_eats c (h ▸ hkind)
  · exact .of_none (unexpected_reads c expected) rfl

theorem accept_reads (kind : TokenKind) : Reads c ((accept kind).run c).2 := by
  rw [run_accept]
  split
  · exact c.advance_reads
  · exact Reads.refl c

theorem moves_of_token (hkind : c.kind ≠ .eof) {t : Token} {c' : Cursor} (h : token.run c = (some t, c')) :
    t.kind = c.kind ∧ Moves c c' [t] := by
  obtain ⟨ht, rfl⟩ := Prod.mk.inj h
  obtain rfl := Option.some.inj ht
  exact ⟨c.kind_current, Cursor.advance_moves hkind⟩

/-- A token that is expected and found. -/
theorem moves_of_expect {kind : TokenKind} (hkind : kind ≠ .eof) {expected : String} {t : Token} {c' : Cursor}
    (h : (expect kind expected).run c = (some t, c')) : t.kind = kind ∧ Moves c c' [t] := by
  rw [run_expect] at h
  split at h
  · rename_i hfound
    subst hfound
    exact moves_of_token c hkind h
  · cases h

/-- A token that is accepted, or none. -/
theorem exists_moves_of_accept {kind : TokenKind} (hkind : kind ≠ .eof) {b : Bool} {c' : Cursor}
    (h : (accept kind).run c = (some b, c')) :
    ∃ front, Moves c c' front ∧ front.map (·.kind) = if b then [kind] else [] := by
  rw [run_accept] at h
  split at h
  · rename_i hfound
    obtain ⟨rfl, rfl⟩ : true = b ∧ c.advance = c' := by simpa using h
    exact ⟨[c.current], Cursor.advance_moves (hfound ▸ hkind), by simp [c.kind_current, hfound]⟩
  · obtain ⟨rfl, rfl⟩ : false = b ∧ c = c' := by simpa using h
    exact ⟨[], .refl c, rfl⟩

theorem skipNewlines_reads : Reads c (Parse.skipNewlines.run c).2 :=
  c.skipNewlines_reads

variable {c}

theorem notes_complain (hc : c.Valid) (expected : String) : (complain expected c).notes ≠ [] := by
  unfold complain
  dsimp only
  rw [if_neg (c.kind_current ▸ hc.kind_ne)]
  simp [Cursor.record, Cursor.note]

@[simp] theorem overflowed_complain (expected : String) (c : Cursor) :
    (complain expected c).overflowed = c.overflowed := by
  unfold complain
  dsimp only
  split
  · rfl
  · exact c.overflowed_record _

theorem pure_reports (a : α) (c : Cursor) : Reports ((pure a : Parse α).run c) :=
  fun h => by cases h

theorem token_reports (c : Cursor) : Reports (token.run c) :=
  fun h => by cases h

theorem skipNewlines_reports (c : Cursor) : Reports (skipNewlines.run c) :=
  fun h => by cases h

theorem accept_reports (c : Cursor) (kind : TokenKind) : Reports ((accept kind).run c) := by
  rw [run_accept]
  split
  · exact fun h => by cases h
  · exact fun h => by cases h

theorem unexpected_reports (hc : c.Valid) (expected : String) :
    Reports ((unexpected expected : Parse α).run c) :=
  fun _ => notes_complain hc expected

theorem report_reports (code : Code) (message : String) (span : Span) (label : String) :
    Reports ((report code message span label : Parse α).run c) := by
  simp [Reports, report, run, Cursor.record, Cursor.note]

theorem expect_reports (hc : c.Valid) (kind : TokenKind) (expected : String) :
    Reports ((expect kind expected).run c) := by
  rw [run_expect]
  split
  · exact fun h => by cases h
  · exact unexpected_reports hc expected

/-! ### Steps from valid tokens -/

/-- A step that gives up with a report, or leaves valid tokens, no more than there were. -/
theorem reports_next (hc : c.Valid) (hr : Reads c (p.run c).2) (hp : Reports (p.run c))
    (hf : ∀ a c', c'.Valid → c'.tokens.length ≤ c.tokens.length → Reports ((f a).run c')) :
    Reports ((p >>= f).run c) :=
  reports_bind hp fun a c' h => hf a c' (hc.of_reads (hr.to h)) (hr.to h).length_le

/-- The same for a step that takes a token. -/
theorem reports_eaten (hc : c.Valid) (he : Eats c (p.run c)) (hp : Reports (p.run c))
    (hf : ∀ a c', c'.Valid → c'.tokens.length < c.tokens.length → Reports ((f a).run c')) :
    Reports ((p >>= f).run c) :=
  reports_bind hp fun a c' h => hf a c' (hc.of_reads (he.to h)) (he.lt h)

end Parse

namespace Expr

open Parse

/-! ### Indices -/

/-- A machine word has room for every integer. -/
@[simp] theorem position_eq (i : Int64) (span : Span) : position i span = pure i := by
  rw [position, position?_eq]

/-- The index in brackets, without the report that no integer needs. -/
theorem indexSuffix_eq : indexSuffix = (do
    let _ ← expect .lBracket "`[`"
    let negative ← accept .minus
    match (← cursor).kind with
    | .integer i =>
      let _ ← token
      let _ ← expect .rBracket "`]`"
      signed negative i
    | _ => unexpected "integer index") := by
  have h := indexSuffix.eq_1
  simp only [position_eq, bind_pure_eq] at h
  exact h

theorem run_signed (negative : Bool) (i : Int64) (c : Cursor) :
    (signed negative i).run c =
      if negative = true ∧ i = Int64.minValue then (none, c.note .overflow)
      else (some (if negative then -i else i), c) := by
  cases negative with
  | false => simp [signed]
  | true =>
    by_cases hi : i = Int64.minValue
    · rw [hi]
      rfl
    · rw [signed, if_pos rfl, fit?_neg hi, if_neg fun h => hi h.2]
      rfl

theorem signed_reads (negative : Bool) (i : Int64) (c : Cursor) : Reads c ((signed negative i).run c).2 := by
  rw [run_signed]
  split
  · exact c.note_reads _
  · exact Reads.refl c

/-! ### Readers move on -/

theorem indexSuffix_eats (c : Cursor) : Eats c (indexSuffix.run c) := by
  rw [indexSuffix_eq]
  refine eats_bind (expect_eats c (by simp) _) fun _ c₁ _ => ?_
  refine reads_bind (accept_reads c₁ _) fun negative c₂ _ => ?_
  rw [run_cursor_bind]
  split
  · refine reads_bind (token_reads c₂) fun _ c₃ _ => ?_
    exact reads_bind (expect_reads c₃ _ _) fun _ c₄ _ => signed_reads negative _ c₄
  · exact unexpected_reads c₂ _

theorem suffix?_eats {e : Expr} {c : Cursor} {read : Parse Path} (h : suffix? e c = some read) :
    Eats c (read.run c) := by
  unfold suffix? at h
  split at h
  · split at h
    · cases h
    · rename_i hkind
      obtain rfl := Option.some.inj h
      exact eats_bind (token_eats c (by simp [hkind])) fun _ c₁ _ => Reads.refl c₁
    · obtain rfl := Option.some.inj h
      exact eats_bind (indexSuffix_eats c) fun _ c₁ _ => Reads.refl c₁
    · cases h
  · cases h

theorem suffixes_reads (fuel : Nat) (e : Expr) (c : Cursor) : Reads c ((suffixes fuel e).run c).2 := by
  induction fuel generalizing e c with
  | zero => exact Reads.refl c
  | succ fuel ih =>
    unfold suffixes
    rw [run_cursor_bind]
    split
    · exact Reads.refl c
    · rename_i read hread
      refine reads_bind (suffix?_eats hread).toReads fun _ c₁ _ => ?_
      rw [run_cursor_bind]
      exact ih _ c₁

theorem target_eats (c : Cursor) : Eats c (target.run c) := by
  unfold target
  rw [run_cursor_bind]
  split
  · rename_i hkind
    exact eats_bind (token_eats c (by simp [hkind])) fun _ c₁ _ => Reads.refl c₁
  · exact .of_none (unexpected_reads c _) rfl

/-- The alternative of a branch, after `else`. -/
def alternative (fuel : Nat) : Parse Expr := do
  if (← cursor).kind = .kwIf then branching fuel
  else do
    let (body, span) ← braces fuel
    pure (block span body)

/-- Goes on in one of two ways: past line breaks and an `else`, or, if there is none, from where it is. -/
def onElse (taken missing : Parse α) : Parse α := fun c =>
  if c.skipNewlines.kind = .kwElse then taken.run c.skipNewlines.advance else missing.run c

theorem run_onElse (taken missing : Parse α) (c : Cursor) :
    (onElse taken missing).run c =
      if c.skipNewlines.kind = .kwElse then taken.run c.skipNewlines.advance else missing.run c := rfl

theorem branching_succ (fuel : Nat) :
    branching (fuel + 1) = (do
      let start ← token
      let condition ← expression fuel 0
      let (body, bodySpan) ← braces fuel
      let span := start.span.join bodySpan
      onElse
        (do
          let alternative ← alternative fuel
          return branch (span.join alternative.span) condition body (some alternative))
        (return branch span condition body none)) := by
  rw [branching]
  refine congrArg (token >>= ·) (funext fun start => ?_)
  refine congrArg (expression fuel 0 >>= ·) (funext fun condition => ?_)
  refine congrArg (braces fuel >>= ·) (funext fun body => ?_)
  obtain ⟨body, bodySpan⟩ := body
  refine Parse.ext fun c => ?_
  dsimp only
  rw [run_cursor_bind, run_skipNewlines_bind]
  by_cases hkind : c.skipNewlines.kind = .kwElse
  · have haccept : (accept .kwElse).run c.skipNewlines = (some true, c.skipNewlines.advance) := if_pos hkind
    rw [run_bind_some haccept, if_pos rfl, run_cursor_bind, run_onElse, if_pos hkind]
    by_cases hif : c.skipNewlines.advance.kind = .kwIf
    · rw [if_pos hif, run_bind (alternative fuel), alternative, run_cursor_bind, if_pos hif]
      rfl
    · rw [if_neg hif, run_bind (alternative fuel), alternative, run_cursor_bind, if_neg hif]
      rcases hbraces : (braces fuel).run c.skipNewlines.advance with ⟨_ | ⟨other, span⟩, c'⟩
      · rw [run_bind_none hbraces, run_bind_none hbraces]
      · rw [run_bind_some hbraces, run_bind_some hbraces]
        rfl
  · have haccept : (accept .kwElse).run c.skipNewlines = (some false, c.skipNewlines) := if_neg hkind
    rw [run_bind_some haccept, if_neg (by simp), run_onElse, if_neg hkind]
    rfl

theorem onElse_reads {taken missing : Parse α} (ht : ∀ c, Reads c (taken.run c).2)
    (hm : ∀ c, Reads c (missing.run c).2) (c : Cursor) : Reads c ((onElse taken missing).run c).2 := by
  rw [run_onElse]
  split
  · exact (c.skipNewlines_reads.trans c.skipNewlines.advance_reads).trans (ht _)
  · exact hm c

/-- What stands behind an item: a comma and more items, or the closing token, which is left. -/
def follow (close : TokenKind) (expected : String) (item : α) (more : Parse (List α)) : Parse (List α) := do
  skipNewlines
  if ← accept .comma then return item :: (← more)
  else if (← cursor).kind = close then return [item]
  else unexpected expected

theorem list_succ (fuel : Nat) (close : TokenKind) (expected : String) :
    list (fuel + 1) close expected = (do
      skipNewlines
      if (← cursor).kind = close then return []
      else
        let e ← expression fuel 0
        follow close expected e (list fuel close expected)) := by
  rw [list]
  rfl

/-- An entry behind its key. -/
def entry (fuel : Nat) (key : String) : Parse (List (String × Expr)) := do
  let _ ← token
  let _ ← expect .colon "`:`"
  skipNewlines
  let e ← expression fuel 0
  follow .rBrace "`,` or `\x7d`" (key, e) (entries fuel)

theorem entries_succ (fuel : Nat) :
    entries (fuel + 1) = (do
      skipNewlines
      match (← cursor).kind with
      | .rBrace => return []
      | .string key => entry fuel key
      | _ => unexpected "string key") := by
  rw [entries]
  rfl

theorem follow_reads (close : TokenKind) (expected : String) (item : α) {more : Parse (List α)}
    (hmore : ∀ c, Reads c (more.run c).2) (c : Cursor) :
    Reads c ((follow close expected item more).run c).2 := by
  unfold follow
  refine reads_bind (skipNewlines_reads c) fun _ c₁ _ => ?_
  refine reads_bind (accept_reads c₁ _) fun comma c₂ _ => ?_
  split
  · exact reads_bind (hmore c₂) fun rest c₃ _ => Reads.refl c₃
  · rw [run_cursor_bind]
    split
    · exact Reads.refl c₂
    · exact unexpected_reads c₂ _

/-- What all readers do with so much fuel. -/
structure ReadersRead (fuel : Nat) : Prop where
  expression : ∀ level c, Eats c ((expression fuel level).run c)
  operators : ∀ level e c, Reads c ((operators fuel level e).run c).2
  prefixed : ∀ c, Eats c ((prefixed fuel).run c)
  primary : ∀ c, Eats c ((primary fuel).run c)
  list : ∀ close expected c, Reads c ((list fuel close expected).run c).2
  entries : ∀ c, Reads c ((entries fuel).run c).2
  braces : ∀ c, Eats c ((braces fuel).run c)
  branching : ∀ c, Eats c ((branching fuel).run c)
  called : ∀ name c, Eats c ((called fuel name).run c)
  statement : ∀ c, Eats c ((statement fuel).run c)
  statements : ∀ inBlock c, Reads c ((statements fuel inBlock).run c).2

section Reads

variable {fuel : Nat} (h : ReadersRead fuel)

include h

theorem expression_eats (level : Nat) (c : Cursor) : Eats c ((expression (fuel + 1) level).run c) := by
  rw [expression]
  exact eats_bind (h.prefixed c) fun e c₁ _ => h.operators level e c₁

theorem operators_reads (level : Nat) (e : Expr) (c : Cursor) :
    Reads c ((operators (fuel + 1) level e).run c).2 := by
  rw [operators, run_cursor_bind]
  split
  · exact Reads.refl c
  · split
    · exact Reads.refl c
    · refine reads_bind (token_reads c) fun _ c₁ _ => ?_
      refine reads_bind (skipNewlines_reads c₁) fun _ c₂ _ => ?_
      refine reads_bind (h.expression _ c₂).toReads fun right c₃ _ => ?_
      exact h.operators _ _ c₃

theorem prefixed_eats (c : Cursor) : Eats c ((prefixed (fuel + 1)).run c) := by
  rw [prefixed, run_cursor_bind]
  split
  · refine eats_bind_right (token_reads c) fun start c₁ _ => ?_
    exact eats_bind (h.expression _ c₁) fun operand c₂ _ => Reads.refl c₂
  · refine eats_bind (h.primary c) fun e c₁ _ => ?_
    split
    · exact Reads.refl c₁
    · exact suffixes_reads fuel e c₁

theorem primary_eats (c : Cursor) : Eats c ((primary (fuel + 1)).run c) := by
  rw [primary, run_cursor_bind]
  split
  · -- a literal
    rename_i value hvalue
    have hkind : c.kind ≠ .eof := by
      intro hkind
      simp [hkind, Scalar.ofToken?] at hvalue
    exact eats_bind (token_eats c hkind) fun _ c₁ _ => Reads.refl c₁
  · split
    · -- a path
      rename_i hkind
      exact eats_bind (token_eats c (by simp [hkind])) fun _ c₁ _ => Reads.refl c₁
    · -- an array
      rename_i hkind
      refine eats_bind (token_eats c (by simp [hkind])) fun start c₁ _ => ?_
      refine reads_bind (h.list _ _ c₁) fun items c₂ _ => ?_
      exact reads_bind (token_reads c₂) fun _ c₃ _ => Reads.refl c₃
    · -- an object or a block
      rename_i hkind
      split
      · refine eats_bind (token_eats c (by simp [hkind])) fun start c₁ _ => ?_
        refine reads_bind (h.entries c₁) fun fields c₂ _ => ?_
        exact reads_bind (token_reads c₂) fun _ c₃ _ => Reads.refl c₃
      · exact eats_bind (h.braces c) fun _ c₁ _ => Reads.refl c₁
    · -- an expression in parentheses
      refine eats_bind_right (token_reads c) fun start c₁ _ => ?_
      refine eats_bind_right (skipNewlines_reads c₁) fun _ c₂ _ => ?_
      refine eats_bind (h.expression _ c₂) fun e c₃ _ => ?_
      refine reads_bind (skipNewlines_reads c₃) fun _ c₄ _ => ?_
      exact reads_bind (expect_reads c₄ _ _) fun stop c₅ _ => Reads.refl c₅
    · exact h.branching c
    · exact h.called _ c
    · exact .of_none (unexpected_reads c _) rfl

theorem list_reads (close : TokenKind) (expected : String) (c : Cursor) :
    Reads c ((list (fuel + 1) close expected).run c).2 := by
  rw [list_succ]
  refine reads_bind (skipNewlines_reads c) fun _ c₁ _ => ?_
  rw [run_cursor_bind]
  split
  · exact Reads.refl c₁
  · refine reads_bind (h.expression _ c₁).toReads fun e c₂ _ => ?_
    exact follow_reads _ _ e (h.list close expected) c₂

theorem entries_reads (c : Cursor) : Reads c ((entries (fuel + 1)).run c).2 := by
  rw [entries_succ]
  refine reads_bind (skipNewlines_reads c) fun _ c₁ _ => ?_
  rw [run_cursor_bind]
  split
  · exact Reads.refl c₁
  · rename_i key _
    rw [entry]
    refine reads_bind (token_reads c₁) fun _ c₂ _ => ?_
    refine reads_bind (expect_reads c₂ _ _) fun _ c₃ _ => ?_
    refine reads_bind (skipNewlines_reads c₃) fun _ c₄ _ => ?_
    refine reads_bind (h.expression _ c₄).toReads fun e c₅ _ => ?_
    exact follow_reads _ _ (key, e) h.entries c₅
  · exact unexpected_reads c₁ _

theorem braces_eats (c : Cursor) : Eats c ((braces (fuel + 1)).run c) := by
  rw [braces]
  refine eats_bind (expect_eats c (by simp) _) fun start c₁ _ => ?_
  refine reads_bind (h.statements true c₁) fun body c₂ _ => ?_
  rw [run_cursor_bind]
  split
  · exact reads_bind (token_reads c₂) fun _ c₃ _ => Reads.refl c₃
  · exact report_reads c₂ _ _ _ _

theorem branching_eats (c : Cursor) : Eats c ((branching (fuel + 1)).run c) := by
  rw [branching_succ]
  refine eats_bind_right (token_reads c) fun start c₁ _ => ?_
  refine eats_bind (h.expression _ c₁) fun condition c₂ _ => ?_
  refine reads_bind (h.braces c₂).toReads fun body c₃ _ => ?_
  refine onElse_reads (fun c₄ => ?_) (fun c₄ => ?_) c₃
  · have halternative : Reads c₄ ((alternative fuel).run c₄).2 := by
      rw [alternative, run_cursor_bind]
      split
      · exact (h.branching c₄).toReads
      · exact reads_bind (h.braces c₄).toReads fun _ c₅ _ => Reads.refl c₅
    exact reads_bind halternative fun _ c₅ _ => Reads.refl c₅
  · exact Reads.refl c₄

theorem called_eats (name : String) (c : Cursor) : Eats c ((called (fuel + 1) name).run c) := by
  rw [called]
  refine eats_bind_right (token_reads c) fun start c₁ _ => ?_
  refine eats_bind_right (accept_reads c₁ _) fun aborts c₂ _ => ?_
  rw [run_cursor_bind]
  split
  · rename_i hkind
    refine eats_bind (token_eats c₂ (by simp [hkind])) fun _ c₃ _ => ?_
    refine reads_bind (h.list _ _ c₃) fun arguments c₄ _ => ?_
    refine reads_bind (token_reads c₄) fun stop c₅ _ => ?_
    split
    · split
      · exact Reads.refl c₅
      · exact report_reads c₅ _ _ _ _
      · exact report_reads c₅ _ _ _ _
    · exact Reads.refl c₅
  · exact .of_none (report_reads c₂ _ _ _ _) rfl

theorem statement_eats (c : Cursor) : Eats c ((statement (fuel + 1)).run c) := by
  rw [statement, run_cursor_bind]
  split
  · refine eats_bind (target_eats c) fun place c₁ _ => ?_
    refine reads_bind (expect_reads c₁ _ _) fun _ c₂ _ => ?_
    refine reads_bind (skipNewlines_reads c₂) fun _ c₃ _ => ?_
    exact reads_bind (h.expression _ c₃).toReads fun value c₄ _ => Reads.refl c₄
  · refine eats_bind (target_eats c) fun ok c₁ _ => ?_
    refine reads_bind (expect_reads c₁ _ _) fun _ c₂ _ => ?_
    refine reads_bind (target_eats c₂).toReads fun err c₃ _ => ?_
    refine reads_bind (expect_reads c₃ _ _) fun _ c₄ _ => ?_
    refine reads_bind (skipNewlines_reads c₄) fun _ c₅ _ => ?_
    exact reads_bind (h.expression _ c₅).toReads fun value c₆ _ => Reads.refl c₆
  · exact h.expression _ c

theorem statements_reads (inBlock : Bool) (c : Cursor) :
    Reads c ((statements (fuel + 1) inBlock).run c).2 := by
  rw [run, statements]
  dsimp only
  refine c.skipSeparators_reads.trans ?_
  generalize c.skipSeparators = c₁
  split
  · exact Reads.refl c₁
  · split
    · exact ((c₁.record_reads _).trans (Cursor.advance_reads _)).trans (h.statements inBlock _)
    · have hstatement := (h.statement c₁).toReads
      rw [run] at hstatement
      split
      · rename_i c₂ heq
        rw [heq] at hstatement
        split
        · exact hstatement
        · exact (hstatement.trans (c₂.synchronize_reads inBlock)).trans (h.statements inBlock _)
      · rename_i e c₂ heq
        rw [heq] at hstatement
        have hend : Reads c₂
            (if c₂.kind.isTerminator || (inBlock && decide (c₂.kind = .rBrace)) then c₂
            else (complain "end of statement" c₂).synchronize inBlock) := by
          split
          · exact Reads.refl c₂
          · exact (complain_reads c₂ _).trans (Cursor.synchronize_reads _ inBlock)
        have hrest := (hstatement.trans hend).trans (h.statements inBlock _)
        rw [run] at hrest
        split
        · rename_i rest c₃ heq'
          rwa [heq'] at hrest
        · rename_i c₃ heq'
          rwa [heq'] at hrest

end Reads

/-- Readers only move on, and all that read an expression take a token for it. -/
theorem readersRead (fuel : Nat) : ReadersRead fuel := by
  induction fuel with
  | zero =>
    have habandon : ∀ {α : Type} (c : Cursor), Eats c ((abandon : Parse α).run c) :=
      fun c => .of_none (Reads.refl c) rfl
    exact
      { expression := fun _ c => habandon c
        operators := fun _ _ c => Reads.refl c
        prefixed := fun c => habandon c
        primary := fun c => habandon c
        list := fun _ _ c => (habandon c).toReads
        entries := fun c => (habandon c).toReads
        braces := fun c => habandon c
        branching := fun c => habandon c
        called := fun _ c => habandon c
        statement := fun c => habandon c
        statements := fun _ c => Reads.refl c }
  | succ fuel ih =>
    exact
      { expression := expression_eats ih
        operators := operators_reads ih
        prefixed := prefixed_eats ih
        primary := primary_eats ih
        list := list_reads ih
        entries := entries_reads ih
        braces := braces_eats ih
        branching := branching_eats ih
        called := called_eats ih
        statement := statement_eats ih
        statements := statements_reads ih }

/-! ### Readers that give up -/

theorem signed_reports (negative : Bool) (i : Int64) (c : Cursor) : Reports ((signed negative i).run c) := by
  rw [run_signed]
  split
  · exact fun _ => Cursor.notes_ne_nil c.overflowed_note
  · exact pure_reports _ c

theorem indexSuffix_reports {c : Cursor} (hc : c.Valid) : Reports (indexSuffix.run c) := by
  rw [indexSuffix_eq]
  refine reports_next hc (expect_reads c _ _) (expect_reports hc _ _) fun _ c₁ hc₁ _ => ?_
  refine reports_next hc₁ (accept_reads c₁ _) (accept_reports c₁ _) fun negative c₂ hc₂ _ => ?_
  rw [run_cursor_bind]
  split
  · refine reports_next hc₂ (token_reads c₂) (token_reports c₂) fun _ c₃ hc₃ _ => ?_
    exact reports_bind (expect_reports hc₃ _ _) fun _ c₄ _ => signed_reports negative _ c₄
  · exact unexpected_reports hc₂ _

theorem suffix?_reports {e : Expr} {c : Cursor} (hc : c.Valid) {read : Parse Path}
    (h : suffix? e c = some read) : Reports (read.run c) := by
  unfold suffix? at h
  split at h
  · split at h
    · cases h
    · obtain rfl := Option.some.inj h
      exact reports_bind (token_reports c) fun _ c₁ _ => pure_reports _ c₁
    · obtain rfl := Option.some.inj h
      exact reports_bind (indexSuffix_reports hc) fun _ c₁ _ => pure_reports _ c₁
    · cases h
  · cases h

theorem suffixes_reports (fuel : Nat) (e : Expr) {c : Cursor} (hc : c.Valid) :
    Reports ((suffixes fuel e).run c) := by
  induction fuel generalizing e c with
  | zero => exact pure_reports _ c
  | succ fuel ih =>
    unfold suffixes
    rw [run_cursor_bind]
    split
    · exact pure_reports _ c
    · rename_i read hread
      refine reports_eaten hc (suffix?_eats hread) (suffix?_reports hc hread) fun _ c₁ hc₁ _ => ?_
      rw [run_cursor_bind]
      exact ih _ hc₁

theorem target_reports {c : Cursor} (hc : c.Valid) : Reports (target.run c) := by
  unfold target
  rw [run_cursor_bind]
  split
  · exact reports_bind (token_reports c) fun _ c₁ _ => pure_reports _ c₁
  · exact unexpected_reports hc _

/-- Statements are read to their end, whatever becomes of each, unless there is an overflow. -/
theorem overflowed_of_statements {fuel : Nat} {inBlock : Bool} {c c' : Cursor}
    (h : (statements fuel inBlock).run c = (none, c')) : c'.overflowed = true := by
  induction fuel generalizing c with
  | zero => cases h
  | succ fuel ih =>
    rw [run, statements] at h
    dsimp only at h
    split at h
    · cases h
    · split at h
      · exact ih h
      · split at h
        · split at h
          · obtain rfl := (Prod.mk.inj h).2
            assumption
          · exact ih h
        · split at h
          · cases h
          · rename_i heq
            obtain rfl := (Prod.mk.inj h).2
            exact ih heq

/-- What it is to read a text: to find statements up to its end. -/
theorem parse_eq_ok {ts : List Token} {es : List Expr} {ds : List Diagnostic} :
    parse ts = .ok (es, ds) ↔
      ∃ c', (statements (fuelFor (Cursor.start ts).tokens.length) false).run (Cursor.start ts) = (some es, c') ∧
        c'.overflowed = false ∧ c'.diagnostics = ds := by
  rw [parse, run]
  rcases hrun : statements (fuelFor (Cursor.start ts).tokens.length) false (Cursor.start ts) with ⟨_ | es', c'⟩
  · simp [overflowed_of_statements hrun]
  · cases hover : c'.overflowed <;> simp [hover]

/-- What is seen of the statements that are read is seen of some statements. -/
theorem exists_of_map_parse {β : Type} {ts : List Token} {f : List Expr → β} {b : β} {ds : List Diagnostic}
    (h : (parse ts).map (fun r => (f r.1, r.2)) = .ok (b, ds)) : ∃ es, parse ts = .ok (es, ds) ∧ f es = b := by
  obtain ⟨⟨es, ds'⟩, hparse, hseen⟩ : ∃ r, parse ts = .ok r ∧ (f r.1, r.2) = (b, ds) := by
    rcases hparse : parse ts with o | r
    · rw [hparse] at h
      cases h
    · rw [hparse] at h
      exact ⟨r, rfl, Except.ok.inj h⟩
  obtain ⟨rfl, rfl⟩ := Prod.mk.inj hseen
  exact ⟨es, hparse, rfl⟩

theorem parse_eq_error_of_map {ts : List Token} {o : Overflow} (h : (parse ts).map (fun _ => ()) = .error o) :
    parse ts = .error o := by
  cases hparse : parse ts with
  | error o' => rfl
  | ok r =>
    rw [hparse] at h
    cases h

/-- A text is not read if there is an overflow at its end. -/
theorem parse_eq_error {ts : List Token} {o : Overflow} :
    parse ts = .error o ↔
      ((statements (fuelFor (Cursor.start ts).tokens.length) false).run (Cursor.start ts)).2.overflowed = true := by
  rw [parse, run]
  dsimp only
  split <;> simp [*]

theorem alternative_reports {fuel : Nat} {c : Cursor}
    (hbranching : c.kind = .kwIf → Reports ((branching fuel).run c))
    (hbraces : Reports ((braces fuel).run c)) : Reports ((alternative fuel).run c) := by
  rw [alternative, run_cursor_bind]
  split
  · rename_i hkind
    exact hbranching hkind
  · exact reports_bind hbraces fun _ c₁ _ => pure_reports _ c₁

theorem follow_reports (close : TokenKind) (expected : String) (item : α) {more : Parse (List α)} {c : Cursor}
    (hc : c.Valid)
    (hmore : ∀ c₁ : Cursor, c₁.Valid → c₁.tokens.length ≤ c.tokens.length → Reports (more.run c₁)) :
    Reports ((follow close expected item more).run c) := by
  unfold follow
  refine reports_next hc (skipNewlines_reads c) (skipNewlines_reports c) fun _ c₁ hc₁ hle₁ => ?_
  refine reports_next hc₁ (accept_reads c₁ _) (accept_reports c₁ _) fun comma c₂ hc₂ hle₂ => ?_
  split
  · exact reports_bind (hmore c₂ hc₂ (by omega)) fun _ c₃ _ => pure_reports _ c₃
  · rw [run_cursor_bind]
    split
    · exact pure_reports _ c₂
    · exact unexpected_reports hc₂ _

/-- A reader has the fuel that it may spend on the tokens left: ten units for each, and some more by the
calls that it may make before it takes one. -/
def Fed (rank fuel : Nat) (c : Cursor) : Prop :=
  10 * c.tokens.length + rank ≤ fuel

theorem Fed.exists_succ {rank fuel : Nat} {c : Cursor} (h : Fed (rank + 1) fuel c) : ∃ k, fuel = k + 1 := by
  simp only [Fed] at h
  exact ⟨fuel - 1, by omega⟩

theorem not_fed_zero {rank : Nat} {c : Cursor} : ¬Fed (rank + 1) 0 c := by
  intro h
  obtain ⟨k, hk⟩ := h.exists_succ
  cases hk

/-- What all readers do that have fuel. -/
structure ReadersReport (fuel : Nat) : Prop where
  expression : ∀ level {c}, c.Valid → Fed 4 fuel c → Reports ((expression fuel level).run c)
  operators : ∀ level e {c}, c.Valid → Fed 1 fuel c → Reports ((operators fuel level e).run c)
  prefixed : ∀ {c}, c.Valid → Fed 3 fuel c → Reports ((prefixed fuel).run c)
  primary : ∀ {c}, c.Valid → Fed 2 fuel c → Reports ((primary fuel).run c)
  list : ∀ close expected {c}, c.Valid → Fed 5 fuel c → Reports ((list fuel close expected).run c)
  entries : ∀ {c}, c.Valid → Fed 1 fuel c → Reports ((entries fuel).run c)
  braces : ∀ {c}, c.Valid → Fed 1 fuel c → Reports ((braces fuel).run c)
  branching : ∀ {c}, c.Valid → c.kind ≠ .eof → Fed 1 fuel c → Reports ((branching fuel).run c)
  called : ∀ name {c}, c.Valid → c.kind ≠ .eof → Fed 1 fuel c → Reports ((called fuel name).run c)
  statement : ∀ {c}, c.Valid → Fed 5 fuel c → Reports ((statement fuel).run c)

section Reports

variable {fuel : Nat} (h : ReadersReport fuel)

include h

theorem expression_reports (level : Nat) {c : Cursor} (hc : c.Valid) (hfuel : Fed 4 (fuel + 1) c) :
    Reports ((expression (fuel + 1) level).run c) := by
  simp only [Fed] at hfuel
  rw [expression]
  refine reports_eaten hc ((readersRead fuel).prefixed c) (h.prefixed hc (by simp only [Fed]; omega))
    fun e c₁ hc₁ hlt₁ => ?_
  exact h.operators level e hc₁ (by simp only [Fed]; omega)

theorem operators_reports (level : Nat) (e : Expr) {c : Cursor} (hc : c.Valid)
    (hfuel : Fed 1 (fuel + 1) c) : Reports ((operators (fuel + 1) level e).run c) := by
  simp only [Fed] at hfuel
  rw [operators, run_cursor_bind]
  split
  · exact pure_reports _ c
  · rename_i op hop
    have hkind : c.kind ≠ .eof := by
      intro hkind
      simp [hkind, BinaryOp.ofToken?] at hop
    split
    · exact pure_reports _ c
    · refine reports_eaten hc (token_eats c hkind) (token_reports c) fun _ c₁ hc₁ hlt₁ => ?_
      refine reports_next hc₁ (skipNewlines_reads c₁) (skipNewlines_reports c₁) fun _ c₂ hc₂ hle₂ => ?_
      refine reports_eaten hc₂ ((readersRead fuel).expression op.level c₂)
        (h.expression _ hc₂ (by simp only [Fed]; omega)) fun right c₃ hc₃ hlt₃ => ?_
      exact h.operators _ _ hc₃ (by simp only [Fed]; omega)

theorem prefixed_reports {c : Cursor} (hc : c.Valid) (hfuel : Fed 3 (fuel + 1) c) :
    Reports ((prefixed (fuel + 1)).run c) := by
  simp only [Fed] at hfuel
  rw [prefixed, run_cursor_bind]
  split
  · rename_i op hop
    have hkind : c.kind ≠ .eof := by
      intro hkind
      simp [hkind, UnaryOp.ofToken?] at hop
    refine reports_eaten hc (token_eats c hkind) (token_reports c) fun start c₁ hc₁ hlt₁ => ?_
    exact reports_bind (h.expression _ hc₁ (by simp only [Fed]; omega)) fun _ c₂ _ => pure_reports _ c₂
  · refine reports_eaten hc ((readersRead fuel).primary c) (h.primary hc (by simp only [Fed]; omega))
      fun e c₁ hc₁ hlt₁ => ?_
    split
    · exact pure_reports _ c₁
    · exact suffixes_reports fuel e hc₁

theorem primary_reports {c : Cursor} (hc : c.Valid) (hfuel : Fed 2 (fuel + 1) c) :
    Reports ((primary (fuel + 1)).run c) := by
  simp only [Fed] at hfuel
  rw [primary, run_cursor_bind]
  split
  · exact reports_bind (token_reports c) fun _ c₁ _ => pure_reports _ c₁
  · split
    · exact reports_bind (token_reports c) fun _ c₁ _ => pure_reports _ c₁
    · -- an array
      rename_i hkind
      refine reports_eaten hc (token_eats c (by simp [hkind])) (token_reports c) fun start c₁ hc₁ hlt₁ => ?_
      refine reports_bind (h.list _ _ hc₁ (by simp only [Fed]; omega)) fun items c₂ _ => ?_
      exact reports_bind (token_reports c₂) fun _ c₃ _ => pure_reports _ c₃
    · -- an object or a block
      rename_i hkind
      split
      · refine reports_eaten hc (token_eats c (by simp [hkind])) (token_reports c)
          fun start c₁ hc₁ hlt₁ => ?_
        refine reports_bind (h.entries hc₁ (by simp only [Fed]; omega)) fun fields c₂ _ => ?_
        exact reports_bind (token_reports c₂) fun _ c₃ _ => pure_reports _ c₃
      · exact reports_bind (h.braces hc (by simp only [Fed]; omega)) fun _ c₁ _ => pure_reports _ c₁
    · -- an expression in parentheses
      rename_i hkind
      refine reports_eaten hc (token_eats c (by simp [hkind])) (token_reports c) fun start c₁ hc₁ hlt₁ => ?_
      refine reports_next hc₁ (skipNewlines_reads c₁) (skipNewlines_reports c₁) fun _ c₂ hc₂ hle₂ => ?_
      refine reports_eaten hc₂ ((readersRead fuel).expression 0 c₂)
        (h.expression _ hc₂ (by simp only [Fed]; omega)) fun e c₃ hc₃ _ => ?_
      refine reports_next hc₃ (skipNewlines_reads c₃) (skipNewlines_reports c₃) fun _ c₄ hc₄ _ => ?_
      exact reports_bind (expect_reports hc₄ _ _) fun _ c₅ _ => pure_reports _ c₅
    · rename_i hkind
      exact h.branching hc (by simp [hkind]) (by simp only [Fed]; omega)
    · rename_i hkind
      exact h.called _ hc (by simp [hkind]) (by simp only [Fed]; omega)
    · exact unexpected_reports hc _

theorem list_reports (close : TokenKind) (expected : String) {c : Cursor} (hc : c.Valid)
    (hfuel : Fed 5 (fuel + 1) c) : Reports ((list (fuel + 1) close expected).run c) := by
  simp only [Fed] at hfuel
  rw [list_succ]
  refine reports_next hc (skipNewlines_reads c) (skipNewlines_reports c) fun _ c₁ hc₁ hle₁ => ?_
  rw [run_cursor_bind]
  split
  · exact pure_reports _ c₁
  · refine reports_eaten hc₁ ((readersRead fuel).expression 0 c₁)
      (h.expression _ hc₁ (by simp only [Fed]; omega)) fun e c₂ hc₂ hlt₂ => ?_
    exact follow_reports _ _ e hc₂ fun c₃ hc₃ hle₃ => h.list _ _ hc₃ (by simp only [Fed]; omega)

theorem entries_reports {c : Cursor} (hc : c.Valid) (hfuel : Fed 1 (fuel + 1) c) :
    Reports ((entries (fuel + 1)).run c) := by
  simp only [Fed] at hfuel
  rw [entries_succ]
  refine reports_next hc (skipNewlines_reads c) (skipNewlines_reports c) fun _ c₁ hc₁ hle₁ => ?_
  rw [run_cursor_bind]
  split
  · exact pure_reports _ c₁
  · rename_i key hkind
    rw [entry]
    refine reports_eaten hc₁ (token_eats c₁ (by simp [hkind])) (token_reports c₁) fun _ c₂ hc₂ hlt₂ => ?_
    refine reports_next hc₂ (expect_reads c₂ _ _) (expect_reports hc₂ _ _) fun _ c₃ hc₃ hle₃ => ?_
    refine reports_next hc₃ (skipNewlines_reads c₃) (skipNewlines_reports c₃) fun _ c₄ hc₄ hle₄ => ?_
    refine reports_eaten hc₄ ((readersRead fuel).expression 0 c₄)
      (h.expression _ hc₄ (by simp only [Fed]; omega)) fun e c₅ hc₅ hlt₅ => ?_
    exact follow_reports _ _ (key, e) hc₅ fun c₆ hc₆ hle₆ => h.entries hc₆ (by simp only [Fed]; omega)
  · exact unexpected_reports hc₁ _

omit h in
theorem braces_reports {c : Cursor} (hc : c.Valid) : Reports ((braces (fuel + 1)).run c) := by
  rw [braces]
  refine reports_bind (expect_reports hc _ _) fun start c₁ _ => ?_
  have hbody : Reports ((statements fuel true).run c₁) := by
    intro hnone
    exact Cursor.notes_ne_nil (overflowed_of_statements (Prod.ext hnone rfl))
  refine reports_bind hbody fun body c₂ _ => ?_
  rw [run_cursor_bind]
  split
  · exact reports_bind (token_reports c₂) fun _ c₃ _ => pure_reports _ c₃
  · exact report_reports _ _ _ _

theorem branching_reports {c : Cursor} (hc : c.Valid) (hkind : c.kind ≠ .eof)
    (hfuel : Fed 1 (fuel + 1) c) : Reports ((branching (fuel + 1)).run c) := by
  simp only [Fed] at hfuel
  rw [branching_succ]
  refine reports_eaten hc (token_eats c hkind) (token_reports c) fun start c₁ hc₁ hlt₁ => ?_
  refine reports_eaten hc₁ ((readersRead fuel).expression 0 c₁)
    (h.expression _ hc₁ (by simp only [Fed]; omega)) fun condition c₂ hc₂ hlt₂ => ?_
  refine reports_eaten hc₂ ((readersRead fuel).braces c₂) (h.braces hc₂ (by simp only [Fed]; omega))
    fun body c₃ hc₃ hlt₃ => ?_
  dsimp only
  rw [run_onElse]
  split
  · have hr₄ := c₃.skipNewlines_reads.trans c₃.skipNewlines.advance_reads
    have hc₄ := hc₃.of_reads hr₄
    have hle₄ := hr₄.length_le
    have halternative : Reports ((alternative fuel).run c₃.skipNewlines.advance) :=
      alternative_reports (fun hif => h.branching hc₄ (by simp [hif]) (by simp only [Fed]; omega))
        (h.braces hc₄ (by simp only [Fed]; omega))
    exact reports_bind halternative fun _ c₅ _ => pure_reports _ c₅
  · exact pure_reports _ c₃

theorem called_reports (name : String) {c : Cursor} (hc : c.Valid) (hkind : c.kind ≠ .eof)
    (hfuel : Fed 1 (fuel + 1) c) : Reports ((called (fuel + 1) name).run c) := by
  simp only [Fed] at hfuel
  rw [called]
  refine reports_eaten hc (token_eats c hkind) (token_reports c) fun start c₁ hc₁ hlt₁ => ?_
  refine reports_next hc₁ (accept_reads c₁ _) (accept_reports c₁ _) fun aborts c₂ hc₂ hle₂ => ?_
  rw [run_cursor_bind]
  split
  · refine reports_next hc₂ (token_reads c₂) (token_reports c₂) fun _ c₃ hc₃ hle₃ => ?_
    refine reports_bind (h.list _ _ hc₃ (by simp only [Fed]; omega)) fun arguments c₄ _ => ?_
    refine reports_bind (token_reports c₄) fun stop c₅ _ => ?_
    split
    · split
      · exact pure_reports _ c₅
      · exact report_reports _ _ _ _
      · exact report_reports _ _ _ _
    · exact pure_reports _ c₅
  · exact report_reports _ _ _ _

theorem statement_reports {c : Cursor} (hc : c.Valid) (hfuel : Fed 5 (fuel + 1) c) :
    Reports ((statement (fuel + 1)).run c) := by
  simp only [Fed] at hfuel
  rw [statement, run_cursor_bind]
  split
  · refine reports_eaten hc (target_eats c) (target_reports hc) fun place c₁ hc₁ hlt₁ => ?_
    refine reports_next hc₁ (expect_reads c₁ _ _) (expect_reports hc₁ _ _) fun _ c₂ hc₂ hle₂ => ?_
    refine reports_next hc₂ (skipNewlines_reads c₂) (skipNewlines_reports c₂) fun _ c₃ hc₃ hle₃ => ?_
    exact reports_bind (h.expression 0 hc₃ (by simp only [Fed]; omega)) fun _ c₄ _ => pure_reports _ c₄
  · refine reports_eaten hc (target_eats c) (target_reports hc) fun ok c₁ hc₁ hlt₁ => ?_
    refine reports_next hc₁ (expect_reads c₁ _ _) (expect_reports hc₁ _ _) fun _ c₂ hc₂ hle₂ => ?_
    refine reports_eaten hc₂ (target_eats c₂) (target_reports hc₂) fun err c₃ hc₃ hlt₃ => ?_
    refine reports_next hc₃ (expect_reads c₃ _ _) (expect_reports hc₃ _ _) fun _ c₄ hc₄ hle₄ => ?_
    refine reports_next hc₄ (skipNewlines_reads c₄) (skipNewlines_reports c₄) fun _ c₅ hc₅ hle₅ => ?_
    exact reports_bind (h.expression 0 hc₅ (by simp only [Fed]; omega)) fun _ c₆ _ => pure_reports _ c₆
  · exact h.expression 0 hc (by simp only [Fed]; omega)

end Reports

/-- A statement is abandoned only with a diagnostic, if the tokens are valid and fuel is there for them. -/
theorem readersReport (fuel : Nat) : ReadersReport fuel := by
  induction fuel with
  | zero =>
    exact
      { expression := fun _ _ _ hfuel => absurd hfuel not_fed_zero
        operators := fun _ _ _ _ hfuel => absurd hfuel not_fed_zero
        prefixed := fun _ hfuel => absurd hfuel not_fed_zero
        primary := fun _ hfuel => absurd hfuel not_fed_zero
        list := fun _ _ _ _ hfuel => absurd hfuel not_fed_zero
        entries := fun _ hfuel => absurd hfuel not_fed_zero
        braces := fun _ hfuel => absurd hfuel not_fed_zero
        branching := fun _ _ hfuel => absurd hfuel not_fed_zero
        called := fun _ _ _ _ hfuel => absurd hfuel not_fed_zero
        statement := fun _ hfuel => absurd hfuel not_fed_zero }
  | succ fuel ih =>
    exact
      { expression := expression_reports ih
        operators := operators_reports ih
        prefixed := prefixed_reports ih
        primary := primary_reports ih
        list := list_reports ih
        entries := entries_reports ih
        braces := fun hc _ => braces_reports hc
        branching := branching_reports ih
        called := called_reports ih
        statement := statement_reports ih }

end Expr

end Reshape
