/-
Written tokens in a row.

Tokens and blanks are `Laid` if each token has a text to be read back from, can come after the one before it, and
allows the character behind it.  Then the lexer finds the tokens that were written, each where the one before it
and the blanks between end: the tokens that it gives `Spell` what was written.

* `Lexer.run_laid`, `tokenize_laid` — the lexer on what is laid.
-/
import Reshape.Proofs.Lexing
import Reshape.Proofs.Spelling

namespace Reshape

open Piece

namespace TokenKind

def isName : TokenKind → Bool
  | ident _ => true
  | _ => false

/-- Whether a token, the second, can come after another without being read as something else. -/
def Joins (k : TokenKind) : TokenKind → Prop
  | integer i => i.toInt < 0 → k.endsOperand = false
  | abortMarker => k.isName = true
  | bang => k.isName = false
  | newline => k ≠ newline
  | _ => True

/-- The first character of a token is no blank and starts no comment; it breaks a line only if the token does. -/
def Starts (k : TokenKind) (c : Char) : Prop :=
  Scan.isSpace c = false ∧ c ≠ '#' ∧ (c = '\n' → k = newline)

theorem starts_of_not {k : TokenKind} {c : Char} {p : Char → Bool} (hc : p c = true)
    (hp : [' ', '\t', '\r', '#', '\n'].any p = false) : k.Starts c := by
  have hne : ∀ d ∈ [' ', '\t', '\r', '#', '\n'], c ≠ d := by
    rintro d hd rfl
    exact List.any_eq_false.1 hp c hd hc
  simp only [List.mem_cons, List.not_mem_nil, or_false, forall_eq_or_imp, forall_eq] at hne
  obtain ⟨hblank, htab, hreturn, hcomment, hnewline⟩ := hne
  exact ⟨by simp [Scan.isSpace, hblank, htab, hreturn], hcomment, fun h => absurd h hnewline⟩

theorem exists_write {k : TokenKind} (h : k.Readable) : ∃ c cs, k.write = c :: cs ∧ k.Starts c := by
  cases k with
  | path p =>
    obtain ⟨s, hs⟩ := Scan.exists_write h
    have hwrite : (path p).write = p.write := String.toList_ofList
    exact ⟨'.', s, hwrite.trans hs, starts_of_not (p := (· == '.')) rfl (by decide)⟩
  | ident name =>
    obtain ⟨c, cs, hname, hc⟩ := h.starts
    exact ⟨c, cs, hname, starts_of_not hc (by decide)⟩
  | string s =>
    have hwrite : (string s).write = Text.Quoted.quote s.toList := String.toList_ofList
    exact ⟨'"', _, hwrite, starts_of_not (p := (· == '"')) rfl (by decide)⟩
  | integer i =>
    have hwrite : (integer i).write = Scan.sign i.toInt ++ Scan.digits i.toInt :=
      String.toList_ofList.trans (Scan.intText_eq _)
    obtain ⟨c, cs, hdigits, hc⟩ := Scan.exists_digits i.toInt
    rw [hdigits, Scan.sign] at hwrite
    split at hwrite
    · exact ⟨'-', _, hwrite, starts_of_not (p := (· == '-')) rfl (by decide)⟩
    · exact ⟨c, cs, hwrite, starts_of_not hc (by decide)⟩
  | float f | timestamp t | invalid | eof => cases h
  | newline => exact ⟨'\n', [], rfl, rfl, by decide, fun _ => rfl⟩
  | _ => exact ⟨_, _, rfl, rfl, by decide, by decide⟩

end TokenKind

/-- Tokens and blanks that can be read back one by one, after a token. -/
def Laid : TokenKind → List Piece → Prop
  | _, [] => True
  | k, .blank :: ps => k.isName = false ∧ Laid k ps
  | k, .token k' :: ps =>
    k'.Readable ∧ k.Joins k' ∧ k'.allows (Scan.next (writeAll ps)) = true ∧ Laid k' ps

/-- Tokens that are those of a text from an offset on, each where the text has it, and the end behind them. -/
def Spells : Nat → List Piece → List Token → Prop
  | _, [], ts => ∃ t, ts = [t] ∧ t.kind = .eof
  | m, .blank :: ps, ts => Spells (m + 1) ps ts
  | m, .token k :: ps, ts =>
    ∃ t rest, ts = t :: rest ∧ t.kind = k ∧ t.span.start = m ∧ m ≤ t.span.stop ∧ Spells t.span.stop ps rest

namespace Lexer

open Scan

theorem skipTrivia_blank (s : List Char) : skipTrivia (' ' :: s) = skipTrivia s := by
  rw [skipTrivia]
  exact if_pos rfl

theorem skipTrivia_of_start {c : Char} (hspace : isSpace c = false) (hcomment : c ≠ '#') (s : List Char) :
    skipTrivia (c :: s) = c :: s := by
  rw [skipTrivia, if_neg (by simp [hspace]), if_neg hcomment]

/-- The lexer only sees the text behind blanks and its place. -/
theorem run_of_trimmed (last : Option Token) {m m' : Mark} {s s' : List Char} (hs : skipTrivia s = skipTrivia s')
    (hm : tokenMark m s = tokenMark m' s') : run last m s = run last m' s' := by
  rcases htrim : skipTrivia s' with _ | ⟨c, rest⟩
  · rw [run_of_nil htrim, run_of_nil (hs.trans htrim), hm]
  · by_cases hc : (decide (c = '\n') && isNewline last) = true
    · obtain ⟨rfl, hlast⟩ : c = '\n' ∧ isNewline last = true := by simpa using hc
      rw [run_of_newline htrim hlast, run_of_newline (hs.trans htrim) hlast, hm]
    · rcases ht : token (beforeAt last (tokenMark m' s')) (c :: rest) with ⟨e | kind, rest'⟩
      · rw [run_of_error htrim hc ht, run_of_error (hs.trans htrim) hc (hm ▸ ht), hm]
      · rw [run_of_ok htrim hc ht, run_of_ok (hs.trans htrim) hc (hm ▸ ht), hm]

/-- A blank moves the place on. -/
theorem run_blank (last : Option Token) (m : Mark) (s : List Char) :
    run last m (' ' :: s) = run last (m.next ' ') s := by
  refine run_of_trimmed last (skipTrivia_blank s) ?_
  have hle := length_skipTrivia_le s
  rw [tokenMark, tokenMark, skipTrivia_blank, ← Mark.past_cons, between, between, List.length_cons,
    Nat.succ_sub hle, List.take_succ_cons]

/-- The token before a place; at the start of a program it is as if a line had ended. -/
def lastKind (last : Option Token) : TokenKind :=
  (last.map (·.kind)).getD .newline

theorem isNewline_of_joins {last : Option Token} (h : (lastKind last).Joins .newline) : isNewline last = false := by
  cases last with
  | none => rfl
  | some t => exact beq_eq_false_iff_ne.2 h

theorem isOperand_beforeAt (last : Option Token) (m : Mark) :
    (beforeAt last m).isOperand = (lastKind last).endsOperand := by
  cases last with
  | none => rfl
  | some t => rfl

/-- A name right before a place is the token before it, if names are not followed by blanks. -/
theorem isNameHere_beforeAt {last : Option Token} {m : Mark}
    (hlast : ∀ t ∈ last, t.kind.isName = true → t.span.stop = m.offset) :
    (beforeAt last m).isNameHere = (lastKind last).isName := by
  cases last with
  | none => rfl
  | some t =>
    have hname : (beforeAt (some t) m).isNameHere = (t.kind.isName && t.span.stop == m.offset) := rfl
    rw [hname]
    cases ht : t.kind.isName with
    | false => exact ht.symm
    | true =>
      rw [hlast t rfl ht, beq_self_eq_true]
      exact ht.symm

theorem admits_of_joins {last : Option Token} {m : Mark} {k : TokenKind} (h : (lastKind last).Joins k)
    (hlast : ∀ t ∈ last, t.kind.isName = true → t.span.stop = m.offset) : (beforeAt last m).Admits k := by
  cases k with
  | integer i => exact fun hi => (isOperand_beforeAt last m).trans (h hi)
  | abortMarker | bang => exact (isNameHere_beforeAt hlast).trans h
  | _ => trivial

/-- The lexer at a token that is laid. -/
theorem run_write {last : Option Token} {m : Mark} {k : TokenKind} {t : List Char} (hk : k.Readable)
    (hjoins : (lastKind last).Joins k) (hallows : k.allows (Scan.next t) = true)
    (hlast : ∀ t ∈ last, t.kind.isName = true → t.span.stop = m.offset) :
    ∃ token, run last m (k.write ++ t) = ⟨token, none⟩ :: run (some token) (m.past k.write) t ∧
      token.kind = k ∧ token.span = m.spanTo (m.past k.write) := by
  obtain ⟨c, cs, hwrite, hspace, hcomment, hnewline⟩ := TokenKind.exists_write hk
  have htext : k.write ++ t = c :: (cs ++ t) := by rw [hwrite, List.cons_append]
  have htrim : skipTrivia (c :: (cs ++ t)) = c :: (cs ++ t) := skipTrivia_of_start hspace hcomment _
  have hmark : tokenMark m (c :: (cs ++ t)) = m := by
    rw [tokenMark, htrim, between_self, Mark.past_nil]
  -- a line break behind a line break would be skipped
  have hc : ¬(decide (c = '\n') && isNewline last) = true := by
    rw [Bool.and_eq_true, decide_eq_true_eq]
    rintro ⟨rfl, hline⟩
    rw [hnewline rfl] at hjoins
    rw [isNewline_of_joins hjoins] at hline
    cases hline
  have hscan := token_write hk (admits_of_joins hjoins hlast) hallows
  have hbetween := between_left k.write t
  rw [htext] at hscan hbetween ⊢
  rw [run_of_ok htrim hc (hmark.symm ▸ hscan), hmark, hbetween]
  refine ⟨_, rfl, rfl, ?_⟩
  rw [tokenOf, hbetween]

/-- The lexer finds the tokens that are laid. -/
theorem run_laid {ps : List Piece} {last : Option Token} {m : Mark} (h : Laid (lastKind last) ps)
    (hlast : ∀ t ∈ last, t.kind.isName = true → t.span.stop = m.offset) :
    ∃ ts, run last m (writeAll ps) = ts.map (⟨·, none⟩) ∧ Spells m.offset ps ts := by
  induction ps generalizing last m with
  | nil => exact ⟨[tokenOf .eof _ [] []], run_of_nil skipTrivia_nil, _, rfl, rfl⟩
  | cons p ps ih =>
    cases p with
    | blank =>
      obtain ⟨hname, hps⟩ := h
      -- no name stands before a blank, so nothing hangs on where the token before it ends
      have hlast' : ∀ t ∈ last, t.kind.isName = true → t.span.stop = (m.next ' ').offset := by
        rintro t ht htrue
        obtain rfl := Option.mem_def.1 ht
        have hfalse : t.kind.isName = false := hname
        rw [hfalse] at htrue
        cases htrue
      obtain ⟨ts, hrun, hspells⟩ := ih hps hlast'
      exact ⟨ts, (run_blank last m _).trans hrun, hspells⟩
    | token k =>
      obtain ⟨hk, hjoins, hallows, hps⟩ := h
      obtain ⟨token, hrun, hkind, hspan⟩ := run_write (t := writeAll ps) hk hjoins hallows hlast
      have hstop : token.span.stop = (m.past k.write).offset := by rw [hspan]; rfl
      have hlaid : Laid (lastKind (some token)) ps := by
        rw [show lastKind (some token) = k from hkind]
        exact hps
      obtain ⟨ts, hrest, hspells⟩ := ih (m := m.past k.write) hlaid fun t ht _ => by
        obtain rfl := Option.some.inj (Option.mem_def.1 ht)
        exact hstop
      refine ⟨token :: ts, ?_, token, ts, rfl, hkind, ?_, ?_, hstop ▸ hspells⟩
      · exact hrun.trans (congrArg _ hrest)
      · rw [hspan]
        rfl
      · rw [hstop, Mark.offset_past]
        exact Nat.le_add_right _ _

end Lexer

/-- The tokens of a text that is laid, without a diagnostic. -/
theorem tokenize_laid {ps : List Piece} (h : Laid .newline ps) :
    ∃ ts, tokenize (String.ofList (writeAll ps)) = (ts, []) ∧ Spells 0 ps ts := by
  obtain ⟨ts, hrun, hspells⟩ := @Lexer.run_laid ps none Mark.origin h (by simp)
  refine ⟨ts, ?_, hspells⟩
  rw [← String.toList_ofList (l := writeAll ps)] at hrun
  rw [tokenize_of_run hrun]
  simp [Function.comp_def]

end Reshape
