/-
Tokens of a longer text.

Behind a line break the lexer starts anew: it knows no more of the text before than that a line break was the
last token.  So the tokens of a text, a line break and another text are those of the one and then those of
the other, further down; of the line breaks between them only one is left.

* `Lexer.run_append_of_recovers` — the tokens of the text before the line break, where the lexer recovers before it;
* `Lexer.run_append` — the same for a text in which it has nothing to recover from;
* `Lexer.run_shift` — the tokens of a text that starts elsewhere;
* `Lexer.run_none` — the tokens of a text that follows a line break;
* `tokenize_append` — the tokens of two texts.
-/
import Reshape.Proofs.Scanning
import Reshape.Proofs.Shift

namespace Reshape

namespace Lexer

open Scan

/-! ### One token at a time -/

/-- The place of the next token. -/
def tokenMark (m : Mark) (s : List Char) : Mark :=
  m.past (between s (skipTrivia s))

section Step

variable {last : Option Token} {m : Mark} {s rest rest' : List Char} {c : Char}

theorem run_of_nil (h : skipTrivia s = []) :
    run last m s = [⟨tokenOf .eof (tokenMark m s) [] [], none⟩] := by
  rw [run]
  split
  · rfl
  · rename_i heq
    simp [h] at heq

theorem run_of_newline (h : skipTrivia s = '\n' :: rest) (hlast : isNewline last = true) :
    run last m s = run last ((tokenMark m s).next '\n') rest := by
  rw [run]
  split
  · rename_i heq
    simp [h] at heq
  · rename_i c rest₁ heq
    obtain ⟨rfl, rfl⟩ := List.cons.inj (h.symm.trans heq)
    rw [if_pos (by simp [hlast])]
    rfl

theorem run_of_ok {kind : TokenKind} (h : skipTrivia s = c :: rest)
    (hc : ¬(decide (c = '\n') && isNewline last) = true)
    (ht : token (beforeAt last (tokenMark m s)) (c :: rest) = (.ok kind, rest')) :
    run last m s = ⟨tokenOf kind (tokenMark m s) (c :: rest) rest', none⟩ ::
      run (some (tokenOf kind (tokenMark m s) (c :: rest) rest'))
        ((tokenMark m s).past (between (c :: rest) rest')) rest' := by
  rw [run]
  split
  · rename_i heq
    simp [h] at heq
  · rename_i c₁ rest₁ heq
    obtain ⟨rfl, rfl⟩ := List.cons.inj (h.symm.trans heq)
    rw [if_neg hc]
    split
    · rename_i kind₁ rest₁ ht₁
      obtain ⟨hkind, rfl⟩ := Prod.mk.inj (ht.symm.trans ht₁)
      obtain rfl := Except.ok.inj hkind
      rfl
    · rename_i ht₁
      exact absurd (ht.symm.trans ht₁) (by simp)

theorem run_of_error {e : Issue} (h : skipTrivia s = c :: rest)
    (hc : ¬(decide (c = '\n') && isNewline last) = true)
    (ht : token (beforeAt last (tokenMark m s)) (c :: rest) = (.error e, rest')) :
    run last m s =
      ⟨tokenOf .invalid (tokenMark m s) (c :: rest) (recover 0 rest'),
        some (diagnosticOf (tokenMark m s) (c :: rest) e)⟩ ::
      run (some (tokenOf .invalid (tokenMark m s) (c :: rest) (recover 0 rest')))
        ((tokenMark m s).past (between (c :: rest) (recover 0 rest'))) (recover 0 rest') := by
  rw [run]
  split
  · rename_i heq
    simp [h] at heq
  · rename_i c₁ rest₁ heq
    obtain ⟨rfl, rfl⟩ := List.cons.inj (h.symm.trans heq)
    rw [if_neg hc]
    split
    · rename_i ht₁
      exact absurd (ht.symm.trans ht₁) (by simp)
    · rename_i e₁ rest₁ ht₁
      obtain ⟨he, rfl⟩ := Prod.mk.inj (ht.symm.trans ht₁)
      obtain rfl := Except.error.inj he
      rfl

end Step

/-! ### Text in front of a line break -/

theorem between_append (s rest more : List Char) : between (s ++ more) (rest ++ more) = between s rest := by
  unfold between
  rw [List.length_append, List.length_append, Nat.add_sub_add_right,
    List.take_append_of_le_length (Nat.sub_le _ _)]

theorem between_left (s rest : List Char) : between (s ++ rest) rest = s := by
  rw [between, List.length_append, Nat.add_sub_cancel, List.take_left]

theorem between_self (s : List Char) : between s s = [] := by
  simp [between]

theorem past_between {s rest : List Char} (h : rest <:+ s) (m : Mark) :
    (m.past (between s rest)).past rest = m.past s := by
  obtain ⟨front, rfl⟩ := h
  rw [between, ← Mark.past_append]
  simp

theorem past_tokenMark (m : Mark) (s : List Char) : (tokenMark m s).past (skipTrivia s) = m.past s :=
  past_between (skipTrivia_suffix s) m

/-- A token passed, and then what is left behind it. -/
theorem past_of_token {s rest left : List Char} {c : Char} (h : skipTrivia s = c :: rest) (hleft : left <:+ c :: rest)
    (m : Mark) : ((tokenMark m s).past (between (c :: rest) left)).past left = m.past s := by
  rw [past_between hleft, ← h, past_tokenMark]

theorem past_of_newline {s rest : List Char} (h : skipTrivia s = '\n' :: rest) (m : Mark) :
    ((tokenMark m s).next '\n').past rest = m.past s := by
  rw [← Mark.past_cons, ← h, past_tokenMark]

theorem tokenMark_append (m : Mark) (s t : List Char) : tokenMark m (s ++ '\n' :: t) = tokenMark m s := by
  rw [tokenMark, skipTrivia_append, between_append, tokenMark]

/-- The end of a program is not where a line break is. -/
theorem run_newline_of_past (last : Option Token) (m : Mark) (t : List Char) {s : List Char}
    (h : skipTrivia s = []) : run last m (s ++ '\n' :: t) = run last (m.past s) ('\n' :: t) := by
  have hpast := past_tokenMark m s
  rw [h, Mark.past_nil] at hpast
  have htrim : skipTrivia (s ++ '\n' :: t) = '\n' :: t := by rw [skipTrivia_append, h, List.nil_append]
  have hmark : tokenMark m (s ++ '\n' :: t) = tokenMark (m.past s) ('\n' :: t) := by
    rw [tokenMark_append, hpast, tokenMark, skipTrivia_newline, between_self, Mark.past_nil]
  by_cases hlast : isNewline last = true
  · rw [run_of_newline htrim hlast, run_of_newline (skipTrivia_newline t) hlast, hmark]
  · have hc : ¬(decide ('\n' = '\n') && isNewline last) = true := by simpa using hlast
    have hnewline : ∀ before, token before ('\n' :: t) = (.ok .newline, t) := fun _ => rfl
    rw [run_of_ok htrim hc (hnewline _), run_of_ok (skipTrivia_newline t) hc (hnewline _), hmark]

/-- From the text `s` at `m`, after the token `last`, the lexer comes to a token that it gives up, and `left` is
the text behind it. -/
inductive GivesUp : Option Token → Mark → List Char → List Char → Prop
  | here {last m s c rest e left} : skipTrivia s = c :: rest →
      ¬(decide (c = '\n') && isNewline last) = true →
      token (beforeAt last (tokenMark m s)) (c :: rest) = (.error e, left) → GivesUp last m s left
  | newline {last m s rest left} : skipTrivia s = '\n' :: rest → isNewline last = true →
      GivesUp last ((tokenMark m s).next '\n') rest left → GivesUp last m s left
  | ok {last m s c rest kind rest' left} : skipTrivia s = c :: rest →
      ¬(decide (c = '\n') && isNewline last) = true →
      token (beforeAt last (tokenMark m s)) (c :: rest) = (.ok kind, rest') →
      GivesUp (some (tokenOf kind (tokenMark m s) (c :: rest) rest'))
        ((tokenMark m s).past (between (c :: rest) rest')) rest' left → GivesUp last m s left
  | error {last m s c rest e rest' left} : skipTrivia s = c :: rest →
      ¬(decide (c = '\n') && isNewline last) = true →
      token (beforeAt last (tokenMark m s)) (c :: rest) = (.error e, rest') →
      GivesUp (some (tokenOf .invalid (tokenMark m s) (c :: rest) (recover 0 rest')))
        ((tokenMark m s).past (between (c :: rest) (recover 0 rest'))) (recover 0 rest') left →
      GivesUp last m s left

/-- A lexeme is no string that is never closed. -/
def Terminated (l : Lexeme) : Prop :=
  ∀ d, l.issue = some d → d.code ≠ .unterminatedString

theorem diagnosticOf_append (m : Mark) (s t : List Char) (e : Issue) :
    diagnosticOf m (s ++ t) (e.extend t) = diagnosticOf m s e := by
  have htake : ∀ left, (s ++ t).take ((s ++ t).length - (left + t.length)) = s.take (s.length - left) := by
    intro left
    rw [List.length_append, Nat.add_sub_add_right, List.take_append_of_le_length (Nat.sub_le _ _)]
  simp only [diagnosticOf, Issue.extend, htake]

/-- What holds of the end of a program, of a token that is scanned and of one that is given up holds of each. -/
theorem forall_mem_run (P : Lexeme → Prop) (heof : ∀ m, P ⟨tokenOf .eof m [] [], none⟩)
    (hscanned : ∀ m s kind rest, Scans s kind rest → P ⟨tokenOf kind m s rest, none⟩)
    (hinvalid : ∀ m s rest d, P ⟨tokenOf .invalid m s rest, some d⟩) (last : Option Token) (m : Mark) (s : List Char) :
    ∀ l ∈ run last m s, P l := by
  fun_induction run last m s with
  | case1 => exact List.forall_mem_singleton.2 (heof _)
  | case2 last m s trimmed m' c rest htrim hc ih => exact ih
  | case3 last m s trimmed m' c rest htrim hc kind rest' ht tok ih =>
    exact List.forall_mem_cons.2 ⟨hscanned _ _ _ _ (scans_of_token (List.cons_ne_nil c rest) ht), ih⟩
  | case4 last m s trimmed m' c rest htrim hc e rest' ht rest'' tok ih =>
    exact List.forall_mem_cons.2 ⟨hinvalid _ _ _ _, ih⟩

/-- Lexemes that are a text's, the end apart: an invalid token and a diagnostic come together. -/
theorem run_kind {last : Option Token} {m : Mark} {s : List Char} :
    ∀ l ∈ run last m s, l.token.kind = .invalid ↔ l.issue ≠ none := by
  refine forall_mem_run (fun l => l.token.kind = .invalid ↔ l.issue ≠ none) ?_ ?_ ?_ last m s
  · simp [tokenOf]
  · intro m s kind rest hscans
    simp [tokenOf, hscans.scanned.2.1]
  · simp [tokenOf]

/-- A token that is given up leaves a diagnostic. -/
theorem GivesUp.exists_issue {last : Option Token} {m : Mark} {s left : List Char} (h : GivesUp last m s left) :
    ∃ l ∈ run last m s, l.issue ≠ none := by
  induction h with
  | here htrim hc ht =>
    rw [run_of_error htrim hc ht]
    exact ⟨_, List.mem_cons_self, by simp⟩
  | newline htrim hlast _ ih =>
    rw [run_of_newline htrim hlast]
    exact ih
  | ok htrim hc ht _ ih =>
    obtain ⟨l, hl, hissue⟩ := ih
    rw [run_of_ok htrim hc ht]
    exact ⟨l, List.mem_cons_of_mem _ hl, hissue⟩
  | error htrim hc ht _ ih =>
    obtain ⟨l, hl, hissue⟩ := ih
    rw [run_of_error htrim hc ht]
    exact ⟨l, List.mem_cons_of_mem _ hl, hissue⟩

theorem getLast?_cons_or (l : Lexeme) (front : List Lexeme) (last : Option Token) :
    ((l :: front).getLast?.map (·.token)).or last = (front.getLast?.map (·.token)).or (some l.token) := by
  rw [List.getLast?_cons]
  cases front.getLast? with
  | none => rfl
  | some l' => rfl

section Append

variable {last : Option Token} {m : Mark} {s rest rest' : List Char} {c : Char}

theorem suffix_of_token {o : Except Issue TokenKind} {before : Before} (htrim : skipTrivia s = c :: rest)
    (ht : token before (c :: rest) = (o, rest')) : rest' <:+ s := by
  exact (suffix_of_scan ht).trans (htrim ▸ skipTrivia_suffix s)

theorem skipTrivia_append_of_cons (more : List Char) (h : skipTrivia s = c :: rest) :
    skipTrivia (s ++ more) = c :: (rest ++ more) := by
  fun_induction skipTrivia s with
  | case1 => cases h
  | case2 d s hd ih => rw [List.cons_append, skipTrivia, if_pos hd, ih h]
  | case3 s hd ih =>
    -- the line of a comment ends before the text does
    cases hline : s.dropWhile (· != '\n') with
    | nil =>
      rw [hline, skipTrivia_nil] at h
      cases h
    | cons d rest' =>
      rw [hline] at h ih
      rw [List.cons_append, skipTrivia, if_neg hd, if_pos rfl, (dropWhile_append_of_cons more hline).1]
      exact ih h
  | case4 d s hd hcomment =>
    obtain ⟨rfl, rfl⟩ := List.cons.inj h
    rw [List.cons_append, skipTrivia, if_neg hd, if_neg hcomment]

theorem tokenMark_append_of_cons (m : Mark) (more : List Char) (h : skipTrivia s = c :: rest) :
    tokenMark m (s ++ more) = tokenMark m s := by
  rw [tokenMark, skipTrivia_append_of_cons more h, ← List.cons_append, between_append, ← h, tokenMark]

theorem run_append_of_newline (more : List Char) (h : skipTrivia s = '\n' :: rest) (hlast : isNewline last = true) :
    run last m (s ++ more) = run last ((tokenMark m s).next '\n') (rest ++ more) := by
  rw [run_of_newline (skipTrivia_append_of_cons more h) hlast, tokenMark_append_of_cons m more h]

/-- A token is no string left open, so that it ends where it did. -/
theorem run_append_of_ok {more : List Char} (hmore : Apart more) {kind : TokenKind} (h : skipTrivia s = c :: rest)
    (hc : ¬(decide (c = '\n') && isNewline last) = true)
    (ht : token (beforeAt last (tokenMark m s)) (c :: rest) = (.ok kind, rest'))
    (hrest : next more = '-' → rest' ≠ ['[']) :
    run last m (s ++ more) = ⟨tokenOf kind (tokenMark m s) (c :: rest) rest', none⟩ ::
      run (some (tokenOf kind (tokenMark m s) (c :: rest) rest'))
        ((tokenMark m s).past (between (c :: rest) rest')) (rest' ++ more) := by
  have hscan : token (beforeAt last (tokenMark m (s ++ more))) (c :: (rest ++ more)) = (.ok kind, rest' ++ more) := by
    rw [tokenMark_append_of_cons m more h, ← List.cons_append,
      token_append hmore _ (by simp) (ht ▸ stands_ok hrest), ht, extend_ok]
  rw [run_of_ok (skipTrivia_append_of_cons more h) hc hscan, tokenMark_append_of_cons m more h, ← List.cons_append,
    tokenOf, between_append]
  rfl

variable (t : List Char)

/-- Neither is a token that is given up, unless its issue says so. -/
theorem token_append_of_error {e : Issue}
    (ht : token (beforeAt last (tokenMark m s)) (c :: rest) = (.error e, rest'))
    (hcode : e.code ≠ .unterminatedString) :
    token (beforeAt last (tokenMark m (s ++ '\n' :: t))) (c :: (rest ++ '\n' :: t)) =
      (.error (e.extend ('\n' :: t)), rest' ++ '\n' :: t) := by
  rw [tokenMark_append, ← List.cons_append,
    token_append (.newline t) _ (by simp) (stands_newline t (by simp [ht, Unclosed, hcode])), ht, extend_error]

theorem run_append_of_error {e : Issue} (h : skipTrivia s = c :: rest)
    (hc : ¬(decide (c = '\n') && isNewline last) = true)
    (ht : token (beforeAt last (tokenMark m s)) (c :: rest) = (.error e, rest'))
    (hcode : e.code ≠ .unterminatedString)
    (hrecover : recover 0 (rest' ++ '\n' :: t) = recover 0 rest' ++ '\n' :: t) :
    run last m (s ++ '\n' :: t) =
      ⟨tokenOf .invalid (tokenMark m s) (c :: rest) (recover 0 rest'),
        some (diagnosticOf (tokenMark m s) (c :: rest) e)⟩ ::
      run (some (tokenOf .invalid (tokenMark m s) (c :: rest) (recover 0 rest')))
        ((tokenMark m s).past (between (c :: rest) (recover 0 rest'))) (recover 0 rest' ++ '\n' :: t) := by
  rw [run_of_error (skipTrivia_append_of_cons ('\n' :: t) h) hc (token_append_of_error t ht hcode), hrecover,
    tokenMark_append, ← List.cons_append, tokenOf, between_append, diagnosticOf_append]
  rfl

end Append

/-- A text in which no string is left open, then a line break and another text, if the lexer recovers before the
line break wherever it gives up: the tokens of the first but for its end, and those from the line break on, which know
the last of them. -/
theorem run_append_of_recovers (t : List Char) {last : Option Token} {m : Mark} {s : List Char}
    (hstrings : ∀ l ∈ run last m s, Terminated l)
    (hrecovers : ∀ left, GivesUp last m s left → recover 0 (left ++ '\n' :: t) = recover 0 left ++ '\n' :: t) :
    ∃ front, run last m s = front ++ [⟨tokenOf .eof (m.past s) [] [], none⟩] ∧
      (∀ l ∈ front, l.token.kind ≠ .eof) ∧
      run last m (s ++ '\n' :: t) =
        front ++ run ((front.getLast?.map (·.token)).or last) (m.past s) ('\n' :: t) := by
  fun_induction run last m s with
  | case1 last m s trimmed m' htrim =>
    -- the text is at its end, with blanks and comments perhaps
    have hpast := past_tokenMark m s
    rw [show skipTrivia s = [] from htrim, Mark.past_nil] at hpast
    refine ⟨[], ?_, by simp, ?_⟩
    · rw [← hpast]
      rfl
    · exact run_newline_of_past last m t htrim
  | case2 last m s trimmed m' c rest htrim hc ih =>
    obtain ⟨hc, hlast⟩ : c = '\n' ∧ isNewline last = true := by simpa using hc
    subst hc
    -- a line break after another makes no token
    obtain ⟨front, hfront, hkinds, hrun⟩ :=
      ih hstrings fun left hleft => hrecovers left (.newline htrim hlast hleft)
    have hpast : (m'.next '\n').past rest = m.past s := past_of_newline htrim m
    rw [hpast] at hfront hrun
    exact ⟨front, hfront, hkinds, (run_append_of_newline ('\n' :: t) htrim hlast).trans hrun⟩
  | case3 last m s trimmed m' c rest htrim hc kind rest' ht tok ih =>
    obtain ⟨front, hfront, hkinds, hrun⟩ := ih (fun l hl => hstrings l (List.mem_cons_of_mem _ hl))
      fun left hleft => hrecovers left (.ok htrim hc ht hleft)
    have hpast : (m'.past (between (c :: rest) rest')).past rest' = m.past s :=
      past_of_token htrim (suffix_of_scan ht) m
    rw [hpast] at hfront hrun
    refine ⟨⟨tok, none⟩ :: front, by rw [hfront]; rfl, ?_, ?_⟩
    · exact List.forall_mem_cons.2 ⟨(token_kind (by simp) ht).1, hkinds⟩
    · rw [run_append_of_ok (.newline t) htrim hc ht fun hm => absurd hm (next_newline_ne t), getLast?_cons_or,
        List.cons_append, ← hrun]
      rfl
  | case4 last m s trimmed m' c rest htrim hc e rest' ht rest'' tok ih =>
    obtain ⟨front, hfront, hkinds, hrun⟩ := ih (fun l hl => hstrings l (List.mem_cons_of_mem _ hl))
      fun left hleft => hrecovers left (.error htrim hc ht hleft)
    have hrest : rest'' <:+ c :: rest := (recover_suffix 0 rest').trans (suffix_of_scan ht)
    have hpast : (m'.past (between (c :: rest) rest'')).past rest'' = m.past s := past_of_token htrim hrest m
    rw [hpast] at hfront hrun
    -- the issue is none of a string left open, and the recovery is over before the line break
    have hcode : e.code ≠ .unterminatedString := hstrings _ List.mem_cons_self _ rfl
    have hrecover := hrecovers rest' (.here htrim hc ht)
    refine ⟨⟨tok, some (diagnosticOf m' (c :: rest) e)⟩ :: front, by rw [hfront]; rfl, ?_, ?_⟩
    · exact List.forall_mem_cons.2 ⟨by simp [tok, tokenOf], hkinds⟩
    · rw [run_append_of_error t htrim hc ht hcode hrecover, getLast?_cons_or, List.cons_append, ← hrun]
      rfl

section Clean

variable {last : Option Token} {m : Mark} {s : List Char}

theorem terminated_of_clean (h : ∀ l ∈ run last m s, l.issue = none) : ∀ l ∈ run last m s, Terminated l := by
  intro l hl d hd
  rw [h l hl] at hd
  cases hd

/-- Where the lexer gives up nowhere there is nothing to recover from. -/
theorem recovers_of_clean (t : List Char) (h : ∀ l ∈ run last m s, l.issue = none) (left : List Char)
    (hleft : GivesUp last m s left) : recover 0 (left ++ '\n' :: t) = recover 0 left ++ '\n' :: t := by
  obtain ⟨l, hl, hissue⟩ := hleft.exists_issue
  exact absurd (h l hl) hissue

/-- The same for a text that scans well. -/
theorem run_append (t : List Char) (h : ∀ l ∈ run last m s, l.issue = none) :
    ∃ front, run last m s = front ++ [⟨tokenOf .eof (m.past s) [] [], none⟩] ∧
      (∀ l ∈ front, l.token.kind ≠ .eof ∧ l.token.kind ≠ .invalid) ∧
      run last m (s ++ '\n' :: t) =
        front ++ run ((front.getLast?.map (·.token)).or last) (m.past s) ('\n' :: t) := by
  obtain ⟨front, hfront, hkinds, hrun⟩ :=
    run_append_of_recovers t (terminated_of_clean h) (recovers_of_clean t h)
  refine ⟨front, hfront, fun l hl => ⟨hkinds l hl, fun hinvalid => ?_⟩, hrun⟩
  have hmem : l ∈ run last m s := hfront ▸ List.mem_append_left _ hl
  exact (run_kind l hmem).1 hinvalid (h l hmem)

end Clean

/-! ### Text further down -/

section Shift

variable (δ : Shift)

theorem isNewline_shift (last : Option Token) : isNewline (last.map (·.shift δ)) = isNewline last := by
  cases last with
  | none => rfl
  | some t => rfl

theorem beforeAt_shift (last : Option Token) (m : Mark) :
    beforeAt (last.map (·.shift δ)) (m.shift δ) = beforeAt last m := by
  cases last with
  | none => rfl
  | some t =>
    have hhere : (t.span.stop + δ.offset == m.offset + δ.offset) = (t.span.stop == m.offset) := by
      rw [Bool.eq_iff_iff]
      simp
    simp [beforeAt, hhere]

theorem tokenOf_shift (kind : TokenKind) (m : Mark) (s rest : List Char) :
    tokenOf kind (m.shift δ) s rest = (tokenOf kind m s rest).shift δ := by
  simp [tokenOf, Token.shift]

theorem diagnosticOf_shift (m : Mark) (s : List Char) (e : Issue) :
    diagnosticOf (m.shift δ) s e = (diagnosticOf m s e).shift δ := by
  simp [diagnosticOf, Diagnostic.shift]

theorem tokenMark_shift (m : Mark) (s : List Char) : tokenMark (m.shift δ) s = (tokenMark m s).shift δ :=
  Mark.past_shift δ m _

/-- A text that starts further down has the same tokens, further down. -/
theorem run_shift (last : Option Token) (m : Mark) (s : List Char) :
    run (last.map (·.shift δ)) (m.shift δ) s = (run last m s).map (·.shift δ) := by
  fun_induction run last m s with
  | case1 last m s trimmed m' htrim =>
    rw [run_of_nil htrim, tokenMark_shift, tokenOf_shift]
    rfl
  | case2 last m s trimmed m' c rest htrim hc ih =>
    obtain ⟨hc, hlast⟩ : c = '\n' ∧ isNewline last = true := by simpa using hc
    subst hc
    rw [run_of_newline htrim (by rwa [isNewline_shift]), tokenMark_shift, Mark.next_shift]
    exact ih
  | case3 last m s trimmed m' c rest htrim hc kind rest' ht tok ih =>
    have ht' : token (beforeAt (last.map (·.shift δ)) (tokenMark (m.shift δ) s)) (c :: rest) =
        (.ok kind, rest') := by
      rw [tokenMark_shift, beforeAt_shift]
      exact ht
    rw [run_of_ok htrim (by rwa [isNewline_shift]) ht', tokenMark_shift, tokenOf_shift, Mark.past_shift,
      List.map_cons, ← ih]
    rfl
  | case4 last m s trimmed m' c rest htrim hc e rest' ht rest'' tok ih =>
    have ht' : token (beforeAt (last.map (·.shift δ)) (tokenMark (m.shift δ) s)) (c :: rest) =
        (.error e, rest') := by
      rw [tokenMark_shift, beforeAt_shift]
      exact ht
    rw [run_of_error htrim (by rwa [isNewline_shift]) ht', tokenMark_shift, tokenOf_shift,
      diagnosticOf_shift, Mark.past_shift, List.map_cons, ← ih]
    rfl

end Shift

/-! ### Text behind a line break -/

/-- The lexer asks two things of the last token. -/
theorem run_congr {last last' : Option Token} {m : Mark} {s : List Char}
    (hbefore : ∀ m, beforeAt last m = beforeAt last' m) (hnewline : isNewline last = isNewline last') :
    run last m s = run last' m s := by
  fun_induction run last m s with
  | case1 last m s trimmed m' htrim => exact (run_of_nil htrim).symm
  | case2 last m s trimmed m' c rest htrim hc ih =>
    obtain ⟨hc, hlast⟩ : c = '\n' ∧ isNewline last = true := by simpa using hc
    subst hc
    rw [run_of_newline htrim (hnewline ▸ hlast)]
    exact ih hbefore hnewline
  | case3 last m s trimmed m' c rest htrim hc kind rest' ht tok ih =>
    exact (run_of_ok htrim (hnewline ▸ hc) (hbefore _ ▸ ht)).symm
  | case4 last m s trimmed m' c rest htrim hc e rest' ht rest'' tok ih =>
    exact (run_of_error htrim (hnewline ▸ hc) (hbefore _ ▸ ht)).symm

theorem beforeAt_newline {t : Token} (ht : t.kind = .newline) (m : Mark) :
    beforeAt (some t) m = beforeAt none m := by
  rw [beforeAt, beforeAt, ht]
  rfl

/-- After a line break a text has the tokens that it has on its own, but for a line break at its start. -/
theorem run_none {t : Token} (ht : t.kind = .newline) (m : Mark) (s : List Char) :
    run none m s = run (some t) m s ∨
      ∃ l : Lexeme, l.token.kind = .newline ∧ l.issue = none ∧ run none m s = l :: run (some t) m s := by
  rcases htrim : skipTrivia s with _ | ⟨c, rest⟩
  · exact .inl ((run_of_nil htrim).trans (run_of_nil htrim).symm)
  · have hnone : ¬(decide (c = '\n') && isNewline none) = true := by simp [isNewline]
    by_cases hc : c = '\n'
    · subst hc
      have hscan : token (beforeAt none (tokenMark m s)) ('\n' :: rest) = (.ok .newline, rest) := rfl
      refine .inr ⟨⟨tokenOf .newline (tokenMark m s) ('\n' :: rest) rest, none⟩, rfl, rfl, ?_⟩
      rw [run_of_ok htrim hnone hscan, run_of_newline htrim (by simp [isNewline, ht])]
      have hmark : (tokenMark m s).past (between ('\n' :: rest) rest) = (tokenMark m s).next '\n' := by
        simp [between]
      rw [hmark]
      refine congrArg (_ :: ·) (run_congr (fun m => ?_) (by simp [isNewline, tokenOf, ht]))
      rw [beforeAt_newline ht, beforeAt_newline rfl]
    · -- what the lexer asks about the last token is no different before and after a line break
      left
      have hsome : ¬(decide (c = '\n') && isNewline (some t)) = true := by simp [hc]
      rcases hscan : token (beforeAt none (tokenMark m s)) (c :: rest) with ⟨e | kind, rest'⟩
      · rw [run_of_error htrim hnone hscan,
          run_of_error htrim hsome (by rw [beforeAt_newline ht]; exact hscan)]
      · rw [run_of_ok htrim hnone hscan,
          run_of_ok htrim hsome (by rw [beforeAt_newline ht]; exact hscan)]

/-- A line break, and the text behind it.  It is a token unless it follows another. -/
theorem run_newline (last : Option Token) (m : Mark) (t : List Char) :
    ∃ front : List Lexeme,
      (isNewline last = true ∧ front = [] ∨
        isNewline last = false ∧ ∃ l : Lexeme, front = [l] ∧ l.issue = none ∧ l.token.kind = .newline) ∧
      ∀ nl : Token, nl.kind = .newline →
        run last m ('\n' :: t) = front ++ run (some nl) (m.next '\n') t := by
  have hmark : tokenMark m ('\n' :: t) = m := by
    rw [tokenMark, skipTrivia_newline, between_self, Mark.past_nil]
  cases hlast : isNewline last with
  | true =>
    refine ⟨[], .inl ⟨rfl, rfl⟩, fun nl hnl => ?_⟩
    rw [run_of_newline (skipTrivia_newline t) hlast, hmark, List.nil_append]
    refine run_congr (fun m => ?_) (by rw [hlast]; simp [isNewline, hnl])
    cases last with
    | none => simp [isNewline] at hlast
    | some t' => rw [beforeAt_newline (by simpa [isNewline] using hlast), beforeAt_newline hnl]
  | false =>
    have hc : ¬(decide ('\n' = '\n') && isNewline last) = true := by simp [hlast]
    have hscan : token (beforeAt last (tokenMark m ('\n' :: t))) ('\n' :: t) = (.ok .newline, t) := rfl
    refine ⟨[⟨tokenOf .newline m ('\n' :: t) t, none⟩], .inr ⟨rfl, _, rfl, rfl, rfl⟩, fun nl hnl => ?_⟩
    have hpast : m.past (between ('\n' :: t) t) = m.next '\n' := by simp [between]
    rw [run_of_ok (skipTrivia_newline t) hc hscan, hmark, hpast]
    refine congrArg (_ :: ·) (run_congr (fun m => ?_) (by simp [isNewline, tokenOf, hnl]))
    rw [beforeAt_newline rfl, beforeAt_newline hnl]

/-! ### Two texts -/

/-- The end of a text. -/
def endOf (s : String) : Lexeme :=
  ⟨tokenOf .eof (Mark.origin.past s.toList) [] [], none⟩

/-- Two texts with a line break between them, if the lexer recovers before it wherever it gives up in the first.  That
line break is a lexeme unless it follows another. -/
theorem exists_run_join_of_recovers {a b : String} {nl : Token} (hnl : nl.kind = .newline)
    (hstrings : ∀ l ∈ run none Mark.origin a.toList, Terminated l)
    (hrecovers : ∀ left, GivesUp none Mark.origin a.toList left →
      recover 0 (left ++ '\n' :: b.toList) = recover 0 left ++ '\n' :: b.toList) :
    ∃ fa ln lead : List Lexeme,
      (∀ l ∈ ln ++ lead, l.token.kind = .newline ∧ l.issue = none) ∧
      ((∃ fa' l, ln = [] ∧ fa = fa' ++ [l] ∧ l.token.kind = .newline) ∨ ∃ l, ln = [l]) ∧
      run none Mark.origin a.toList = fa ++ [endOf a] ∧
      run none Mark.origin b.toList = lead ++ run (some nl) Mark.origin b.toList ∧
      run none Mark.origin (a ++ "\n" ++ b).toList =
        fa ++ (ln ++ (run (some nl) Mark.origin b.toList).map (·.shift (.past a))) := by
  obtain ⟨fa, hfa, -, hrunA⟩ := run_append_of_recovers b.toList hstrings hrecovers
  obtain ⟨lead, hlead, hrunB⟩ : ∃ lead : List Lexeme, (∀ l ∈ lead, l.token.kind = .newline ∧ l.issue = none) ∧
      run none Mark.origin b.toList = lead ++ run (some nl) Mark.origin b.toList := by
    rcases run_none hnl Mark.origin b.toList with hrun | ⟨l, hkind, hissue, hrun⟩
    · exact ⟨[], by simp, hrun⟩
    · exact ⟨[l], by simpa using ⟨hkind, hissue⟩, hrun⟩
  obtain ⟨ln, hln, hnext⟩ :=
    run_newline ((fa.getLast?.map (·.token)).or none) (Mark.origin.past a.toList) b.toList
  have hlines : ∀ l ∈ ln, l.token.kind = .newline ∧ l.issue = none := by
    rcases hln with ⟨-, rfl⟩ | ⟨-, l, rfl, hissue, hkind⟩
    · simp
    · simpa using ⟨hkind, hissue⟩
  refine ⟨fa, ln, lead, List.forall_mem_append.2 ⟨hlines, hlead⟩, ?_, hfa, hrunB, ?_⟩
  · rcases hln with ⟨hlast, hln⟩ | ⟨-, l, hln, -, -⟩
    · -- the first text ends with a line break
      left
      rw [Option.or_none] at hlast
      cases hget : fa.getLast? with
      | none => simp [hget, isNewline] at hlast
      | some l =>
        obtain ⟨fa', hfa'⟩ := List.getLast?_eq_some_iff.1 hget
        exact ⟨fa', l, hln, hfa', by simpa [hget, isNewline] using hlast⟩
    · exact .inr ⟨l, hln⟩
  · have hshift := run_shift (.past a) (some nl) Mark.origin b.toList
    rw [String.toList_append, String.toList_append, List.append_assoc]
    rw [show "\n".toList ++ b.toList = '\n' :: b.toList from rfl, hrunA, hnext (nl.shift (.past a)) hnl,
      Mark.past_newline, ← hshift]
    rfl

/-- Two texts that scan well, with a line break between them. -/
theorem exists_run_join {a b : String} (ha : ∀ l ∈ run none Mark.origin a.toList, l.issue = none)
    (hb : ∀ l ∈ run none Mark.origin b.toList, l.issue = none) :
    ∃ fa ln lead fb : List Lexeme,
      (∀ l ∈ fa ++ fb, l.token.kind ≠ .eof ∧ l.token.kind ≠ .invalid) ∧
      (∀ l ∈ ln ++ lead, l.token.kind = .newline ∧ l.issue = none) ∧
      ((∃ fa' l, ln = [] ∧ fa = fa' ++ [l] ∧ l.token.kind = .newline) ∨ ∃ l, ln = [l]) ∧
      run none Mark.origin a.toList = fa ++ [endOf a] ∧
      run none Mark.origin b.toList = lead ++ (fb ++ [endOf b]) ∧
      run none Mark.origin (a ++ "\n" ++ b).toList =
        fa ++ (ln ++ (fb ++ [endOf b]).map (·.shift (.past a))) := by
  let nl : Token := ⟨.newline, "", default⟩
  obtain ⟨fa, ln, lead, hlines, hln, hrunA, hrunB, hrun⟩ :=
    exists_run_join_of_recovers (b := b) (show nl.kind = .newline from rfl) (terminated_of_clean ha)
      (recovers_of_clean _ ha)
  have hclean : ∀ l ∈ run (some nl) Mark.origin b.toList, l.issue = none :=
    fun l hl => hb l (hrunB ▸ List.mem_append_right _ hl)
  obtain ⟨fa', hfa', hinnerA, -⟩ := run_append [] ha
  obtain ⟨fb, hfb, hinnerB, -⟩ := run_append [] hclean
  obtain rfl : fa' = fa := List.append_cancel_right (hfa'.symm.trans hrunA)
  exact ⟨fa', ln, lead, fb, List.forall_mem_append.2 ⟨hinnerA, hinnerB⟩, hlines, hln, hrunA, hfb ▸ hrunB, hfb ▸ hrun⟩

end Lexer

/-- A token of a text that scans well, before its end. -/
def Token.Inner (t : Token) : Prop :=
  t.kind ≠ .eof ∧ t.kind ≠ .invalid

theorem Token.inner_map {ls : List Lexeme} (h : ∀ l ∈ ls, l.token.kind ≠ .eof ∧ l.token.kind ≠ .invalid) :
    ∀ t ∈ ls.map (·.token), t.Inner := by
  intro t ht
  obtain ⟨l, hl, rfl⟩ := List.mem_map.1 ht
  exact h l hl

open Lexer in
/-- What holds of the end of a program, of a token that is scanned and of an invalid one holds of each token. -/
theorem forall_mem_tokenize (P : Token → Prop) (heof : ∀ m, P (tokenOf .eof m [] []))
    (hscanned : ∀ m s kind rest, Scan.Scans s kind rest → P (tokenOf kind m s rest))
    (hinvalid : ∀ m s rest, P (tokenOf .invalid m s rest)) (source : String) : ∀ t ∈ (tokenize source).1, P t := by
  intro t ht
  obtain ⟨l, hl, rfl⟩ := List.mem_map.1 ht
  exact forall_mem_run (fun l => P l.token) heof hscanned (fun m s rest _ => hinvalid m s rest) _ _ _ l hl

theorem tokenize_of_run {s : String} {ls : List Lexeme} (h : Lexer.run none Mark.origin s.toList = ls) :
    tokenize s = (ls.map (·.token), ls.filterMap (·.issue)) := by
  rw [tokenize, h]

open Lexer in
/-- Two texts that scan well, with a line break between them.  The tokens are those of the first without its
end, one line break, and those of the second, further down and without a line break at their start.  The one
line break may be the last of the first text. -/
theorem tokenize_append {a b : String} (ha : (tokenize a).2 = []) (hb : (tokenize b).2 = []) :
    ∃ (front ends lead back : List Token) (nl stop stop' : Token),
      (∀ t ∈ front ++ back, t.Inner) ∧ nl.kind = .newline ∧ stop.kind = .eof ∧ stop'.kind = .eof ∧
      (ends = [stop] ∨ ends = [nl, stop]) ∧ (∀ t ∈ lead, t.kind = .newline) ∧
      (tokenize a).1 = front ++ ends ∧ (tokenize b).1 = lead ++ (back ++ [stop']) ∧
      tokenize (a ++ "\n" ++ b) = (front ++ nl :: (back ++ [stop']).map (·.shift (.past a)), []) := by
  have hcleanA := List.filterMap_eq_nil_iff.1 ha
  have hcleanB := List.filterMap_eq_nil_iff.1 hb
  obtain ⟨fa, ln, lead, fb, hinner, hlines, hln, hrunA, hrunB, hrun⟩ := exists_run_join hcleanA hcleanB
  have hA : (tokenize a).1 = fa.map (·.token) ++ [(endOf a).token] := by simp [tokenize_of_run hrunA]
  have hB : (tokenize b).1 = lead.map (·.token) ++ (fb.map (·.token) ++ [(endOf b).token]) := by
    simp [tokenize_of_run hrunB]
  have hissues : (fa ++ (ln ++ (fb ++ [endOf b]).map (·.shift (.past a)))).filterMap (·.issue) = [] := by
    rw [List.filterMap_eq_nil_iff]
    intro l hl
    rcases List.mem_append.1 hl with hl | hl
    · exact hcleanA l (hrunA ▸ List.mem_append_left _ hl)
    · rcases List.mem_append.1 hl with hl | hl
      · exact (hlines l (List.mem_append_left _ hl)).2
      · obtain ⟨l', hl', rfl⟩ := List.mem_map.1 hl
        simp [Lexeme.shift, hcleanB l' (hrunB ▸ List.mem_append_right _ hl')]
  have htokens : tokenize (a ++ "\n" ++ b) = (fa.map (·.token) ++ (ln.map (·.token) ++
      (fb.map (·.token) ++ [(endOf b).token]).map (·.shift (.past a))), []) := by
    rw [tokenize_of_run hrun, hissues]
    simp [Lexeme.shift, Function.comp_def]
  have hnewlines : ∀ t ∈ lead.map (·.token), t.kind = .newline := by
    intro t ht
    obtain ⟨l, hl, rfl⟩ := List.mem_map.1 ht
    exact (hlines l (List.mem_append_right _ hl)).1
  rcases hln with ⟨fa', l, rfl, rfl, hkind⟩ | ⟨l, rfl⟩
  · refine ⟨fa'.map (·.token), [l.token, (endOf a).token], _, _, l.token, (endOf a).token, (endOf b).token, ?_,
      hkind, rfl, rfl, .inr rfl, hnewlines, ?_, hB, ?_⟩
    · rw [← List.map_append]
      refine Token.inner_map fun l' hl' => hinner l' ?_
      rw [List.append_assoc]
      exact (List.mem_append.1 hl').elim (List.mem_append_left _)
        fun h => List.mem_append_right _ (List.mem_append_right _ h)
    · rw [hA, List.map_append, List.append_assoc]
      rfl
    · rw [htokens, List.map_append, List.append_assoc]
      rfl
  · refine ⟨fa.map (·.token), [(endOf a).token], _, _, l.token, (endOf a).token, (endOf b).token, ?_,
      (hlines l (by simp)).1, rfl, rfl, .inl rfl, hnewlines, hA, hB, htokens⟩
    rw [← List.map_append]
    exact Token.inner_map hinner

end Reshape
