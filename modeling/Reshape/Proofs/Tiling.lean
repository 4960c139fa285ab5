/-
Tokens tile a program.

The tokens of a program lie in it one behind the other, each with its text and its region, and the last one is the end.
Between them there are blanks, comments and the line breaks that follow a line break.

* `Mark.spanTo_past` — the place that the lexer keeps is that of the characters it has passed;
* `Lexer.tiles_run` — the tokens of a run, one by one, with the gaps in front of them;
* `tokenize_tiling` — the tokens of a program.
-/
import Mathlib.Data.List.Chain
import Mathlib.Data.List.Induction
import Mathlib.Data.List.TakeWhile
import Reshape.Proofs.Lexing
import Reshape.Text.Utf8

namespace Reshape

open Text (utf8Length)

/-! ### Regions of text -/

/-- The region of some text that stands behind the characters `front` of a program. -/
def Span.ofText (front text : List Char) : Span where
  start := utf8Length front
  stop := utf8Length (front ++ text)
  line := front.count '\n' + 1
  column := (front.reverse.takeWhile (· != '\n')).length + 1

theorem Text.utf8Length_pos {cs : List Char} (h : cs ≠ []) : 0 < utf8Length cs := by
  obtain ⟨c, rest, rfl⟩ := List.exists_cons_of_ne_nil h
  exact Nat.lt_of_lt_of_le c.utf8Size_pos (Nat.le_add_right _ _)

theorem Mark.next_offset (m : Mark) (c : Char) : (m.next c).offset = m.offset + c.utf8Size := by
  unfold next
  split <;> rfl

theorem Mark.past_offset (m : Mark) (cs : List Char) : (m.past cs).offset = m.offset + Text.utf8Length cs := by
  induction cs generalizing m with
  | nil => rfl
  | cons c cs ih => rw [past_cons, ih, next_offset, Text.utf8Length_cons, Nat.add_assoc]

theorem Mark.past_origin (cs : List Char) :
    origin.past cs =
      ⟨utf8Length cs, cs.count '\n' + 1, (cs.reverse.takeWhile (· != '\n')).length + 1⟩ := by
  induction cs using List.reverseRecOn with
  | nil => rfl
  | append_singleton cs c ih =>
    rw [past_append, ih, past_cons, past_nil, next]
    by_cases hc : c = '\n'
    · simp [hc]
    · simp [hc]

theorem Mark.spanTo_past (front text : List Char) :
    (origin.past front).spanTo ((origin.past front).past text) = .ofText front text := by
  rw [← past_append, past_origin, past_origin, spanTo, Span.ofText]

namespace Lexer

theorem between_eq {s text rest : List Char} (h : text ++ rest = s) : between s rest = text := by
  rw [← h, between_left]

theorem between_append_self {s rest : List Char} (h : rest <:+ s) : between s rest ++ rest = s := by
  obtain ⟨text, rfl⟩ := h
  rw [between_left]

theorem between_cons {s rest : List Char} (h : rest <:+ s) (c : Char) :
    between (c :: s) rest = c :: between s rest :=
  between_eq (by rw [List.cons_append, between_append_self h])

end Lexer

/-! ### Gaps -/

/-- Text between tokens: blanks, comments and, behind a line break, more line breaks. -/
inductive Gap (afterNewline : Bool) : List Char → Prop
  | nil : Gap afterNewline []
  | blank {c gap} : Scan.isSpace c = true → Gap afterNewline gap → Gap afterNewline (c :: gap)
  | comment {body gap} : '\n' ∉ body → Gap afterNewline gap → Gap afterNewline ('#' :: (body ++ gap))
  | newline {gap} : afterNewline = true → Gap afterNewline gap → Gap afterNewline ('\n' :: gap)

variable {b : Bool} {front gap s before after : List Char} {c : Char} {ts : List Token}

theorem Gap.append {more : List Char} (h : Gap b gap) (hmore : Gap b more) : Gap b (gap ++ more) := by
  induction h with
  | nil => exact hmore
  | blank hc _ ih => exact .blank hc ih
  | @comment body gap hbody _ ih =>
    rw [List.cons_append, List.append_assoc]
    exact .comment hbody ih
  | newline hb _ ih => exact .newline hb ih

theorem Lexer.gap_between (b : Bool) (s : List Char) : Gap b (between s (Scan.skipTrivia s)) := by
  fun_induction Scan.skipTrivia s with
  | case1 => exact .nil
  | case2 c rest hc ih =>
    rw [between_cons (Scan.skipTrivia_suffix rest)]
    exact .blank hc ih
  | case3 rest hc ih =>
    -- a comment is what stands before the line break
    have hbody : '\n' ∉ rest.takeWhile (· != '\n') := by
      intro hmem
      simpa using List.mem_takeWhile_imp hmem
    have hcut : between ('#' :: rest) (Scan.skipTrivia (rest.dropWhile (· != '\n'))) =
        '#' :: (rest.takeWhile (· != '\n') ++
          between (rest.dropWhile (· != '\n')) (Scan.skipTrivia (rest.dropWhile (· != '\n')))) := by
      refine between_eq ?_
      rw [List.cons_append, List.append_assoc, between_append_self (Scan.skipTrivia_suffix _),
        List.takeWhile_append_dropWhile]
    rw [hcut]
    exact .comment hbody ih
  | case4 c rest hc hd =>
    rw [between_self]
    exact .nil

/-! ### Tokens and the gaps in front of them -/

/-- The tokens cover the text `s` that stands behind `front`, gaps apart.  Whether a line break may be in a gap, or
be a token, hangs on the token in front. -/
inductive Tiles : Bool → List Char → List Char → List Token → Prop
  | stop {b front gap t} : Gap b gap → t.kind = .eof → t.lexeme = "" → t.span = .ofText (front ++ gap) [] →
      Tiles b front gap [t]
  | token {b front gap rest t ts} : Gap b gap → t.kind ≠ .eof → t.lexeme ≠ "" →
      t.span = .ofText (front ++ gap) t.lexeme.toList → ¬(b = true ∧ t.kind = .newline) →
      Tiles (Lexer.isNewline (some t)) (front ++ gap ++ t.lexeme.toList) rest ts →
      Tiles b front (gap ++ (t.lexeme.toList ++ rest)) (t :: ts)

theorem Tiles.prepend (hgap : Gap b gap) (h : Tiles b (front ++ gap) s ts) : Tiles b front (gap ++ s) ts := by
  cases h with
  | stop hmore hkind hlexeme hspan =>
    exact .stop (hgap.append hmore) hkind hlexeme (by rw [hspan, List.append_assoc])
  | @token _ _ gap' rest t ts hmore hkind hlexeme hspan hnewline hrest =>
    rw [← List.append_assoc]
    refine .token (hgap.append hmore) hkind hlexeme (by rw [hspan, List.append_assoc]) hnewline ?_
    rwa [← List.append_assoc front]

namespace Lexer

open Scan

/-- The place of the next token is behind a gap. -/
theorem tokenMark_origin (front s : List Char) :
    tokenMark (Mark.origin.past front) s = Mark.origin.past (front ++ between s (skipTrivia s)) := by
  rw [tokenMark, Mark.past_append]

/-- One step of the lexer makes a token of the text up to where it goes on. -/
theorem tiles_cons {last : Option Token} {kind : TokenKind} {rest rest' : List Char}
    (htrim : skipTrivia s = c :: rest) (hrest : rest' <:+ c :: rest) (hlen : rest'.length < (c :: rest).length)
    (heof : kind ≠ .eof) (hnewline : ¬(isNewline last = true ∧ kind = .newline))
    (hts : Tiles (isNewline (some (tokenOf kind (tokenMark (Mark.origin.past front) s) (c :: rest) rest')))
      (front ++ between s (skipTrivia s) ++ between (c :: rest) rest') rest' ts) :
    Tiles (isNewline last) front s
      (tokenOf kind (tokenMark (Mark.origin.past front) s) (c :: rest) rest' :: ts) := by
  have htext : (tokenOf kind (tokenMark (Mark.origin.past front) s) (c :: rest) rest').lexeme.toList =
      between (c :: rest) rest' := String.toList_ofList
  have hs : between s (skipTrivia s) ++ (between (c :: rest) rest' ++ rest') = s := by
    rw [between_append_self hrest, ← htrim, between_append_self (skipTrivia_suffix s)]
  have hlexeme : (tokenOf kind (tokenMark (Mark.origin.past front) s) (c :: rest) rest').lexeme ≠ "" := by
    intro hempty
    have hself := between_append_self hrest
    rw [← htext, hempty] at hself
    exact absurd hlen (by simp [← hself])
  have hspan : (tokenOf kind (tokenMark (Mark.origin.past front) s) (c :: rest) rest').span =
      .ofText (front ++ between s (skipTrivia s)) (between (c :: rest) rest') := by
    rw [tokenMark_origin, tokenOf, Mark.spanTo_past]
  rw [← htext] at hts hs hspan
  have htiles := Tiles.token (gap_between (isNewline last) s) heof hlexeme hspan hnewline hts
  rwa [hs] at htiles

/-- The tokens of a text that stands behind `front`. -/
theorem tiles_run (last : Option Token) (front s : List Char) :
    Tiles (isNewline last) front s ((run last (Mark.origin.past front) s).map (·.token)) := by
  generalize hm : Mark.origin.past front = m
  fun_induction run last m s generalizing front with
  | case1 last m s trimmed m' htrim =>
    subst hm
    have hself : between s (skipTrivia s) = s := by
      rw [← List.append_nil (between s _), ← show skipTrivia s = [] from htrim,
        between_append_self (skipTrivia_suffix s)]
    have hm' : m' = Mark.origin.past (front ++ s) := by
      rw [← hself]
      exact tokenMark_origin front s
    refine .stop (hself ▸ gap_between (isNewline last) s) rfl rfl ?_
    rw [hm']
    exact Mark.spanTo_past (front ++ s) []
  | case2 last m s trimmed m' c rest htrim hc ih =>
    subst hm
    obtain ⟨hc, hlast⟩ : c = '\n' ∧ isNewline last = true := by simpa using hc
    subst hc
    have hs : between s (skipTrivia s) ++ ['\n'] ++ rest = s := by
      rw [List.append_assoc, List.singleton_append, ← show skipTrivia s = '\n' :: rest from htrim,
        between_append_self (skipTrivia_suffix s)]
    -- a line break behind another is one more character of the gap
    have hgap : Gap (isNewline last) (between s (skipTrivia s) ++ ['\n']) :=
      (gap_between _ s).append (.newline hlast .nil)
    have htiles := Tiles.prepend hgap (ih (front ++ (between s (skipTrivia s) ++ ['\n'])) (by
      rw [Mark.past_append, Mark.past_append]
      rfl))
    rwa [hs] at htiles
  | case3 last m s trimmed m' c rest htrim hc kind rest' ht tok ih =>
    subst hm
    have hrest : rest' <:+ c :: rest := suffix_of_scan ht
    have hlen : rest'.length < (c :: rest).length := by simpa [ht] using length_token_lt (beforeAt last m') c rest
    obtain ⟨heof, -, hnewline⟩ := token_kind (by simp) ht
    refine tiles_cons htrim hrest hlen heof ?_ (ih _ ?_)
    · rintro ⟨hlast, hkind⟩
      obtain ⟨_, heq⟩ := hnewline hkind
      exact hc (by simp [(List.cons.inj heq).1, hlast])
    · rw [Mark.past_append, Mark.past_append]
  | case4 last m s trimmed m' c rest htrim hc e rest' ht rest'' tok ih =>
    subst hm
    have hrecover := recover_suffix 0 rest'
    have hrest : rest' <:+ c :: rest := suffix_of_scan ht
    have hlen : rest'.length < (c :: rest).length := by simpa [ht] using length_token_lt (beforeAt last m') c rest
    refine tiles_cons htrim (hrecover.trans hrest) (Nat.lt_of_le_of_lt hrecover.length_le hlen) (by simp) (by simp)
      (ih _ ?_)
    rw [Mark.past_append, Mark.past_append]

end Lexer

/-! ### What a tiling says of each token -/

theorem Span.start_lt_stop_ofText {front text : List Char} (h : text ≠ []) :
    (ofText front text).start < (ofText front text).stop := by
  simp [ofText, Text.utf8Length_pos h]

namespace Tiles

theorem covers (h : Tiles b front s ts) :
    ∀ t ∈ ts, ∃ x y, s = x ++ (t.lexeme.toList ++ y) ∧ t.span = .ofText (front ++ x) t.lexeme.toList := by
  induction h with
  | @stop b front gap t hgap hkind hlexeme hspan =>
    refine List.forall_mem_singleton.2 ⟨gap, [], ?_, ?_⟩
    · simp [hlexeme]
    · rw [hspan, hlexeme]
      rfl
  | @token b front gap rest t ts hgap hkind hlexeme hspan hnewline hrest ih =>
    refine List.forall_mem_cons.2 ⟨⟨gap, rest, rfl, hspan⟩, ?_⟩
    intro u hu
    obtain ⟨x, y, hx, huspan⟩ := ih u hu
    refine ⟨gap ++ (t.lexeme.toList ++ x), y, ?_, ?_⟩
    · rw [hx]
      simp only [List.append_assoc]
    · rw [huspan]
      simp only [List.append_assoc]

theorem le_start (h : Tiles b front s ts) : ∀ t ∈ ts, utf8Length front ≤ t.span.start := by
  intro t ht
  obtain ⟨x, y, -, hspan⟩ := h.covers t ht
  simp [hspan, Span.ofText]

theorem pairwise (h : Tiles b front s ts) : ts.Pairwise fun t u => t.span.stop ≤ u.span.start := by
  induction h with
  | stop => exact List.pairwise_singleton _ _
  | token hgap hkind hlexeme hspan hnewline hrest ih =>
    refine List.pairwise_cons.2 ⟨?_, ih⟩
    intro u hu
    rw [hspan]
    exact hrest.le_start u hu

/-- The last token, and only it, is the end of the program; the others are not empty. -/
theorem exists_stop (h : Tiles b front s ts) :
    ∃ inner stop, ts = inner ++ [stop] ∧ (∀ t ∈ inner, t.kind ≠ .eof ∧ t.span.start < t.span.stop) ∧
      stop.kind = .eof ∧ stop.span = .ofText (front ++ s) [] := by
  induction h with
  | @stop b front gap t hgap hkind hlexeme hspan => exact ⟨[], t, rfl, by simp, hkind, hspan⟩
  | @token b front gap rest t ts hgap hkind hlexeme hspan hnewline hrest ih =>
    obtain ⟨inner, stop, rfl, hinner, hstop, hend⟩ := ih
    have htext : t.lexeme.toList ≠ [] := by simpa using hlexeme
    refine ⟨t :: inner, stop, rfl, List.forall_mem_cons.2 ⟨⟨hkind, ?_⟩, hinner⟩, hstop, ?_⟩
    · rw [hspan]
      exact Span.start_lt_stop_ofText htext
    · rw [hend]
      simp only [List.append_assoc]

/-- No line break follows another. -/
theorem isChain (h : Tiles b front s ts) :
    ts.IsChain (fun t u => ¬(t.kind = .newline ∧ u.kind = .newline)) ∧
      (b = true → ∀ t ∈ ts.head?, t.kind ≠ .newline) := by
  induction h with
  | stop hgap hkind hlexeme hspan => exact ⟨.singleton _, by simp [hkind]⟩
  | @token b front gap rest t ts hgap hkind hlexeme hspan hnewline hrest ih =>
    obtain ⟨hchain, hhead⟩ := ih
    refine ⟨List.isChain_cons.2 ⟨?_, hchain⟩, ?_⟩
    · rintro u hu ⟨htkind, hukind⟩
      exact hhead (by simp [Lexer.isNewline, htkind]) u hu hukind
    · simpa using hnewline

end Tiles

/-! ### What a tiling says of the text between tokens -/

/-- The character behind `before` is in no token for one of three reasons: it is a blank, it is in a comment, that is
behind a number sign in no token, on the same line, or it is a line break and the last token in front is one too. -/
inductive Skipped (tokens : List Token) (before : List Char) (c : Char) : Prop
  | blank : c = ' ' ∨ c = '\t' ∨ c = '\r' → Skipped tokens before c
  | comment {lead body} : before ++ [c] = lead ++ '#' :: body → '\n' ∉ body →
      (∀ t ∈ tokens, t.span.stop ≤ utf8Length lead ∨ utf8Length (before ++ [c]) ≤ t.span.start) →
      Skipped tokens before c
  | newline {pre t post} : c = '\n' → tokens = pre ++ t :: post → t.kind = .newline →
      t.span.stop ≤ utf8Length before → (∀ u ∈ post, utf8Length before < u.span.start) →
      Skipped tokens before c

/-- A character of two texts is one of the first or one of the second. -/
theorem exists_of_append_eq {xs ys : List Char} (h : xs ++ ys = before ++ c :: after) :
    (∃ x, xs = before ++ c :: x) ∨ ∃ x, before = xs ++ x ∧ ys = x ++ c :: after := by
  rcases List.append_eq_append_iff.1 h with ⟨x, hbefore, hys⟩ | ⟨x, hxs, hafter⟩
  · exact .inr ⟨x, hbefore, hys⟩
  · rcases x with _ | ⟨d, x⟩
    · exact .inr ⟨[], by simpa using hxs.symm, by simpa using hafter.symm⟩
    · obtain ⟨rfl, -⟩ := List.cons.inj hafter
      exact .inl ⟨x, hxs⟩

/-- The characters of a gap. -/
theorem Gap.character (h : Gap b gap) (hsplit : gap = before ++ c :: after) :
    (c = ' ' ∨ c = '\t' ∨ c = '\r') ∨ (∃ lead body, before ++ [c] = lead ++ '#' :: body ∧ '\n' ∉ body) ∨
      (b = true ∧ c = '\n') := by
  induction h generalizing before with
  | nil => simp at hsplit
  | @blank d gap hd _ ih =>
    rcases before with _ | ⟨_, before⟩
    · obtain ⟨rfl, -⟩ := List.cons.inj hsplit
      exact .inl (by simpa [Scan.isSpace, or_assoc] using hd)
    · obtain ⟨rfl, hgap⟩ := List.cons.inj hsplit
      refine (ih hgap).imp_right (Or.imp_left ?_)
      rintro ⟨lead, body, hlead, hbody⟩
      exact ⟨d :: lead, body, congrArg (d :: ·) hlead, hbody⟩
  | @comment body gap hbody _ ih =>
    rcases before with _ | ⟨_, before⟩
    · obtain ⟨rfl, -⟩ := List.cons.inj hsplit
      exact .inr (.inl ⟨[], [], rfl, by simp⟩)
    · obtain ⟨rfl, hrest⟩ := List.cons.inj hsplit
      rcases exists_of_append_eq hrest with ⟨x, rfl⟩ | ⟨x, rfl, hgap⟩
      · have hline : '\n' ∉ before ++ [c] := fun hmem => hbody (by
          rw [← List.singleton_append, ← List.append_assoc]
          exact List.mem_append_left _ hmem)
        exact .inr (.inl ⟨[], before ++ [c], rfl, hline⟩)
      · refine (ih hgap).imp_right (Or.imp_left ?_)
        rintro ⟨lead, body', hlead, hbody'⟩
        refine ⟨'#' :: (body ++ lead), body', ?_, hbody'⟩
        simp only [List.cons_append, List.append_assoc, hlead]
  | newline hb _ ih =>
    rcases before with _ | ⟨_, before⟩
    · obtain ⟨rfl, -⟩ := List.cons.inj hsplit
      exact .inr (.inr ⟨hb, rfl⟩)
    · obtain ⟨rfl, hgap⟩ := List.cons.inj hsplit
      refine (ih hgap).imp_right (Or.imp_left ?_)
      rintro ⟨lead, body, hlead, hbody⟩
      exact ⟨'\n' :: lead, body, congrArg ('\n' :: ·) hlead, hbody⟩

/-- A gap between the tokens `pre` and the tokens `ts`. -/
theorem Gap.skipped {pre : List Token} (h : Gap b gap) (hsplit : gap = before ++ c :: after)
    (hpre : ∀ t ∈ pre, t.span.stop ≤ utf8Length front)
    (hb : b = true → ∃ pre' t, pre = pre' ++ [t] ∧ t.kind = .newline)
    (hts : ∀ t ∈ ts, utf8Length (front ++ gap) ≤ t.span.start) :
    Skipped (pre ++ ts) (front ++ before) c := by
  have hc : 0 < c.utf8Size := c.utf8Size_pos
  have hbehind : ∀ t ∈ ts, utf8Length (front ++ before ++ [c]) ≤ t.span.start := by
    intro t ht
    have hle := hts t ht
    simp only [hsplit, Text.utf8Length_append, Text.utf8Length_cons, Text.utf8Length_nil] at hle ⊢
    omega
  rcases h.character hsplit with hblank | ⟨lead, body, hlead, hbody⟩ | ⟨htrue, rfl⟩
  · exact .blank hblank
  · have hlead' : front ++ before ++ [c] = front ++ lead ++ '#' :: body := by
      rw [List.append_assoc, hlead, List.append_assoc]
    refine .comment hlead' hbody fun t ht => ?_
    rcases List.mem_append.1 ht with ht | ht
    · have hle := hpre t ht
      left
      rw [Text.utf8Length_append]
      omega
    · exact .inr (hbehind t ht)
  · obtain ⟨pre', t, rfl, hkind⟩ := hb htrue
    refine .newline rfl (by rw [List.append_assoc]; rfl) hkind ?_ ?_
    · have hle := hpre t (by simp)
      rw [Text.utf8Length_append]
      omega
    · intro u hu
      have hle := hbehind u hu
      simp only [Text.utf8Length_append, Text.utf8Length_cons, Text.utf8Length_nil] at hle ⊢
      omega

/-- A character of the text is in a token or skipped. -/
theorem Tiles.character {pre : List Token} (h : Tiles b front s ts) (hsplit : s = before ++ c :: after)
    (hpre : ∀ t ∈ pre, t.span.stop ≤ utf8Length front)
    (hb : b = true → ∃ pre' t, pre = pre' ++ [t] ∧ t.kind = .newline) :
    (∃ t ∈ pre ++ ts, t.span.start ≤ utf8Length (front ++ before) ∧ utf8Length (front ++ before) < t.span.stop) ∨
      Skipped (pre ++ ts) (front ++ before) c := by
  induction h generalizing pre before with
  | @stop b front gap t hgap hkind hlexeme hspan =>
    exact .inr (hgap.skipped hsplit hpre hb (by simp [hspan, Span.ofText]))
  | @token b front gap rest t ts hgap hkind hlexeme hspan hnewline hrest ih =>
    rcases exists_of_append_eq hsplit with ⟨x, hx⟩ | ⟨x, rfl, htext⟩
    · refine .inr (hgap.skipped hx hpre hb (List.forall_mem_cons.2 ⟨by simp [hspan, Span.ofText], ?_⟩))
      intro u hu
      have hle := hrest.le_start u hu
      rw [Text.utf8Length_append] at hle
      omega
    · rcases exists_of_append_eq htext with ⟨y, hy⟩ | ⟨y, rfl, hafter⟩
      · have hc : 0 < c.utf8Size := c.utf8Size_pos
        refine .inl ⟨t, by simp, ?_, ?_⟩
        · simp only [hspan, Span.ofText, Text.utf8Length_append]
          omega
        · simp only [hspan, Span.ofText, hy, Text.utf8Length_append, Text.utf8Length_cons]
          omega
      · -- the token is one of those in front of the rest
        have hpre' : ∀ u ∈ pre ++ [t], u.span.stop ≤ utf8Length (front ++ gap ++ t.lexeme.toList) := by
          intro u hu
          rcases List.mem_append.1 hu with hu | hu
          · have hle := hpre u hu
            simp only [Text.utf8Length_append]
            omega
          · rw [List.mem_singleton.1 hu, hspan]
            rfl
        have hb' : Lexer.isNewline (some t) = true → ∃ pre' u, pre ++ [t] = pre' ++ [u] ∧ u.kind = .newline :=
          fun hline => ⟨pre, t, rfl, by simpa [Lexer.isNewline] using hline⟩
        have hcharacter := ih hafter hpre' hb'
        simpa only [List.append_assoc, List.singleton_append] using hcharacter

/-! ### The tokens of a program -/

/-- Tokens tile a program. -/
structure Tiling (source : List Char) (tokens : List Token) : Prop where
  /-- Each is some text of the program, with its region. -/
  covers : ∀ t ∈ tokens, ∃ front back,
    source = front ++ t.lexeme.toList ++ back ∧ t.span = .ofText front t.lexeme.toList
  ordered : tokens.Pairwise fun t u => t.span.stop ≤ u.span.start
  /-- The last one, and no other, is the end of the program; the others are not empty. -/
  stop : ∃ inner stop, tokens = inner ++ [stop] ∧ (∀ t ∈ inner, t.kind ≠ .eof ∧ t.span.start < t.span.stop) ∧
    stop.kind = .eof ∧ stop.span = .ofText source []
  newlines : tokens.IsChain fun t u => ¬(t.kind = .newline ∧ u.kind = .newline)
  /-- What is in no token is a blank, a comment or one more line break. -/
  gaps : ∀ before c after, source = before ++ c :: after →
    (∃ t ∈ tokens, t.span.start ≤ utf8Length before ∧ utf8Length before < t.span.stop) ∨ Skipped tokens before c

theorem Tiles.tiling (h : Tiles false [] s ts) : Tiling s ts where
  covers := by
    intro t ht
    obtain ⟨x, y, hs, hspan⟩ := h.covers t ht
    exact ⟨x, y, by rw [hs, List.append_assoc], hspan⟩
  ordered := h.pairwise
  stop := h.exists_stop
  newlines := h.isChain.1
  gaps before c after hsplit := by
    have hfront : ∀ t ∈ ([] : List Token), t.span.stop ≤ utf8Length [] := by simp
    exact h.character hsplit hfront (by simp)

theorem Lexer.tiling_run (s : List Char) : Tiling s ((run none .origin s).map (·.token)) :=
  (tiles_run none [] s).tiling

/-- The tokens of a program tile it. -/
theorem tokenize_tiling (source : String) : Tiling source.toList (tokenize source).1 :=
  Lexer.tiling_run source.toList

end Reshape
