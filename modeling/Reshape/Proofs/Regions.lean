/-
The regions of a program.

Nothing that is written in a program is lost: its tokens, separators apart, lie in its statements, each in one, and
what a statement is made of lies in its region in turn.

* `Lines` — statements one by one, each on its tokens, with separators between them;
* `Expr.lines_of_statements` — what a program without a diagnostic is read into;
* `parse_regions` — what that says of regions alone.
-/
import Reshape.Proofs.Taking
import Reshape.Proofs.Tiling

namespace Reshape

/-- The region lies in the other. -/
def Span.Inside (s s' : Span) : Prop :=
  s'.start ≤ s.start ∧ s.stop ≤ s'.stop

instance (s s' : Span) : Decidable (s.Inside s') :=
  inferInstanceAs (Decidable (_ ∧ _))

/-- A token between statements, or behind the last of them. -/
def Token.Separates (t : Token) : Prop :=
  t.kind = .newline ∨ t.kind = .semicolon ∨ t.kind = .eof

namespace Expr

/-- The tokens are those of the statements, one behind the other, and else such as separate them. -/
inductive Lines : List Token → List Expr → Prop
  | stop {ts} : (∀ t ∈ ts, t.Separates) → Lines ts []
  | cons {gap own rest e es} : (∀ t ∈ gap, t.Separates) → (∀ t ∈ own, t.kind ≠ .eof) → Placed own e → Lines rest es →
      Lines (gap ++ (own ++ rest)) (e :: es)

variable {ts : List Token} {es : List Expr}

theorem Lines.all (h : Lines ts es) : PlacedAll ts es := by
  induction h with
  | stop => exact .nil _
  | cons hgap hown he _ ih => exact (he.all.append ih).lead _

theorem Lines.exists_placed (h : Lines ts es) :
    ∀ e ∈ es, ∃ own, own <:+: ts ∧ (∀ t ∈ own, t.kind ≠ .eof) ∧ Placed own e := by
  induction h with
  | stop => simp
  | @cons gap own rest e es hgap hown he hrest ih =>
    refine List.forall_mem_cons.2 ⟨⟨own, ⟨gap, rest, List.append_assoc ..⟩, hown, he⟩, fun e' he' => ?_⟩
    obtain ⟨own', hown', hplaced⟩ := ih e' he'
    have hsuffix : rest <:+ gap ++ (own ++ rest) := (List.suffix_append own rest).trans (List.suffix_append gap _)
    exact ⟨own', hown'.trans hsuffix.isInfix, hplaced⟩

/-- A token that separates no statements is in one of them, and in no other. -/
theorem Lines.countP_inside (h : Lines ts es) (hts : InOrder ts) {t : Token} (ht : t ∈ ts) (hkind : ¬t.Separates) :
    es.countP (fun e => t.span.Inside e.span) = 1 := by
  have heof : t.kind ≠ .eof := fun heof => hkind (.inr (.inr heof))
  have hproper := hts.proper t ht heof
  induction h with
  | stop hsep => exact absurd (hsep t ht) hkind
  | @cons gap own rest e es hgap hown he hrest ih =>
    have htail : InOrder (own ++ rest) := hts.of_infix (List.suffix_append gap _).isInfix
    have hapart := (List.pairwise_append.1 htail.apart).2.2
    obtain ⟨first, last, hfirst, hlast, hspan⟩ := he.region
    rcases List.mem_append.1 ht with hmem | hmem
    · exact absurd (hgap t hmem) hkind
    · rcases List.mem_append.1 hmem with hmem | hmem
      · -- the statements behind this one start behind the token
        have hothers : es.countP (fun e => t.span.Inside e.span) = 0 := by
          rw [List.countP_eq_zero]
          intro e' he'
          obtain ⟨own', hown', hplaced⟩ := hrest.all.each e' he'
          obtain ⟨first', last', hfirst', -, hspan'⟩ := hplaced.region
          have hbehind := hapart t hmem first' (hown'.subset (List.mem_of_head? hfirst'))
          simp only [Span.Inside, hspan', decide_eq_true_eq]
          omega
        have hordered : Ordered own := (htail.of_infix (List.prefix_append own rest).isInfix).ordered hown
        have hinside : t.span.Inside e.span := by
          rw [hspan]
          exact ⟨hordered.start_le hfirst hmem, hordered.le_stop hlast hmem⟩
        rw [List.countP_cons, hothers, if_pos (by simpa using hinside)]
      · have houtside : ¬t.span.Inside e.span := by
          have hbehind := hapart last (List.mem_of_getLast? hlast) t hmem
          simp only [Span.Inside, hspan]
          omega
        rw [List.countP_cons, if_neg (by simpa using houtside)]
        exact ih (htail.of_infix (List.suffix_append own rest).isInfix) hmem

open Parse

/-- Nothing stands behind the end. -/
def Ended (ts : List Token) : Prop :=
  ∀ t rest, t :: rest <:+ ts → t.kind = .eof → rest = []

theorem ended_of_stop {inner : List Token} {stop : Token} (h : ∀ t ∈ inner, t.kind ≠ .eof) :
    Ended (inner ++ [stop]) := by
  rintro t rest ⟨front, hfront⟩ heof
  rcases List.eq_nil_or_concat rest with hrest | ⟨rest', last, rfl⟩
  · exact hrest
  · have hinner : front ++ (t :: rest') = inner := by
      have hcut : (front ++ t :: rest') ++ [last] = inner ++ [stop] := by simpa using hfront
      exact (List.append_inj' hcut rfl).1
    exact absurd heof (h t (hinner ▸ by simp))

/-- Statements without a diagnostic, up to the end of the program. -/
theorem lines_of_statements {fuel : Nat} {c c' : Cursor} (hc : c.Valid) (hfuel : Fed 6 fuel c)
    (h : (statements fuel false).run c = (some es, c')) (hclean : c'.notes = []) (hended : Ended c.tokens)
    (horder : c.InOrder) : Lines c.tokens es := by
  induction fuel generalizing c es with
  | zero => simp [Fed] at hfuel
  | succ fuel ih =>
    obtain ⟨seps, h₀, hseps⟩ := c.exists_skipSeparators_moves
    have hsep : ∀ t ∈ seps, t.Separates := fun t ht => (hseps t ht).imp_right .inl
    have hle := c.skipSeparators_reads.length_le
    rcases exists_of_statements hc hfuel h hclean with ⟨hstops, rfl, rfl⟩ | ⟨e, c₁, rest, -, -, he, -, hrest, rfl⟩
    · -- the end is the only token left
      have heof : c.skipSeparators.kind = .eof := by simpa [Stops] using hstops
      refine .stop ?_
      rw [h₀.tokens]
      refine List.forall_mem_append.2 ⟨hsep, ?_⟩
      cases htokens : c.skipSeparators.tokens with
      | nil => simp
      | cons t more =>
        rw [Cursor.kind_cons _ htokens] at heof
        have hsuffix : t :: more <:+ c.tokens := ⟨seps, by rw [h₀.tokens, htokens]⟩
        obtain rfl := hended t more hsuffix heof
        simpa using .inr (.inr heof)
    · have htake := (readersTake fuel).statement (h₀.inOrder horder)
      rw [he] at htake
      obtain ⟨own, h₁, hplaced⟩ := htake e rfl
      have hmoves := h₀.trans h₁
      have hsuffix : c₁.tokens <:+ c.tokens := ⟨seps ++ own, hmoves.tokens.symm⟩
      have hreads := c.skipSeparators_reads.trans (((readersRead fuel).statement _).to he)
      have hfed : Fed 6 fuel c₁ := by
        have hlt := ((readersRead fuel).statement c.skipSeparators).lt he
        simp only [Fed] at hfuel ⊢
        omega
      have hended₁ : Ended c₁.tokens := fun t more hmore => hended t more (hmore.trans hsuffix)
      have hlines := ih (hc.of_reads hreads) hfed hrest hended₁ (hmoves.inOrder horder)
      rw [h₀.tokens, h₁.tokens]
      exact .cons hsep h₁.inner hplaced hlines

end Expr

/-- A program that scans well has no invalid token. -/
theorem kind_ne_invalid_of_tokenize {source : String} (h : (tokenize source).2 = []) :
    ∀ t ∈ (tokenize source).1, t.kind ≠ .invalid := by
  intro t ht hinvalid
  obtain ⟨l, hl, rfl⟩ := List.mem_map.1 ht
  have hclean := List.filterMap_eq_nil_iff.1 h l hl
  exact (Lexer.run_kind l hl).1 hinvalid hclean

theorem Tiling.inOrder {source : List Char} {tokens : List Token} (h : Tiling source tokens) : InOrder tokens := by
  obtain ⟨inner, stop, rfl, hinner, hstop, -⟩ := h.stop
  refine ⟨h.ordered, List.forall_mem_append.2 ⟨fun t ht _ => (hinner t ht).2, ?_⟩⟩
  exact List.forall_mem_singleton.2 fun heof => absurd hstop heof

/-- The tokens of a program are all that its readers start from. -/
theorem start_tokenize (source : String) : (Cursor.start (tokenize source).1).tokens = (tokenize source).1 := by
  obtain ⟨inner, stop, htokens, -, hstop, -⟩ := (Lexer.tiling_run source.toList).stop
  have htokenize : (tokenize source).1 = inner ++ [stop] := htokens
  rw [htokenize, Cursor.start_of_eof hstop]

/-- From one token to another there is text of the program. -/
theorem Tiling.exists_ofText {source : List Char} {tokens : List Token} (h : Tiling source tokens) {s : Span}
    (hs : s.Bounded tokens) :
    ∃ front text back, source = front ++ text ++ back ∧ text ≠ [] ∧ s = .ofText front text := by
  obtain ⟨t, ht, hstart, hline, hcolumn⟩ := hs.start
  obtain ⟨u, hu, hstop⟩ := hs.stop
  have hproper := hs.proper
  obtain ⟨front, back, hfront, htspan⟩ := h.covers t ht
  obtain ⟨front', back', hfront', huspan⟩ := h.covers u hu
  have hprefix : front <+: source := ⟨t.lexeme.toList ++ back, by rw [hfront, List.append_assoc]⟩
  have hprefix' : front' ++ u.lexeme.toList <+: source := ⟨back', hfront'.symm⟩
  have hlt : Text.utf8Length front < Text.utf8Length (front' ++ u.lexeme.toList) := by
    rw [hstart, hstop, htspan, huspan] at hproper
    exact hproper
  -- of two pieces that the program starts with, the one that is shorter in bytes is in front of the other
  rcases List.prefix_or_prefix_of_prefix hprefix hprefix' with ⟨text, htext⟩ | ⟨more, hmore⟩
  · refine ⟨front, text, back', by rw [htext, hfront'], ?_, ?_⟩
    · rintro rfl
      rw [List.append_nil] at htext
      exact absurd hlt (by rw [htext]; exact Nat.lt_irrefl _)
    · rw [Span.ofText, htext]
      obtain ⟨start, stop, line, column⟩ := s
      simp only at hstart hstop hline hcolumn
      rw [hstart, hstop, hline, hcolumn, htspan, huspan]
      rfl
  · rw [← hmore, Text.utf8Length_append] at hlt
    omega

namespace Expr

/-- A program without a diagnostic is read by a run over its tokens that has fuel enough. -/
theorem exists_run_of_parse {source : String} {es : List Expr} (hlex : (tokenize source).2 = [])
    (hparse : parse (tokenize source).1 = .ok (es, [])) :
    ∃ (fuel : Nat) (c c' : Cursor), c.tokens = (tokenize source).1 ∧ c.Valid ∧ c.InOrder ∧ Fed 6 fuel c ∧
      (statements fuel false).run c = (some es, c') ∧ c'.notes = [] := by
  have htiling : Tiling source.toList (tokenize source).1 := Lexer.tiling_run source.toList
  have hvalid := kind_ne_invalid_of_tokenize hlex
  have horder := htiling.inOrder
  obtain ⟨inner, stop, htokens, -, hstop, -⟩ := htiling.stop
  rw [htokens] at hparse hvalid horder ⊢
  obtain ⟨c', hrun, hclean⟩ := (parse_eq hstop).1 hparse
  have hfed : Fed 6 (fuelFor (inner.length + 1)) ⟨inner ++ [stop], ⟨0, 0, 0, 0⟩, []⟩ := by
    simp only [Fed, fuelFor, List.length_append, List.length_singleton]
    omega
  exact ⟨_, ⟨inner ++ [stop], ⟨0, 0, 0, 0⟩, []⟩, c', rfl, hvalid, horder, hfed, hrun, hclean⟩

/-- The statements of a program without a diagnostic. -/
theorem lines_of_parse {source : String} {es : List Expr} (hlex : (tokenize source).2 = [])
    (hparse : parse (tokenize source).1 = .ok (es, [])) : Lines (tokenize source).1 es := by
  have htiling : Tiling source.toList (tokenize source).1 := Lexer.tiling_run source.toList
  obtain ⟨inner, stop, htokens, hinner, -⟩ := htiling.stop
  obtain ⟨fuel, c, c', hc, hvalid, horder, hfed, hrun, hclean⟩ := exists_run_of_parse hlex hparse
  have hended : Ended c.tokens := by
    rw [hc, htokens]
    exact ended_of_stop fun t ht => (hinner t ht).1
  rw [← hc]
  exact lines_of_statements hvalid hfed hrun hclean hended horder

end Expr

/-- In a program without a diagnostic, every token that separates no statements lies in one statement and in no other;
the statements lie one behind the other; and what an expression is made of, at any depth, is nested in it. -/
theorem parse_regions {source : String} {statements : List Expr} (hlex : (tokenize source).2 = [])
    (hparse : Expr.parse (tokenize source).1 = .ok (statements, [])) :
    let tokens := (tokenize source).1
    (∀ t ∈ tokens, ¬t.Separates → statements.countP (fun e => t.span.Inside e.span) = 1) ∧
      statements.Pairwise (fun e e' => e.span.stop ≤ e'.span.start) ∧
      ∀ e ∈ statements, ∀ m, e.HasPart m → m.Nested tokens := by
  intro tokens
  have horder : InOrder tokens := (Lexer.tiling_run source.toList).inOrder
  have hlines : Expr.Lines tokens statements := Expr.lines_of_parse hlex hparse
  refine ⟨fun t ht hkind => hlines.countP_inside horder ht hkind, ?_, ?_⟩
  · exact List.pairwise_map.1 (hlines.all.row.apart horder.apart)
  · intro e he m hm
    obtain ⟨own, hown, hinner, hplaced⟩ := hlines.exists_placed e he
    exact hplaced.nested hown ((horder.of_infix hown).ordered hinner) hm

/-- Groups, suffixes, line breaks in calls, an `else` on a line of its own and comments. -/
theorem parse_regions_nested :
    let source := ".a, .b = f!(\n  (.x)[0], -1,\n) # first\nif .c \x7b .d = [\x7b\"k\": .e\x7d] \x7d\nelse \x7b del(.f) \x7d"
    let tokens := (tokenize source).1
    (tokenize source).2 = [] ∧ ∃ statements, Expr.parse tokens = .ok (statements, []) ∧ statements.length = 2 ∧
      (∀ t ∈ tokens, ¬t.Separates → statements.countP (fun e => t.span.Inside e.span) = 1) ∧
      ∀ e ∈ statements, ∀ m, e.HasPart m → m.Nested tokens := by
  intro source tokens
  have hlex : (tokenize source).2 = [] := by decide +kernel
  obtain ⟨statements, hparse, hlength⟩ :
      ∃ statements, Expr.parse tokens = .ok (statements, []) ∧ statements.length = 2 :=
    Expr.exists_of_map_parse (by decide +kernel)
  obtain ⟨hcount, -, hnested⟩ := parse_regions hlex hparse
  exact ⟨hlex, statements, hparse, hlength, hcount, hnested⟩

end Reshape
