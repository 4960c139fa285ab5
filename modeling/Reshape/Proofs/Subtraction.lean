/-
Subtraction and blanks.

A minus in front of a digit is the sign of a number or an operator, and the token in front of it decides which.  Behind
a statement it is an operator, with blanks around it or without: the token that the statement stops at can end an
operand, and no token of the statement goes on into the minus.

* `Scan.number_of_token` — a token that is a number is scanned as one;
* `Lexer.run_append_of_last` — the tokens of a text that ends in a token, and of what stands right behind it;
* `Lexer.exists_run_minus`, `Lexer.exists_run_number` — a minus behind an operand, and a number;
* `subtraction_spacing` — a statement, a minus and a number, with any blanks around the minus.
-/
import Reshape.Proofs.Ending
import Reshape.Proofs.Spelling

namespace Reshape

namespace TokenKind

/-- Numbers, with a sign or without. -/
def isNumber : TokenKind → Bool
  | integer _ | float _ => true
  | _ => false

end TokenKind

/-- A token without its region. -/
def Token.written (t : Token) : TokenKind × String :=
  (t.kind, t.lexeme)

/-- The text is that of one token, a number without a sign. -/
structure UnsignedLiteral (n : String) (t : Token) : Prop where
  alone : ∃ stop, tokenize n = ([t, stop], [])
  whole : t.lexeme = n
  number : t.kind.isNumber = true
  unsigned : n.toList.head? ≠ some '-'

namespace Scan

/-- Only numbers are scanned as numbers. -/
theorem StartsNumber.of_scans {s rest : List Char} {kind : TokenKind} (h : Scans s kind rest)
    (hnumber : kind.isNumber = true) : StartsNumber s := by
  have hliteral : isLiteral kind = true := by
    cases kind with
    | integer i | float f => rfl
    | _ => cases hnumber
  cases h with
  | integer hs => exact hs
  | float hs => exact hs
  | word =>
    rw [isLiteral_wordKind] at hliteral
    cases hliteral
  | symbol hsymbol =>
    rw [isLiteral_of_symbol? hsymbol] at hliteral
    cases hliteral
  | root | path | string | timestamp | abortMarker => cases hnumber

theorem number_of_token {before : Before} {c : Char} {s rest : List Char} {kind : TokenKind}
    (h : token before (c :: s) = (.ok kind, rest)) (hnumber : kind.isNumber = true) (hc : c ≠ '-') :
    c.isDigit = true ∧ number (c :: s) = (.ok kind, rest) := by
  have hstarts := StartsNumber.of_scans (scans_of_token (List.cons_ne_nil c s) h) hnumber
  cases hstarts with
  | digit hdigit => exact ⟨hdigit, token_digit before hdigit s ▸ h⟩
  | minus hdigit => exact absurd rfl hc

theorem skipTrivia_blanks {lead : List Char} (hlead : ∀ c ∈ lead, c = ' ') (s : List Char) :
    skipTrivia (lead ++ s) = skipTrivia s := by
  induction lead with
  | nil => rfl
  | cons c lead ih =>
    obtain ⟨rfl, hblanks⟩ := List.forall_mem_cons.1 hlead
    rw [List.cons_append, skipTrivia, if_pos (show isSpace ' ' = true from rfl), ih hblanks]

theorem skipTrivia_cons {c : Char} (hspace : isSpace c = false) (hcomment : c ≠ '#') (s : List Char) :
    skipTrivia (c :: s) = c :: s := by
  rw [skipTrivia, if_neg (by simp [hspace]), if_neg hcomment]

theorem apart_minus {lead : List Char} (hlead : ∀ c ∈ lead, c = ' ') (s : List Char) : Apart (lead ++ '-' :: s) := by
  cases lead with
  | nil => exact .minus s
  | cons c lead =>
    obtain ⟨rfl, -⟩ := List.forall_mem_cons.1 hlead
    exact .blank _

end Scan

namespace Lexer

open Scan

/-- A bracket alone is a token. -/
theorem run_bracket (last : Option Token) (m : Mark) :
    ∃ l stop, run last m ['['] = [l, stop] ∧ l.token.kind = .lBracket := by
  have hscan : ∀ before, token before ['['] = (.ok .lBracket, []) := fun _ => rfl
  rw [run_of_ok (skipTrivia_cons rfl (by decide) []) (by simp) (hscan _), run_of_nil skipTrivia_nil]
  exact ⟨_, _, rfl, rfl⟩

/-- What stands right behind a token that a text ends in is scanned from there on. -/
theorem run_append_of_last {more : List Char} (hmore : Apart more) {last : Option Token} {m : Mark} {s : List Char}
    {front : List Lexeme} {l stop : Lexeme} (hrun : run last m s = front ++ [l, stop])
    (hclean : ∀ l ∈ run last m s, l.issue = none) (hkind : l.token.kind ≠ .lBracket)
    (hend : l.token.span.stop = (m.past s).offset) :
    run last m (s ++ more) = front ++ l :: run (some l.token) (m.past s) more := by
  fun_induction run last m s generalizing front with
  | case1 last m s trimmed m' =>
    have hlength := congrArg List.length hrun
    simp at hlength
  | case2 last m s trimmed m' c rest htrim hc =>
    rename_i ih
    obtain ⟨hc, hlast⟩ : c = '\n' ∧ isNewline last = true := by simpa using hc
    subst hc
    have hpast : (m'.next '\n').past rest = m.past s := past_of_newline htrim m
    rw [run_append_of_newline more htrim hlast, ← hpast]
    exact ih hrun hclean (by rw [hpast, hend])
  | case3 last m s trimmed m' c rest htrim hc kind rest' ht tok =>
    rename_i ih
    have hpast : (m'.past (between (c :: rest) rest')).past rest' = m.past s :=
      past_of_token htrim (suffix_of_scan ht) m
    obtain ⟨-, hcleanRest⟩ := List.forall_mem_cons.1 hclean
    cases front with
    | nil =>
      -- nothing is left behind the last token
      obtain ⟨rfl, -⟩ := List.cons.inj hrun
      have hnil : rest' = [] := by
        by_contra hne
        have hpos := Text.utf8Length_pos hne
        have hstop : tok.span.stop = (m'.past (between (c :: rest) rest')).offset := rfl
        rw [← hpast, Mark.past_offset, hstop] at hend
        omega
      subst hnil
      rw [Mark.past_nil] at hpast
      rw [run_append_of_ok hmore htrim hc ht (by simp), ← hpast]
      rfl
    | cons f front =>
      obtain ⟨rfl, htail⟩ := List.cons.inj hrun
      have hbracket : rest' ≠ ['['] := by
        rintro rfl
        obtain ⟨l', stop', hrun', hkind'⟩ := run_bracket (some tok) (m'.past (between (c :: rest) ['[']))
        rw [hrun', List.append_eq] at htail
        obtain rfl : front = [] := by
          have hlength := congrArg List.length htail
          simpa using hlength
        obtain ⟨rfl, -⟩ := List.cons.inj htail
        exact hkind hkind'
      rw [run_append_of_ok hmore htrim hc ht fun _ => hbracket, ← hpast, List.cons_append]
      exact congrArg _ (ih htail hcleanRest (by rw [hpast, hend]))
  | case4 =>
    have hnone := hclean _ List.mem_cons_self
    cases hnone

/-- A token behind blanks. -/
theorem exists_run_token {last : Option Token} {c : Char} {s rest lead : List Char} {kind : TokenKind} (m : Mark)
    (hlead : ∀ c ∈ lead, c = ' ') (hc : isSpace c = false ∧ c ≠ '#' ∧ c ≠ '\n')
    (ht : ∀ m, token (beforeAt last m) (c :: s) = (.ok kind, rest)) :
    ∃ t m', t.written = (kind, String.ofList (between (c :: s) rest)) ∧
      run last m (lead ++ c :: s) = ⟨t, none⟩ :: run (some t) m' rest := by
  have htrim : skipTrivia (lead ++ c :: s) = c :: s := by
    rw [skipTrivia_blanks hlead, skipTrivia_cons hc.1 hc.2.1]
  rw [run_of_ok htrim (by simp [hc.2.2]) (ht _)]
  exact ⟨_, _, rfl, rfl⟩

/-- Behind an operand a minus is an operator, whatever stands behind it. -/
theorem exists_run_minus {t : Token} (ht : t.kind.endsOperand = true) {lead : List Char} (m : Mark)
    (hlead : ∀ c ∈ lead, c = ' ') (s : List Char) :
    ∃ u m', u.written = (.minus, "-") ∧ run (some t) m (lead ++ '-' :: s) = ⟨u, none⟩ :: run (some u) m' s := by
  have hscan : ∀ m, token (beforeAt (some t) m) ('-' :: s) = (.ok .minus, s) := by
    intro m
    cases s with
    | nil => rfl
    | cons c s => simp [token, beforeAt, ht, symbol, symbol?]
  obtain ⟨u, m', hu, hrun⟩ := exists_run_token m hlead ⟨rfl, by decide, by decide⟩ hscan
  have hbetween : between ('-' :: s) s = ['-'] := between_eq rfl
  exact ⟨u, m', by rw [hu, hbetween], hrun⟩

theorem exists_run_number {c : Char} {s lead : List Char} {kind : TokenKind} (last : Option Token) (m : Mark)
    (hlead : ∀ c ∈ lead, c = ' ') (hc : c.isDigit = true) (hs : number (c :: s) = (.ok kind, [])) :
    ∃ t stop, t.written = (kind, String.ofList (c :: s)) ∧ stop.written = (.eof, "") ∧
      run last m (lead ++ c :: s) = [⟨t, none⟩, ⟨stop, none⟩] := by
  have hplain : isSpace c = false ∧ c ≠ '#' ∧ c ≠ '\n' := by
    refine ⟨?_, ?_, ?_⟩
    · by_contra hspace
      have hcases : (c = ' ' ∨ c = '\t') ∨ c = '\r' := by
        simpa only [isSpace, Bool.not_eq_false, Bool.or_eq_true, beq_iff_eq] using hspace
      rcases hcases with (rfl | rfl) | rfl
      all_goals cases hc
    all_goals
      rintro rfl
      cases hc
  have hscan : ∀ m, token (beforeAt last m) (c :: s) = (.ok kind, []) := fun m => by rw [token_digit _ hc, hs]
  obtain ⟨t, m', ht, hrun⟩ := exists_run_token m hlead hplain hscan
  have hbetween : between (c :: s) [] = c :: s := between_eq (List.append_nil _)
  rw [run_of_nil skipTrivia_nil] at hrun
  exact ⟨t, _, by rw [ht, hbetween], rfl, hrun⟩

/-- Behind a text that ends in an operand: a minus and a number, with blanks around the minus. -/
theorem exists_run_subtraction {s cs lead behind : List Char} {c : Char} {front : List Lexeme} {l stop : Lexeme}
    {kind : TokenKind} (hrun : run none .origin s = front ++ [l, stop])
    (hclean : ∀ l ∈ run none .origin s, l.issue = none) (hoperand : l.token.kind.endsOperand = true)
    (hend : l.token.span.stop = Text.utf8Length s) (hc : c.isDigit = true)
    (hcs : number (c :: cs) = (.ok kind, [])) (hlead : ∀ c ∈ lead, c = ' ') (hbehind : ∀ c ∈ behind, c = ' ') :
    ∃ u v w, u.written = (.minus, "-") ∧ v.written = (kind, String.ofList (c :: cs)) ∧ w.written = (.eof, "") ∧
      run none .origin (s ++ (lead ++ '-' :: (behind ++ c :: cs))) =
        front ++ [l, ⟨u, none⟩, ⟨v, none⟩, ⟨w, none⟩] := by
  have hoffset : l.token.span.stop = (Mark.origin.past s).offset := by rw [hend, Mark.past_origin]
  have hbracket : l.token.kind ≠ .lBracket := by
    intro hkind
    rw [hkind] at hoperand
    cases hoperand
  obtain ⟨u, m', hu, hminus⟩ := exists_run_minus hoperand (Mark.origin.past s) hlead (behind ++ c :: cs)
  obtain ⟨v, w, hv, hw, hnumber⟩ := exists_run_number (some u) m' hbehind hc hcs
  refine ⟨u, v, w, hu, hv, hw, ?_⟩
  rw [run_append_of_last (apart_minus hlead _) hrun hclean hbracket hoffset, hminus, hnumber]

end Lexer

open Lexer Scan

/-- A number that is a text of its own is scanned as it stands. -/
theorem UnsignedLiteral.scanned {n : String} {t : Token} (h : UnsignedLiteral n t) :
    ∃ c cs, n.toList = c :: cs ∧ c.isDigit = true ∧ Scan.number (c :: cs) = (.ok t.kind, []) := by
  obtain ⟨stop, halone⟩ := h.alone
  obtain ⟨htokens, hissues⟩ := Prod.mk.inj halone
  have hclean := List.filterMap_eq_nil_iff.1 hissues
  have hstart : ∀ c : Char, ¬(decide (c = '\n') && isNewline none) = true := by simp [isNewline]
  rcases htrim : skipTrivia n.toList with _ | ⟨c, rest⟩
  · rw [run_of_nil htrim] at htokens
    simp at htokens
  · rcases hscan : token (beforeAt none (tokenMark .origin n.toList)) (c :: rest) with ⟨e | kind, rest'⟩
    · rw [run_of_error htrim (hstart c) hscan] at hclean
      have hnone := hclean _ List.mem_cons_self
      cases hnone
    · rw [run_of_ok htrim (hstart c) hscan] at htokens
      obtain ⟨rfl, -⟩ := List.cons.inj htokens
      have hrest : rest' <:+ c :: rest := suffix_of_scan hscan
      have hsuffix : c :: rest <:+ n.toList := htrim ▸ skipTrivia_suffix n.toList
      -- its text is all of the text, so there is nothing in front of it and nothing behind
      have htext : between (c :: rest) rest' = n.toList := by
        rw [← h.whole]
        exact String.toList_ofList.symm
      have hlength := congrArg List.length (between_append_self hrest)
      rw [htext, List.length_append] at hlength
      have hle := hsuffix.length_le
      have hnil : rest' = [] := List.length_eq_zero_iff.1 (by omega)
      have hall : c :: rest = n.toList := hsuffix.eq_of_length (by omega)
      have hsign : c ≠ '-' := by
        rintro rfl
        exact h.unsigned (by rw [← hall]; rfl)
      obtain ⟨hdigit, hnumber⟩ := number_of_token hscan h.number hsign
      exact ⟨c, rest, hall.symm, hdigit, hnil ▸ hnumber⟩

/-- A minus with a blank on both sides of it, in front of it or on neither side. -/
theorem exists_blanks {w : String} (hw : w ∈ [" - ", " -", "-"]) :
    ∃ lead behind : List Char, w.toList = lead ++ '-' :: behind ∧ (∀ c ∈ lead, c = ' ') ∧ ∀ c ∈ behind, c = ' ' := by
  simp only [List.mem_cons, List.not_mem_nil, or_false] at hw
  rcases hw with rfl | rfl | rfl
  · exact ⟨[' '], [' '], rfl, by simp, by simp⟩
  · exact ⟨[' '], [], rfl, by simp, by simp⟩
  · exact ⟨[], [], rfl, by simp, by simp⟩

/-- A text that ends in its last token and is one statement, with no separator behind it, then a minus and a number: the
blanks around the minus make no difference, and the minus is an operator. -/
theorem subtraction_spacing {e n : String} {s : Expr} {front : List Token} {last stop t : Token}
    (hlex : (tokenize e).2 = []) (hparse : Expr.parse (tokenize e).1 = .ok ([s], []))
    (htokens : (tokenize e).1 = front ++ [last, stop]) (hend : last.span.stop = Text.utf8Length e.toList)
    (hlast : ¬last.Separates) (hn : UnsignedLiteral n t) :
    ∀ w ∈ [" - ", " -", "-"], (tokenize (e ++ w ++ n)).2 = [] ∧
      (tokenize (e ++ w ++ n)).1.map Token.written =
        (front ++ [last]).map Token.written ++ [(.minus, "-"), (t.kind, n), (.eof, "")] := by
  have hoperand := Expr.endsOperand_of_parse hlex hparse htokens hlast
  have hclean := List.filterMap_eq_nil_iff.1 hlex
  obtain ⟨lfront, lback, hrun, rfl, hback⟩ := List.map_eq_append_iff.1 htokens
  obtain ⟨l, lstop, rfl, rfl, rfl⟩ : ∃ l lstop, lback = [l, lstop] ∧ l.token = last ∧ lstop.token = stop := by
    rcases lback with _ | ⟨l, _ | ⟨lstop, _ | ⟨_, _⟩⟩⟩
    all_goals simp at hback
    exact ⟨l, lstop, rfl, hback.1, hback.2⟩
  have hissues : ∀ l' ∈ lfront ++ [l], l'.issue = none := by
    intro l' hl'
    refine hclean l' ?_
    rw [hrun, ← List.singleton_append, ← List.append_assoc]
    exact List.mem_append_left _ hl'
  obtain ⟨c, cs, hcs, hdigit, hnumber⟩ := hn.scanned
  intro w hw
  obtain ⟨lead, behind, hblanks, hlead, hbehind⟩ := exists_blanks hw
  obtain ⟨u, v, stop, hu, hv, hstop, hall⟩ :=
    exists_run_subtraction hrun hclean hoperand hend hdigit hnumber hlead hbehind
  have htext : (e ++ w ++ n).toList = e.toList ++ (lead ++ '-' :: (behind ++ c :: cs)) := by
    rw [String.toList_append, String.toList_append, hblanks, hcs]
    simp only [List.append_assoc, List.cons_append]
  rw [← hcs, String.ofList_toList] at hv
  rw [← htext] at hall
  rw [tokenize_of_run hall]
  constructor
  · refine List.filterMap_eq_nil_iff.2 fun l' hl' => ?_
    rw [← List.singleton_append, ← List.append_assoc] at hl'
    rcases List.mem_append.1 hl' with hl' | hl'
    · exact hissues l' hl'
    · simp only [List.mem_cons, List.not_mem_nil, or_false] at hl'
      rcases hl' with rfl | rfl | rfl
      all_goals rfl
  · simp [hu, hv, hstop]

/-- The text `10`. -/
theorem unsignedLiteral_ten : UnsignedLiteral "10" ⟨.integer 10, "10", ⟨0, 2, 1, 1⟩⟩ where
  alone := ⟨⟨.eof, "", ⟨2, 2, 1, 3⟩⟩, by decide +kernel⟩
  whole := rfl
  number := rfl
  unsigned := by decide

/-- An assignment that stops at an index, behind a comment. -/
theorem subtraction_spacing_index :
    let e := "# first\n.a = .b[0]"
    let front : List Token :=
      [⟨.newline, "\n", ⟨7, 8, 1, 8⟩⟩, ⟨.path [.key "a"], ".a", ⟨8, 10, 2, 1⟩⟩, ⟨.assign, "=", ⟨11, 12, 2, 4⟩⟩]
    let last : Token := ⟨.path [.key "b", .index 0], ".b[0]", ⟨13, 18, 2, 6⟩⟩
    let stop : Token := ⟨.eof, "", ⟨18, 18, 2, 11⟩⟩
    ∃ s, tokenize e = (front ++ [last, stop], []) ∧ Expr.parse (tokenize e).1 = .ok ([s], []) ∧ ¬last.Separates ∧
      ∀ w ∈ [" - ", " -", "-"], (tokenize (e ++ w ++ "10")).2 = [] ∧
        (tokenize (e ++ w ++ "10")).1.map Token.written =
          (front ++ [last]).map Token.written ++ [(.minus, "-"), (.integer 10, "10"), (.eof, "")] := by
  intro e front last stop
  have htokens : tokenize e = (front ++ [last, stop], []) := by decide +kernel
  obtain ⟨es, hparse, hlength⟩ : ∃ es, Expr.parse (tokenize e).1 = .ok (es, []) ∧ es.length = 1 :=
    Expr.exists_of_map_parse (by decide +kernel)
  have hlast : ¬last.Separates := by simp [Token.Separates, last]
  obtain ⟨s, rfl⟩ := List.length_eq_one_iff.1 hlength
  refine ⟨s, htokens, hparse, hlast, ?_⟩
  exact subtraction_spacing (congrArg Prod.snd htokens) hparse (congrArg Prod.fst htokens) (by decide +kernel)
    hlast unsignedLiteral_ten

/-- Behind a semicolon a statement starts, so that a minus right in front of a number is its sign. -/
theorem signed_behind_semicolon :
    let e := ".a;"
    let front : List Token := [⟨.path [.key "a"], ".a", ⟨0, 2, 1, 1⟩⟩]
    let last : Token := ⟨.semicolon, ";", ⟨2, 3, 1, 3⟩⟩
    let stop : Token := ⟨.eof, "", ⟨3, 3, 1, 4⟩⟩
    (tokenize e = (front ++ [last, stop], []) ∧ (∃ s, Expr.parse (tokenize e).1 = .ok ([s], [])) ∧
        last.span.stop = Text.utf8Length e.toList ∧ ∃ t, UnsignedLiteral "10" t) ∧
      (tokenize (e ++ " - " ++ "10")).1.map Token.written =
        (front ++ [last]).map Token.written ++ [(.minus, "-"), (.integer 10, "10"), (.eof, "")] ∧
      (tokenize (e ++ "-" ++ "10")).1.map Token.written =
        (front ++ [last]).map Token.written ++ [(.integer (-10), "-10"), (.eof, "")] := by
  intro e front last stop
  obtain ⟨es, hparse, hlength⟩ : ∃ es, Expr.parse (tokenize e).1 = .ok (es, []) ∧ es.length = 1 :=
    Expr.exists_of_map_parse (by decide +kernel)
  obtain ⟨s, rfl⟩ := List.length_eq_one_iff.1 hlength
  exact ⟨⟨by decide +kernel, ⟨s, hparse⟩, by decide +kernel, _, unsignedLiteral_ten⟩, by decide +kernel,
    by decide +kernel⟩

end Reshape
