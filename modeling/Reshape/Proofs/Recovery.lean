/-
Behind an error.

Where a token is given up, the lexer goes on at the next line break or semicolon that stands in no quotes and no
comment.  Quoted text is skipped whole, whatever kind of literal it is, and a quote that nothing closes runs on to the
end of the program.  So an error hides nothing behind its line, unless the text skipped leaves a quote open: then the
text behind the line break is skipped too, and no diagnostic says so.

* `Scan.recover_append` — recovering stops before the line break when no quote is left open;
* `Scan.recover_append_of_endsQuoted` — it goes past the line break when one is;
* `lexedApart_iff_not_leavesQuoteOpen` — when two texts with a line break between them have the tokens and
  diagnostics of each.
-/
import Reshape.Proofs.Lexing

namespace Reshape

namespace Scan

/-! ### Quotes left open -/

/-- Inside of a quoted run, the text has no quote that closes it. -/
def staysQuoted (quote : Char) : List Char → Bool
  | [] => true
  | '\\' :: [] => true
  | '\\' :: _ :: rest => staysQuoted quote rest
  | c :: rest => if c = quote then false else staysQuoted quote rest

/-- Recovering in a text without braces comes to the end of the text inside of quotes. -/
def endsQuoted : List Char → Bool
  | [] => false
  | c :: rest =>
    if c = '\n' || c = ';' then false
    else if c = '"' || c = '\'' then staysQuoted c rest || endsQuoted (skipQuoted c rest)
    else if c = '#' then endsQuoted (rest.dropWhile (· != '\n'))
    else endsQuoted rest
termination_by s => s.length
decreasing_by
  · have := length_skipQuoted_le c rest
    simp; omega
  · have := length_dropWhile_le (· != '\n') rest
    simp; omega
  · simp

/-- The text has no braces. -/
def Braceless (s : List Char) : Prop :=
  ∀ c ∈ s, c ≠ '\x7b' ∧ c ≠ '\x7d'

-- by the characters of the text: there is also a search through all characters
instance (s : List Char) : Decidable (Braceless s) :=
  List.decidableBAll _ s

theorem Braceless.of_suffix {s rest : List Char} (hs : Braceless s) (h : rest <:+ s) : Braceless rest :=
  fun c hc => hs c (h.subset hc)

/-- A backslash is the only character that hides the next one. -/
theorem skipQuoted_cons {quote c : Char} (hc : c ≠ '\\') (s : List Char) :
    skipQuoted quote (c :: s) = if c = quote then s else skipQuoted quote s := by
  rw [skipQuoted]
  · exact fun hc' => absurd hc' hc
  · exact fun _ _ hc' => absurd hc' hc

theorem staysQuoted_cons {quote c : Char} (hc : c ≠ '\\') (s : List Char) :
    staysQuoted quote (c :: s) = if c = quote then false else staysQuoted quote s := by
  rw [staysQuoted]
  · exact fun hc' => absurd hc' hc
  · exact fun _ _ hc' => absurd hc' hc

/-- Characters inside of quotes come one by one, or two by two behind a backslash. -/
theorem quoted_induct {P : List Char → Prop} (nil : P []) (backslash : P ['\\'])
    (escape : ∀ c s, P s → P ('\\' :: c :: s)) (cons : ∀ c s, c ≠ '\\' → P s → P (c :: s)) (s : List Char) : P s := by
  induction hn : s.length using Nat.strongRecOn generalizing s with
  | _ n ih =>
    subst hn
    rcases s with _ | ⟨c, s⟩
    · exact nil
    · by_cases hc : c = '\\'
      · subst hc
        rcases s with _ | ⟨d, s⟩
        · exact backslash
        · exact escape d s (ih s.length (by simp only [List.length_cons]; omega) s rfl)
      · exact cons c s hc (ih s.length (by simp) s rfl)

/-- A quoted run that is closed ends where it did, whatever follows. -/
theorem skipQuoted_append {quote : Char} {s : List Char} (h : staysQuoted quote s = false) (t : List Char) :
    skipQuoted quote (s ++ t) = skipQuoted quote s ++ t := by
  induction s using quoted_induct with
  | nil => cases h
  | backslash => cases h
  | escape c s ih => exact ih h
  | cons c s hc ih =>
    rw [staysQuoted_cons hc] at h
    rw [List.cons_append, skipQuoted_cons hc, skipQuoted_cons hc]
    split
    · rfl
    · rename_i hquote
      rw [if_neg hquote] at h
      exact ih h

/-- One that is not closed takes all of the text, and the line break behind it. -/
theorem skipQuoted_append_of_staysQuoted {quote : Char} (hquote : quote ≠ '\n') {s : List Char}
    (h : staysQuoted quote s = true) (t : List Char) :
    skipQuoted quote s = [] ∧ (skipQuoted quote (s ++ '\n' :: t)).length ≤ t.length := by
  induction s using quoted_induct with
  | nil =>
    refine ⟨rfl, ?_⟩
    rw [List.nil_append, skipQuoted_cons (by decide), if_neg (Ne.symm hquote)]
    exact length_skipQuoted_le quote t
  | backslash => exact ⟨rfl, length_skipQuoted_le quote t⟩
  | escape c s ih => exact ih h
  | cons c s hc ih =>
    rw [staysQuoted_cons hc] at h
    rw [List.cons_append, skipQuoted_cons hc, skipQuoted_cons hc]
    split at h
    · cases h
    · rename_i hne
      rw [if_neg hne, if_neg hne]
      exact ih h

/-! ### Recovering before a line break -/

/-- What recovering does at one character, where there are no braces. -/
theorem recover_cons {c : Char} {s : List Char} (hopen : c ≠ '\x7b') (hclose : c ≠ '\x7d') :
    recover 0 (c :: s) =
      if c = '\n' || c = ';' then c :: s
      else if c = '"' || c = '\'' then recover 0 (skipQuoted c s)
      else if c = '#' then recover 0 (s.dropWhile (· != '\n'))
      else recover 0 s := by
  rw [recover]
  simp [hopen, hclose]

theorem recover_newline (t : List Char) : recover 0 ('\n' :: t) = '\n' :: t := by
  rw [recover_cons (by decide) (by decide)]
  rfl

/-- Recovering that leaves no quote open is over before the line break. -/
theorem recover_append (t : List Char) {s : List Char} (hbraces : Braceless s) (h : endsQuoted s = false) :
    recover 0 (s ++ '\n' :: t) = recover 0 s ++ '\n' :: t := by
  fun_induction endsQuoted s with
  | case1 =>
    rw [List.nil_append, recover_newline, recover]
    rfl
  | case2 c rest hstop =>
    obtain ⟨hopen, hclose⟩ := hbraces c List.mem_cons_self
    rw [List.cons_append, recover_cons hopen hclose, recover_cons hopen hclose, if_pos hstop, if_pos hstop]
    rfl
  | case3 c rest hstop hquote ih =>
    obtain ⟨hopen, hclose⟩ := hbraces c List.mem_cons_self
    obtain ⟨hclosed, hends⟩ := Bool.or_eq_false_iff.1 h
    have hrest : Braceless (skipQuoted c rest) :=
      hbraces.of_suffix ((skipQuoted_suffix c rest).trans (List.suffix_cons c rest))
    rw [List.cons_append, recover_cons hopen hclose, recover_cons hopen hclose, if_neg hstop, if_neg hstop,
      if_pos hquote, if_pos hquote, skipQuoted_append hclosed]
    exact ih hrest hends
  | case4 rest hstop hquote ih =>
    have hrest : Braceless (rest.dropWhile (· != '\n')) :=
      hbraces.of_suffix ((List.dropWhile_suffix _).trans (List.suffix_cons _ rest))
    rw [List.cons_append, recover_cons (by decide) (by decide), recover_cons (by decide) (by decide), if_neg hstop,
      if_neg hstop, if_neg hquote, if_neg hquote, if_pos rfl, if_pos rfl, dropWhile_append ('\n' :: t) rfl]
    exact ih hrest h
  | case5 c rest hstop hquote hcomment ih =>
    obtain ⟨hopen, hclose⟩ := hbraces c List.mem_cons_self
    rw [List.cons_append, recover_cons hopen hclose, recover_cons hopen hclose, if_neg hstop, if_neg hstop,
      if_neg hquote, if_neg hquote, if_neg hcomment, if_neg hcomment]
    exact ih (hbraces.of_suffix (List.suffix_cons c rest)) h

/-- Recovering that leaves a quote open takes all of the text, and the line break behind it. -/
theorem recover_append_of_endsQuoted (t : List Char) {s : List Char} (hbraces : Braceless s)
    (h : endsQuoted s = true) :
    recover 0 s = [] ∧ (recover 0 (s ++ '\n' :: t)).length ≤ t.length := by
  fun_induction endsQuoted s with
  | case1 => cases h
  | case2 c rest hstop => cases h
  | case3 c rest hstop hquote ih =>
    obtain ⟨hopen, hclose⟩ := hbraces c List.mem_cons_self
    have hrest : Braceless (skipQuoted c rest) :=
      hbraces.of_suffix ((skipQuoted_suffix c rest).trans (List.suffix_cons c rest))
    rw [List.cons_append, recover_cons hopen hclose, recover_cons hopen hclose, if_neg hstop, if_neg hstop,
      if_pos hquote, if_pos hquote]
    cases hstays : staysQuoted c rest with
    | true =>
      -- the quote that is open is this one
      have hne : c ≠ '\n' := by
        rintro rfl
        exact hstop rfl
      obtain ⟨hnil, hlen⟩ := skipQuoted_append_of_staysQuoted hne hstays t
      refine ⟨by rw [hnil, recover], ?_⟩
      exact Nat.le_trans (length_recover_le 0 _) hlen
    | false =>
      rw [hstays, Bool.false_or] at h
      rw [skipQuoted_append hstays]
      exact ih hrest h
  | case4 rest hstop hquote ih =>
    have hrest : Braceless (rest.dropWhile (· != '\n')) :=
      hbraces.of_suffix ((List.dropWhile_suffix _).trans (List.suffix_cons _ rest))
    rw [List.cons_append, recover_cons (by decide) (by decide), recover_cons (by decide) (by decide), if_neg hstop,
      if_neg hstop, if_neg hquote, if_neg hquote, if_pos rfl, if_pos rfl, dropWhile_append ('\n' :: t) rfl]
    exact ih hrest h
  | case5 c rest hstop hquote hcomment ih =>
    obtain ⟨hopen, hclose⟩ := hbraces c List.mem_cons_self
    rw [List.cons_append, recover_cons hopen hclose, recover_cons hopen hclose, if_neg hstop, if_neg hstop,
      if_neg hquote, if_neg hquote, if_neg hcomment, if_neg hcomment]
    exact ih (hbraces.of_suffix (List.suffix_cons c rest)) h

end Scan

namespace Lexer

open Scan

/-! ### Tokens given up before a line break -/

theorem GivesUp.suffix {last : Option Token} {m : Mark} {s left : List Char} (h : GivesUp last m s left) :
    left <:+ s := by
  induction h with
  | here htrim _ ht => exact suffix_of_token htrim ht
  | newline htrim _ _ ih => exact ih.trans ((List.suffix_cons _ _).trans (htrim ▸ skipTrivia_suffix _))
  | ok htrim _ ht _ ih => exact ih.trans (suffix_of_token htrim ht)
  | error htrim _ ht _ ih => exact ih.trans ((recover_suffix 0 _).trans (suffix_of_token htrim ht))

theorem not_givesUp_nil {last : Option Token} {m : Mark} {left : List Char} : ¬GivesUp last m [] left := by
  rintro (⟨htrim, -, -⟩ | ⟨htrim, -, -⟩ | ⟨htrim, -, -, -⟩ | ⟨htrim, -, -, -⟩)
  all_goals exact absurd (skipTrivia_nil.symm.trans htrim) (by simp)

/-- The lexer gives up a token of the text and leaves a quote open, up to the end of the text. -/
def LeavesQuoteOpen (s : List Char) : Prop :=
  ∃ left, GivesUp none Mark.origin s left ∧ endsQuoted left = true

/-- The last token of such a text is invalid, and it is longer when a line break and another text follow. -/
theorem run_append_of_endsQuoted (t : List Char) {last : Option Token} {m : Mark} {s left : List Char}
    (hbraces : Braceless s) (hstrings : ∀ l ∈ run last m s, Terminated l) (h : GivesUp last m s left)
    (hquoted : endsQuoted left = true) :
    ∃ (front : List Lexeme) (x stop y : Lexeme) (more : List Lexeme),
      run last m s = front ++ [x, stop] ∧ run last m (s ++ '\n' :: t) = front ++ y :: more ∧
        x.token.kind = .invalid ∧ stop.token.kind = .eof ∧ y.token.kind = .invalid ∧
        x.token.lexeme.length < y.token.lexeme.length := by
  induction h with
  | @here last m s c rest e left htrim hc ht =>
    obtain ⟨hnil, hlen⟩ :=
      recover_append_of_endsQuoted t (hbraces.of_suffix (suffix_of_token htrim ht)) hquoted
    have hrun := run_of_error htrim hc ht
    have hcode : e.code ≠ .unterminatedString := hstrings _ (hrun ▸ List.mem_cons_self) _ rfl
    have hmore := run_of_error (skipTrivia_append_of_cons ('\n' :: t) htrim) hc (token_append_of_error t ht hcode)
    rw [hnil, run_of_nil skipTrivia_nil] at hrun
    refine ⟨[], _, _, _, _, hrun, hmore, rfl, rfl, rfl, ?_⟩
    -- what is skipped takes the line break at least
    simp only [tokenOf, between, String.length_ofList, List.length_take, List.length_cons, List.length_append,
      List.length_nil]
    omega
  | newline htrim hlast _ ih =>
    rw [run_of_newline htrim hlast] at hstrings ⊢
    rw [run_append_of_newline ('\n' :: t) htrim hlast]
    exact ih (hbraces.of_suffix ((List.suffix_cons _ _).trans (htrim ▸ skipTrivia_suffix _))) hstrings hquoted
  | ok htrim hc ht _ ih =>
    have hrun := run_of_ok htrim hc ht
    have hstrings' := fun l hl => hstrings l (hrun ▸ List.mem_cons_of_mem _ hl)
    obtain ⟨front, x, stop, y, more, hfront, hmore, hkinds⟩ :=
      ih (hbraces.of_suffix (suffix_of_token htrim ht)) hstrings' hquoted
    refine ⟨⟨_, none⟩ :: front, x, stop, y, more, by rw [hrun, hfront]; rfl, ?_, hkinds⟩
    rw [run_append_of_ok (.newline t) htrim hc ht fun hm => absurd hm (next_newline_ne t), hmore]
    rfl
  | @error last m s c rest e rest' left htrim hc ht hup ih =>
    have hrest : Braceless rest' := hbraces.of_suffix (suffix_of_token htrim ht)
    have hrun := run_of_error htrim hc ht
    have hstrings' := fun l hl => hstrings l (hrun ▸ List.mem_cons_of_mem _ hl)
    have hcode : e.code ≠ .unterminatedString := hstrings _ (hrun ▸ List.mem_cons_self) _ rfl
    -- a quote left open here would leave no text for the token that is given up later
    have hclosed : endsQuoted rest' = false := by
      rw [Bool.eq_false_iff]
      intro hopen
      obtain ⟨hnil, -⟩ := recover_append_of_endsQuoted [] hrest hopen
      rw [hnil] at hup
      exact not_givesUp_nil hup
    obtain ⟨front, x, stop, y, more, hfront, hmore, hkinds⟩ :=
      ih (hrest.of_suffix (recover_suffix 0 rest')) hstrings' hquoted
    refine ⟨⟨_, some (diagnosticOf (tokenMark m s) (c :: rest) e)⟩ :: front, x, stop, y, more,
      by rw [hrun, hfront]; rfl, ?_, hkinds⟩
    rw [run_append_of_error t htrim hc ht hcode (recover_append t hrest hclosed), hmore]
    rfl

end Lexer

/-! ### Two texts -/

/-- A token that is no line break and not the end of the program. -/
def Token.IsContent (t : Token) : Prop :=
  t.kind ≠ .newline ∧ t.kind ≠ .eof

instance (t : Token) : Decidable t.IsContent :=
  inferInstanceAs (Decidable (_ ∧ _))

/-- The tokens of a text without line breaks and the end. -/
def content (source : String) : List Token :=
  (tokenize source).1.filter (·.IsContent)

/-- Two texts with a line break between them have the tokens and diagnostics of the first, and then those of the
second, further down. -/
structure LexedApart (a b : String) : Prop where
  tokens : content (a ++ "\n" ++ b) = content a ++ (content b).map (·.shift (.past a))
  diagnostics : (tokenize (a ++ "\n" ++ b)).2 = (tokenize a).2 ++ (tokenize b).2.map (·.shift (.past a))

instance (a b : String) : Decidable (LexedApart a b) :=
  decidable_of_iff
    (content (a ++ "\n" ++ b) = content a ++ (content b).map (·.shift (.past a)) ∧
      (tokenize (a ++ "\n" ++ b)).2 = (tokenize a).2 ++ (tokenize b).2.map (·.shift (.past a)))
    ⟨fun h => ⟨h.1, h.2⟩, fun h => ⟨h.tokens, h.diagnostics⟩⟩

namespace Lexer

/-- The tokens of some lexemes without line breaks and the end. -/
def contentOf (ls : List Lexeme) : List Token :=
  (ls.map (·.token)).filter (·.IsContent)

theorem contentOf_append (xs ys : List Lexeme) : contentOf (xs ++ ys) = contentOf xs ++ contentOf ys := by
  simp [contentOf]

theorem contentOf_shift (δ : Shift) (ls : List Lexeme) :
    contentOf (ls.map (·.shift δ)) = (contentOf ls).map (·.shift δ) := by
  simp only [contentOf, List.filter_map, List.map_map]
  rfl

theorem contentOf_eq_nil {ls : List Lexeme} (h : ∀ l ∈ ls, l.token.kind = .newline ∨ l.token.kind = .eof) :
    contentOf ls = [] := by
  rw [contentOf, List.filter_eq_nil_iff]
  intro t ht
  obtain ⟨l, hl, rfl⟩ := List.mem_map.1 ht
  rcases h l hl with hkind | hkind
  · simp [Token.IsContent, hkind]
  · simp [Token.IsContent, hkind]

theorem contentOf_cons_invalid {l : Lexeme} (h : l.token.kind = .invalid) (ls : List Lexeme) :
    contentOf (l :: ls) = l.token :: contentOf ls := by
  simp [contentOf, Token.IsContent, h]

theorem content_of_run {s : String} {ls : List Lexeme} (h : run none Mark.origin s.toList = ls) :
    content s = contentOf ls := by
  rw [content, tokenize_of_run h, contentOf]

theorem filterMap_issue_shift (δ : Shift) (ls : List Lexeme) :
    (ls.map (·.shift δ)).filterMap (·.issue) = (ls.filterMap (·.issue)).map (·.shift δ) := by
  simp [List.filterMap_map, List.map_filterMap, Lexeme.shift]

/-- Two texts of which the first leaves no quote open. -/
theorem lexedApart_of_not_leavesQuoteOpen {a b : String} (hbraces : Scan.Braceless a.toList)
    (hstrings : ∀ l ∈ run none Mark.origin a.toList, Terminated l) (h : ¬LeavesQuoteOpen a.toList) :
    LexedApart a b := by
  let nl : Token := ⟨.newline, "", default⟩
  have hrecovers : ∀ left, GivesUp none Mark.origin a.toList left →
      Scan.recover 0 (left ++ '\n' :: b.toList) = Scan.recover 0 left ++ '\n' :: b.toList := by
    intro left hleft
    have hends : Scan.endsQuoted left = false := by
      rw [Bool.eq_false_iff]
      exact fun hopen => h ⟨left, hleft, hopen⟩
    exact Scan.recover_append b.toList (hbraces.of_suffix hleft.suffix) hends
  obtain ⟨fa, ln, lead, hlines, -, hrunA, hrunB, hrun⟩ :=
    exists_run_join_of_recovers (show nl.kind = .newline from rfl) hstrings hrecovers
  have hln : contentOf ln = [] := contentOf_eq_nil fun l hl => .inl (hlines l (List.mem_append_left _ hl)).1
  have hlead : contentOf lead = [] := contentOf_eq_nil fun l hl => .inl (hlines l (List.mem_append_right _ hl)).1
  have hend : contentOf [endOf a] = [] := contentOf_eq_nil fun l hl => .inr (by rw [List.mem_singleton.1 hl]; rfl)
  have hissues : ∀ ls : List Lexeme, (∀ l ∈ ls, l ∈ ln ++ lead) → ls.filterMap (·.issue) = [] :=
    fun ls hls => List.filterMap_eq_nil_iff.2 fun l hl => (hlines l (hls l hl)).2
  constructor
  · rw [content_of_run hrun, content_of_run hrunA, content_of_run hrunB]
    simp only [contentOf_append, contentOf_shift, hln, hlead, hend, List.nil_append, List.append_nil]
  · rw [tokenize_of_run hrun, tokenize_of_run hrunA, tokenize_of_run hrunB]
    simp only [List.filterMap_append, filterMap_issue_shift, hissues ln fun l => List.mem_append_left _,
      hissues lead fun l => List.mem_append_right _, List.nil_append]
    simp [endOf]

/-- Two texts of which the first leaves a quote open. -/
theorem not_lexedApart_of_leavesQuoteOpen {a b : String} (hbraces : Scan.Braceless a.toList)
    (hstrings : ∀ l ∈ run none Mark.origin a.toList, Terminated l) (h : LeavesQuoteOpen a.toList) :
    ¬LexedApart a b := by
  obtain ⟨left, hleft, hquoted⟩ := h
  obtain ⟨front, x, stop, y, more, hrunA, hrun, hx, hstop, hy, hlen⟩ :=
    run_append_of_endsQuoted b.toList hbraces hstrings hleft hquoted
  have hjoined : run none Mark.origin (a ++ "\n" ++ b).toList = front ++ y :: more := by
    rw [← hrun, String.toList_append, String.toList_append, List.append_assoc]
    rfl
  intro hapart
  have htokens := hapart.tokens
  rw [content_of_run hrunA, content_of_run hjoined, contentOf_append, contentOf_append, contentOf_cons_invalid hx,
    contentOf_cons_invalid hy, List.append_assoc] at htokens
  -- the invalid tokens are at the same place
  have hxy : y.token = x.token := (List.cons.inj (List.append_cancel_left htokens)).1
  rw [hxy] at hlen
  exact Nat.lt_irrefl _ hlen

end Lexer

/-- A lexical error hides nothing behind the line break after its text, but for a quote that the text skipped
leaves open. -/
theorem lexedApart_iff_not_leavesQuoteOpen {a b : String} (hbraces : ∀ c ∈ a.toList, c ≠ '\x7b' ∧ c ≠ '\x7d')
    (hclosed : ∀ d ∈ (tokenize a).2, d.code ≠ .unterminatedString) :
    LexedApart a b ↔ ¬Lexer.LeavesQuoteOpen a.toList := by
  have hstrings : ∀ l ∈ Lexer.run none Mark.origin a.toList, Lexer.Terminated l := by
    intro l hl d hd
    exact hclosed d (List.mem_filterMap.2 ⟨l, hl, hd⟩)
  constructor
  · intro hapart hopen
    exact Lexer.not_lexedApart_of_leavesQuoteOpen hbraces hstrings hopen hapart
  · exact Lexer.lexedApart_of_not_leavesQuoteOpen hbraces hstrings

/-- A quote that is closed and one in a comment leave the next line alone, and so does the error there. -/
theorem lexedApart_closed_quotes :
    let a := ".a = 1 @ \"don't; \" + 2 # isn't"
    let b := "\n.b = 1x"
    (∀ c ∈ a.toList, c ≠ '\x7b' ∧ c ≠ '\x7d') ∧ (∀ d ∈ (tokenize a).2, d.code ≠ .unterminatedString) ∧
      LexedApart a b ∧ ¬Lexer.LeavesQuoteOpen a.toList := by
  intro a b
  have hbraces : Scan.Braceless a.toList := by decide
  have hclosed : ∀ d ∈ (tokenize a).2, d.code ≠ .unterminatedString := by decide +kernel
  have hapart : LexedApart a b := by decide +kernel
  exact ⟨hbraces, hclosed, hapart, (lexedApart_iff_not_leavesQuoteOpen hbraces hclosed).1 hapart⟩

/-- After text in single quotes, which is no token, the next line is lost, and no diagnostic says so: the lexer gives up
at the first quote, and recovers as if the second opened a quote. -/
theorem not_lexedApart_quoted :
    let a := ".a = 'x'"
    let b := ".b = 2"
    (∀ c ∈ a.toList, c ≠ '\x7b' ∧ c ≠ '\x7d') ∧ (∀ d ∈ (tokenize a).2, d.code ≠ .unterminatedString) ∧
      ¬LexedApart a b := by
  intro a b
  have hbraces : Scan.Braceless a.toList := by decide
  have hclosed : ∀ d ∈ (tokenize a).2, d.code ≠ .unterminatedString := by decide +kernel
  have hapart : ¬LexedApart a b := by decide +kernel
  exact ⟨hbraces, hclosed, hapart⟩

end Reshape
