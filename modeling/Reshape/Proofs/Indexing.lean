/-
Indices in brackets and what is written in them.

An index behind a value is a numeral in brackets.  It may have a sign of its own, and a minus may stand before it:
`[-1]` is two tokens in brackets or one, and `[- -1]` is an index from the front.  The lexer gives no integer but the
one that its text writes, and the readers take the index from the tokens in the brackets.  Of all integers that can be
written so, one has no room: a minus before the least integer overflows, and nothing of the program is read.

* `numbered_of_tokenize` — the integers of tokens;
* `Expr.indexSuffix_cases` — one index in brackets: it is read, or the statement is abandoned, or there is an overflow;
* `Building.accessed_closed` — what is accessed, in each construct;
* `Expr.indices_as_written` — all indices of a program.
-/
import Reshape.Proofs.Building
import Reshape.Proofs.Regions
import Reshape.Proofs.Termination

namespace Reshape

open Scan (isNumberChar)

/-! ### Numerals -/

/-- Digits, with underscores behind the first. -/
def IsDigits : List Char → Prop
  | [] => False
  | c :: cs => c.isDigit = true ∧ ∀ d ∈ cs, isNumberChar d = true

/-- The integer that a numeral writes, with a minus sign or none. -/
inductive Numeral : List Char → Int → Prop
  | unsigned {cs} : IsDigits cs → Numeral cs (digitsValue (cs.filter Char.isDigit))
  | minus {cs} : IsDigits cs → Numeral ('-' :: cs) (-digitsValue (cs.filter Char.isDigit))

namespace Scan

theorem isNumberChar_of_isDigit {c : Char} (h : c.isDigit = true) : isNumberChar c = true := by
  rw [isNumberChar, h, Bool.true_or]

theorem isDigits_takeWhile {c : Char} {s : List Char} (hc : c.isDigit = true) :
    IsDigits ((c :: s).takeWhile isNumberChar) := by
  rw [List.takeWhile_cons_of_pos (isNumberChar_of_isDigit hc)]
  exact ⟨hc, fun d hd => List.mem_takeWhile_imp hd⟩

/-- To leave out the underscores of digits is to keep the digits. -/
theorem filter_of_isDigits {cs : List Char} (h : IsDigits cs) : cs.filter (· != '_') = cs.filter Char.isDigit := by
  have hall : ∀ c ∈ cs, isNumberChar c = true := by
    cases cs with
    | nil => simp
    | cons c cs => exact List.forall_mem_cons.2 ⟨isNumberChar_of_isDigit h.1, h.2⟩
  refine List.filter_congr fun c hc => ?_
  have hchar := hall c hc
  rw [isNumberChar, Bool.or_eq_true, beq_iff_eq] at hchar
  rcases hchar with hdigit | rfl
  · rw [hdigit, bne_iff_ne]
    rintro rfl
    cases hdigit
  · rfl

theorem int64?_of_isDigits {cs : List Char} (h : IsDigits cs) :
    int64? (cs.filter Char.isDigit) = fit? (digitsValue (cs.filter Char.isDigit)) := by
  cases cs with
  | nil => cases h
  | cons c cs =>
    rw [List.filter_cons_of_pos h.1]
    unfold int64?
    split
    · rename_i heq
      obtain ⟨rfl, -⟩ := List.cons.inj heq
      cases h.1
    · rfl

theorem wholePart_of_digit {c : Char} {s : List Char} (hc : c.isDigit = true) :
    wholePart (c :: s) = (c :: s).takeWhile isNumberChar := by
  refine if_neg ?_
  rintro rfl
  cases hc

theorem isPrefix_wholePart (s : List Char) : wholePart s <+: s := by
  cases s with
  | nil => exact List.prefix_refl _
  | cons c s =>
    rw [wholePart]
    by_cases hc : c = '-'
    · rw [if_pos hc]
      exact List.cons_prefix_cons.2 ⟨rfl, List.takeWhile_prefix _⟩
    · rw [if_neg hc]
      exact List.takeWhile_prefix _

/-- The text of an integer writes it. -/
theorem numeral_of_wholePart {s : List Char} {i : Int64} (hs : StartsNumber s)
    (hi : int64? ((wholePart s).filter (· != '_')) = some i) : Numeral (wholePart s) i.toInt := by
  cases hs with
  | @minus c s hc =>
    have hdigits := isDigits_takeWhile (s := s) hc
    have hwhole : wholePart ('-' :: c :: s) = '-' :: (c :: s).takeWhile isNumberChar := rfl
    -- a sign and digits are read as the digits are, and negated before they have to fit
    rw [hwhole, List.filter_cons_of_pos (by decide), filter_of_isDigits hdigits] at hi
    rw [hwhole, toInt_of_fit? hi]
    exact .minus hdigits
  | @digit c s hc =>
    have hdigits := isDigits_takeWhile (s := s) hc
    rw [wholePart_of_digit hc] at hi ⊢
    rw [filter_of_isDigits hdigits, int64?_of_isDigits hdigits] at hi
    rw [toInt_of_fit? hi]
    exact .unsigned hdigits

/-- The text of an integer that is scanned writes it. -/
theorem Scans.numeral {s rest : List Char} {i : Int64} (h : Scans s (.integer i) rest) :
    Numeral (Lexer.between s rest) i.toInt := by
  generalize hkind : TokenKind.integer i = kind at h
  cases h with
  | integer hstarts hi =>
    obtain rfl := TokenKind.integer.inj hkind
    have hbetween : Lexer.between s (s.drop (wholePart s).length) = wholePart s :=
      Lexer.between_eq (List.prefix_iff_eq_append.1 (isPrefix_wholePart s))
    rw [hbetween]
    exact numeral_of_wholePart hstarts hi
  | word => cases (hkind ▸ isLiteral_wordKind _ : isLiteral (.integer i) = false)
  | symbol hsymbol => cases (hkind ▸ isLiteral_of_symbol? hsymbol : isLiteral (.integer i) = false)
  | _ => cases hkind

end Scan

/-! ### Tokens -/

/-- The text of an integer writes it. -/
def Token.Numbered (t : Token) : Prop :=
  ∀ i, t.kind = .integer i → Numeral t.lexeme.toList i.toInt

theorem numbered_of_tokenize {source : String} : ∀ t ∈ (tokenize source).1, t.Numbered := by
  refine forall_mem_tokenize Token.Numbered ?_ ?_ ?_ source
  · intro m i hi
    cases hi
  · rintro m s _ rest hscans i rfl
    rw [Lexer.tokenOf, String.toList_ofList]
    exact hscans.numeral
  · intro m s rest i hi
    cases hi

/-! ### Indices in brackets -/

/-- A token is an integer, and its text a numeral. -/
structure Token.Writes (t : Token) (n : Int) : Prop where
  kind : ∃ i, t.kind = .integer i
  text : Numeral t.lexeme.toList n

/-- Tokens that write an index: a numeral in brackets, with a minus before it or none. -/
inductive WritesIndex : List Token → Int → Prop
  | numeral {start number stop n} : start.kind = .lBracket → number.Writes n → stop.kind = .rBracket →
      WritesIndex [start, number, stop] n
  | minus {start sign number stop n} : start.kind = .lBracket → sign.kind = .minus → number.Writes n →
      stop.kind = .rBracket → WritesIndex [start, sign, number, stop] (-n)

/-- A reader gives up and says why, unless a token that is left is invalid. -/
structure Abandons {α : Type} (c : Cursor) (r : Option α × Cursor) : Prop where
  without : r.1 = none
  reason : (∃ d, r.2.notes = c.notes ++ [.diagnostic d]) ∨ r.2.notes = c.notes ∧ ∃ t ∈ c.tokens, t.kind = .invalid

theorem Cursor.tokens_advance {c : Cursor} {t : Token} {rest : List Token} (h : c.tokens = t :: rest)
    (ht : t.kind ≠ .eof) : c.advance.tokens = rest := by
  have hkind : c.kind ≠ .eof := (c.kind_cons h).trans_ne ht
  exact (List.cons.inj (h.symm.trans (advance_moves hkind).tokens)).2.symm

theorem Cursor.current_mem {c : Cursor} (h : c.kind ≠ .eof) : c.current ∈ c.tokens := by
  rw [(advance_moves h).tokens]
  exact List.mem_cons_self

section

open Parse

variable {α β : Type} {c c' : Cursor}

theorem Abandons.unexpected (expected : String) (c : Cursor) :
    Abandons c ((Parse.unexpected expected : Parse α).run c) := by
  refine ⟨rfl, ?_⟩
  have hrun : ((Parse.unexpected expected : Parse α).run c).2 = complain expected c := rfl
  rw [hrun]
  unfold complain
  dsimp only
  split
  · rename_i hinvalid
    have hkind : c.kind ≠ .eof := by
      rw [← Cursor.kind_current, hinvalid]
      nofun
    exact .inr ⟨rfl, c.current, Cursor.current_mem hkind, hinvalid⟩
  · exact .inl ⟨_, rfl⟩

/-- A reader that gives up behind a token. -/
theorem Abandons.of_advance {r : Option α × Cursor} (h : Abandons c.advance r) : Abandons c r := by
  obtain ⟨hnone, hreason⟩ := h
  rw [Cursor.notes_advance] at hreason
  refine ⟨hnone, hreason.imp_right ?_⟩
  rintro ⟨hnotes, t, ht, hinvalid⟩
  exact ⟨hnotes, t, c.advance_reads.left.subset ht, hinvalid⟩

theorem Abandons.bind {p : Parse α} {f : α → Parse β} (h : Abandons c (p.run c')) :
    Abandons c ((p >>= f).run c') := by
  rcases hp : p.run c' with ⟨_ | a, c₁⟩
  · rw [hp] at h
    rw [run_bind_none hp]
    exact ⟨rfl, h.reason⟩
  · rw [hp] at h
    cases h.without

theorem Abandons.expect {kind : TokenKind} (h : c.kind ≠ kind) (expected : String) :
    Abandons c ((Parse.expect kind expected).run c) := by
  rw [run_expect, if_neg h]
  exact .unexpected expected c

/-- To give up is not to overflow. -/
theorem Abandons.notes_ne {r : Option α × Cursor} (h : Abandons c r) : r.2.notes ≠ c.notes ++ [.overflow] := by
  rcases h.reason with ⟨d, hd⟩ | ⟨hnotes, -⟩
  · rw [hd]
    simp
  · rw [hnotes]
    simp

end

namespace Expr

open Parse

variable {c : Cursor}

/-- What stands in brackets behind a sign: the number and the closing bracket. -/
def signedIndex (negative : Bool) : Parse Int64 := do
  match (← cursor).kind with
  | .integer i =>
    let _ ← token
    let _ ← expect .rBracket "`]`"
    signed negative i
  | _ => unexpected "integer index"

/-- Behind a bracket a minus is a sign of the index. -/
theorem run_indexSuffix_of_minus (hkind : c.kind = .lBracket) (hsign : c.advance.kind = .minus) :
    indexSuffix.run c = (signedIndex true).run c.advance.advance := by
  have hexpect : (expect .lBracket "`[`").run c = (some c.current, c.advance) := if_pos hkind
  have haccept : (accept .minus).run c.advance = (some true, c.advance.advance) := if_pos hsign
  rw [indexSuffix_eq, run_bind_some hexpect, run_bind_some haccept]
  rfl

theorem run_indexSuffix_of_ne (hkind : c.kind = .lBracket) (hsign : c.advance.kind ≠ .minus) :
    indexSuffix.run c = (signedIndex false).run c.advance := by
  have hexpect : (expect .lBracket "`[`").run c = (some c.current, c.advance) := if_pos hkind
  have haccept : (accept .minus).run c.advance = (some false, c.advance) := if_neg hsign
  rw [indexSuffix_eq, run_bind_some hexpect, run_bind_some haccept]
  rfl

/-- Behind the number and its bracket nothing is left but to apply the sign. -/
theorem run_signedIndex {negative : Bool} {i : Int64} (hkind : c.kind = .integer i)
    (hstop : c.advance.kind = .rBracket) :
    (signedIndex negative).run c = (signed negative i).run c.advance.advance := by
  have hexpect : (expect .rBracket "`]`").run c.advance = (some c.advance.current, c.advance.advance) := if_pos hstop
  rw [signedIndex, run_cursor_bind, hkind]
  dsimp only
  rw [run_bind_some (run_token c), run_bind_some hexpect]

theorem signedIndex_cases (negative : Bool) (c : Cursor) :
    Abandons c ((signedIndex negative).run c) ∨
      ∃ i number stop c', (signedIndex negative).run c = (signed negative i).run c' ∧
        Moves c c' [number, stop] ∧ number.kind = .integer i ∧ stop.kind = .rBracket ∧ c'.notes = c.notes := by
  cases hkind : c.kind with
  | integer i =>
    by_cases hstop : c.advance.kind = .rBracket
    · have hnumber := Cursor.advance_moves (c := c) (by simp [hkind])
      have hmoves := hnumber.trans (Cursor.advance_moves (c := c.advance) (by simp [hstop]))
      refine .inr ⟨i, c.current, c.advance.current, _, run_signedIndex hkind hstop, hmoves, ?_, ?_, ?_⟩
      · rw [Cursor.kind_current, hkind]
      · rw [Cursor.kind_current, hstop]
      · rw [Cursor.notes_advance, Cursor.notes_advance]
    · rw [signedIndex, run_cursor_bind, hkind]
      dsimp only
      rw [run_bind_some (run_token c)]
      exact .inl (Abandons.of_advance (Abandons.bind (.expect hstop _)))
  | _ =>
    rw [signedIndex, run_cursor_bind, hkind]
    exact .inl (.unexpected _ c)

/-- Where an index is written, nothing is left but to apply the sign. -/
theorem exists_signed_of_writesIndex {front : List Token} {n : Int} (h : WritesIndex front n)
    (hfront : front <+: c.tokens) :
    ∃ negative i c', indexSuffix.run c = (signed negative i).run c' ∧ c'.notes = c.notes := by
  obtain ⟨rest, hrest⟩ := hfront
  have hsigned {d : Cursor} {number stop : Token} {rest : List Token} (negative : Bool)
      (hd : d.tokens = number :: stop :: rest) {i : Int64} (hi : number.kind = .integer i)
      (hstop : stop.kind = .rBracket) (hnotes : d.notes = c.notes) :
      ∃ negative' i' c', (signedIndex negative).run d = (signed negative' i').run c' ∧ c'.notes = c.notes := by
    have htokens : d.advance.tokens = stop :: rest := Cursor.tokens_advance hd (by simp [hi])
    refine ⟨negative, i, _, run_signedIndex ((d.kind_cons hd).trans hi)
      ((d.advance.kind_cons htokens).trans hstop), ?_⟩
    rw [Cursor.notes_advance, Cursor.notes_advance, hnotes]
  cases h with
  | @numeral start number stop _ hstart hnumber hstop =>
    obtain ⟨i, hi⟩ := hnumber.kind
    have htokens : c.advance.tokens = number :: stop :: rest := Cursor.tokens_advance hrest.symm (by simp [hstart])
    have hkind : c.advance.kind = .integer i := (c.advance.kind_cons htokens).trans hi
    rw [run_indexSuffix_of_ne ((c.kind_cons hrest.symm).trans hstart) (by simp [hkind])]
    exact hsigned false htokens hi hstop c.notes_advance
  | @minus start sign number stop _ hstart hsign hnumber hstop =>
    obtain ⟨i, hi⟩ := hnumber.kind
    have htokens : c.advance.tokens = sign :: number :: stop :: rest :=
      Cursor.tokens_advance hrest.symm (by simp [hstart])
    rw [run_indexSuffix_of_minus ((c.kind_cons hrest.symm).trans hstart) ((c.advance.kind_cons htokens).trans hsign)]
    refine hsigned true (Cursor.tokens_advance htokens (by simp [hsign])) hi hstop ?_
    rw [Cursor.notes_advance, Cursor.notes_advance]

/-- Where an index is written the statement is not abandoned. -/
theorem not_abandons_of_writesIndex {front : List Token} {n : Int} (h : WritesIndex front n)
    (hfront : front <+: c.tokens) : ¬Abandons c (indexSuffix.run c) := by
  obtain ⟨negative, i, c', hrun, hnotes⟩ := exists_signed_of_writesIndex h hfront
  intro habandons
  rw [hrun, run_signed] at habandons
  split at habandons
  · refine habandons.notes_ne ?_
    rw [← hnotes]
    rfl
  · cases habandons.without

/-- An index is read from the tokens that write it. -/
def ReadsIndex (c : Cursor) (r : Option Int64 × Cursor) : Prop :=
  ∃ i front c', r = (some i, c') ∧ Moves c c' front ∧ WritesIndex front i.toInt ∧ c'.notes = c.notes

/-- An index has no room, as it is the least integer behind a minus. -/
def OverflowsIndex (c : Cursor) (r : Option Int64 × Cursor) : Prop :=
  ∃ front, front <+: c.tokens ∧ WritesIndex front (-Int64.minValue.toInt) ∧
    front.map (·.kind) = [.lBracket, .minus, .integer Int64.minValue, .rBracket] ∧
    r.1 = none ∧ r.2.notes = c.notes ++ [.overflow]

/-- An index is read from the tokens that write it, or the statement is abandoned, or the index has no room. -/
theorem indexSuffix_cases (hc : ∀ t ∈ c.tokens, t.Numbered) (hkind : c.kind = .lBracket) :
    Abandons c (indexSuffix.run c) ∨ ReadsIndex c (indexSuffix.run c) ∨ OverflowsIndex c (indexSuffix.run c) := by
  have hstart : Moves c c.advance [c.current] := Cursor.advance_moves (by simp [hkind])
  have hcurrent : c.current.kind = .lBracket := by rw [Cursor.kind_current, hkind]
  have hwrites {t : Token} {front : List Token} {c' : Cursor} {i : Int64} (hmoves : Moves c c' front) (ht : t ∈ front)
      (hi : t.kind = .integer i) : t.Writes i.toInt :=
    ⟨⟨i, hi⟩, hc t (hmoves.tokens ▸ List.mem_append_left _ ht) i hi⟩
  -- a minus in the brackets is a token of its own only if the numeral does not have it
  by_cases hsign : c.advance.kind = .minus
  · rw [run_indexSuffix_of_minus hkind hsign]
    rcases signedIndex_cases true c.advance.advance with h | ⟨i, number, stop, c', hrun, hmoves, hnumber, hstop, hnotes⟩
    · exact .inl h.of_advance.of_advance
    · have hall := hstart.trans ((Cursor.advance_moves (c := c.advance) (by simp [hsign])).trans hmoves)
      have hminus : c.advance.current.kind = .minus := by rw [Cursor.kind_current, hsign]
      have hindex := WritesIndex.minus hcurrent hminus (hwrites hall (by simp) hnumber) hstop
      rw [Cursor.notes_advance, Cursor.notes_advance] at hnotes
      rw [hrun, run_signed]
      by_cases hi : i = Int64.minValue
      · subst hi
        rw [if_pos (And.intro rfl rfl)]
        refine .inr (.inr ⟨_, ⟨c'.tokens, hall.tokens.symm⟩, hindex, ?_, rfl, ?_⟩)
        · simp [hcurrent, hminus, hnumber, hstop]
        · rw [← hnotes]
          rfl
      · rw [if_neg fun h => hi h.2, if_pos rfl]
        rw [← toInt_of_fit? (fit?_neg hi)] at hindex
        exact .inr (.inl ⟨-i, _, c', rfl, hall, hindex, hnotes⟩)
  · rw [run_indexSuffix_of_ne hkind hsign]
    rcases signedIndex_cases false c.advance with h | ⟨i, number, stop, c', hrun, hmoves, hnumber, hstop, hnotes⟩
    · exact .inl h.of_advance
    · have hall := hstart.trans hmoves
      have hindex := WritesIndex.numeral hcurrent (hwrites hall (by simp) hnumber) hstop
      rw [Cursor.notes_advance] at hnotes
      rw [hrun, run_signed]
      exact .inr (.inl ⟨i, _, c', rfl, hall, hindex, hnotes⟩)

end Expr

/-! ### Expressions -/

/-- A path stands right behind an expression, as a path or as an index in brackets. -/
inductive Suffixed (tokens : List Token) (e : Expr) : Path → Prop
  | path {t p} : t ∈ tokens → t.kind = .path p → t.span.start = e.span.stop → Suffixed tokens e p
  | index {front i} : front <:+: tokens → WritesIndex front i.toInt →
      (∀ t ∈ front.head?, t.span.start = e.span.stop) → Suffixed tokens e [.index i]

namespace Expr

/-- Whatever is accessed in an expression, at any depth, stands behind it. -/
def Accesses (tokens : List Token) (e : Expr) : Prop :=
  ∀ span base p, e.HasPart (.access span base p) → Suffixed tokens base p

variable {tokens : List Token} {e : Expr}

theorem accesses_of_children (hown : ∀ span base p, e = .access span base p → Suffixed tokens base p)
    (h : ∀ c ∈ e.children, c.Accesses tokens) : e.Accesses tokens := by
  intro span base p hm
  cases hm with
  | self => exact hown span base p rfl
  | child hc hm => exact h _ hc span base p hm

theorem Accesses.child (h : e.Accesses tokens) {c : Expr} (hc : c ∈ e.children) : c.Accesses tokens :=
  fun span base p hm => h span base p (.child hc hm)

theorem Accesses.withSpan (h : e.Accesses tokens) (s : Span) : (e.withSpan s).Accesses tokens := by
  refine accesses_of_children (fun span base p heq => ?_) fun c hc => h.child (children_withSpan e s ▸ hc)
  cases e with
  | access span' base' p' =>
    obtain ⟨-, rfl, rfl⟩ : s = span ∧ base' = base ∧ p' = p := by simpa [Expr.withSpan] using heq
    exact h _ _ _ (.self _)
  | _ => simp [Expr.withSpan] at heq

theorem Accesses.applyPrefix (h : e.Accesses tokens) (op : UnaryOp) (s : Span) :
    (applyPrefix op s e).Accesses tokens := by
  unfold Expr.applyPrefix
  split
  · split
    · exact accesses_of_children nofun (List.forall_mem_singleton.2 h)
    · exact accesses_of_children nofun nofun
  · exact accesses_of_children nofun nofun
  · exact accesses_of_children nofun (List.forall_mem_singleton.2 h)

theorem suffixed_of_suffix? {c c' : Cursor} {read : Parse Path} {p : Path} (htokens : ∀ t ∈ tokens, t.Numbered)
    (hc : c.tokens <:+ tokens) (h : suffix? e c = some read) (hrun : read.run c = (some p, c')) :
    Suffixed tokens e p := by
  obtain ⟨hstart, ⟨hkind, -⟩ | ⟨hkind, i, hindex, rfl⟩⟩ := exists_of_suffix? h hrun
  · have hmem := hc.subset (Cursor.current_mem (by simp [hkind]))
    exact .path hmem (c.kind_current.trans hkind) hstart
  · rcases indexSuffix_cases (fun t ht => htokens t (hc.subset ht)) hkind with habandons | hreads | hover
    · rw [hindex] at habandons
      cases habandons.without
    · obtain ⟨j, front, c₁, hj, hmoves, hwrites, -⟩ := hreads
      obtain rfl : i = j := Option.some.inj (congrArg Prod.fst (hindex.symm.trans hj))
      have hfront : front <+: c.tokens := ⟨c₁.tokens, hmoves.tokens.symm⟩
      refine .index (hfront.isInfix.trans hc.isInfix) hwrites fun t ht => ?_
      have hcurrent : c.current = t := by
        obtain ⟨rest, rfl⟩ := List.head?_eq_some_iff.1 ht
        rw [Cursor.current, hmoves.tokens]
        rfl
      rw [← hcurrent, hstart]
    · obtain ⟨front, -, -, -, hnone, -⟩ := hover
      rw [hindex] at hnone
      cases hnone

end Expr

namespace Building

/-- What is read from the tokens of a program that numbers write. -/
def accessed (tokens : List Token) : Building where
  cursor c := c.tokens <:+ tokens
  path _ := True
  name _ := True
  suffix := Suffixed tokens
  expression := Expr.Accesses tokens
  statement := Expr.Accesses tokens

open Reshape.Expr in
theorem accessed_closed {tokens : List Token} (h : ∀ t ∈ tokens, t.Numbered) : (accessed tokens).Closed where
  reads hc hreads := hreads.left.trans hc
  ofPath _ _ := trivial
  ofName _ _ := trivial
  ofSuffix hc hsuffix hrun := suffixed_of_suffix? h hc hsuffix hrun
  literal _ _ := accesses_of_children nofun nofun
  path _ := accesses_of_children nofun nofun
  array hitems := accesses_of_children nofun hitems
  object hentries := accesses_of_children nofun (List.forall_mem_map.2 hentries)
  access he hp := by
    refine accesses_of_children (fun span base p heq => ?_) (List.forall_mem_singleton.2 he)
    cases heq
    exact hp
  call _ _ harguments := accesses_of_children nofun harguments
  delete _ := accesses_of_children nofun nofun
  binary hl hr := accesses_of_children nofun (List.forall_mem_cons.2 ⟨hl, List.forall_mem_singleton.2 hr⟩)
  applyPrefix he := he.applyPrefix _ _
  branch hcondition hbody :=
    accesses_of_children nofun (List.forall_mem_cons.2 ⟨hcondition, List.forall_mem_append.2 ⟨hbody, nofun⟩⟩)
  branchElse hcondition hbody _ ha :=
    accesses_of_children nofun
      (List.forall_mem_cons.2 ⟨hcondition, List.forall_mem_append.2 ⟨hbody, List.forall_mem_singleton.2 ha⟩⟩)
  block hbody := accesses_of_children nofun hbody
  withSpan he := he.withSpan _
  statement he := he
  assign _ hvalue := accesses_of_children nofun (List.forall_mem_singleton.2 hvalue)
  assignPair _ _ hvalue := accesses_of_children nofun (List.forall_mem_singleton.2 hvalue)

end Building

namespace Expr

open Parse

/-- Whatever is accessed in a program stands behind it, and an index in brackets is the integer that is written, with
its signs.  Wherever a bracket stands such an index is read, or none is written and the statement is abandoned and a
diagnostic recorded, or the least integer stands there behind a minus, which ends the reading of all. -/
theorem indices_as_written (source : String) :
    (∀ es ds, parse (tokenize source).1 = .ok (es, ds) → ∀ e ∈ es, e.Accesses (tokenize source).1) ∧
      (∀ o, parse (tokenize source).1 = .error o → NegatesLeast (tokenize source).1) ∧
      ∀ c : Cursor, c.tokens <:+ (tokenize source).1 → c.kind = .lBracket →
        ReadsIndex c (indexSuffix.run c) ∨
          ((indexSuffix.run c).1 = none ∧ (∀ front n, WritesIndex front n → ¬front <+: c.tokens) ∧
            ((∃ d, (indexSuffix.run c).2.notes = c.notes ++ [.diagnostic d]) ∨
              (indexSuffix.run c).2.notes = c.notes ∧ (tokenize source).2 ≠ [])) ∨
          OverflowsIndex c (indexSuffix.run c) := by
  have hnumbered : ∀ t ∈ (tokenize source).1, t.Numbered := numbered_of_tokenize
  have hstart := start_tokenize source
  refine ⟨fun es ds hparse => ?_, fun o hparse => ?_, fun c hc hkind => ?_⟩
  · exact parse_build (Building.accessed_closed hnumbered) ⟨[], hstart⟩ hparse
  · rw [← hstart]
    exact negatesLeast_of_parse hparse
  · rcases indexSuffix_cases (fun t ht => hnumbered t (hc.subset ht)) hkind with habandons | hreads | hover
    · refine .inr (.inl ⟨habandons.without, ?_, habandons.reason.imp_right ?_⟩)
      · intro front n hwrites hfront
        exact not_abandons_of_writesIndex hwrites hfront habandons
      · rintro ⟨hnotes, t, ht, hinvalid⟩
        exact ⟨hnotes, fun hclean => kind_ne_invalid_of_tokenize hclean t (hc.subset ht) hinvalid⟩
    · exact .inl hreads
    · exact .inr (.inr hover)

theorem eq_access_of_map {es : List Expr} {p : Path}
    (h : es.map (fun e => match e with | .access _ _ p => some p | _ => none) = [some p]) :
    ∃ span base, es = [.access span base p] := by
  obtain ⟨e, rest, rfl, hpath, hrest⟩ := List.map_eq_cons_iff.1 h
  obtain rfl := List.map_eq_nil_iff.1 hrest
  cases e with
  | access span base p' =>
    obtain rfl := Option.some.inj hpath
    exact ⟨span, base, rfl⟩
  | _ => cases hpath

/-- Two signs leave an index as it is. -/
theorem indices_two_signs :
    let tokens := (tokenize "f()[- -2]").1
    ∃ span base, parse tokens = .ok ([.access span base [.index 2]], []) ∧ Suffixed tokens base [.index 2] := by
  intro tokens
  obtain ⟨es, hparse, hpaths⟩ : ∃ es, parse tokens = .ok (es, []) ∧
      es.map (fun e => match e with | .access _ _ p => some p | _ => none) = [some [.index 2]] :=
    exists_of_map_parse (by decide +kernel)
  obtain ⟨span, base, rfl⟩ := eq_access_of_map hpaths
  exact ⟨span, base, hparse, (indices_as_written "f()[- -2]").1 _ _ hparse _ List.mem_cons_self span base _ (.self _)⟩

/-- Two signs before the least integer write an index that has no room: nothing is read and nothing reported. -/
theorem indices_least_negated :
    let source := "f()[- -9223372036854775808]"
    let tokens := (tokenize source).1
    (tokenize source).2 = [] ∧ WritesIndex ((tokens.drop 3).take 4) (-Int64.minValue.toInt) ∧
      parse tokens = .error ⟨⟩ := by
  intro source tokens
  have htexts : ((tokens.drop 3).take 4).map (fun t => (t.kind, t.lexeme)) =
      [(.lBracket, "["), (.minus, "-"), (.integer Int64.minValue, "-9223372036854775808"), (.rBracket, "]")] := by
    decide +kernel
  refine ⟨by decide +kernel, ?_, parse_eq_error_of_map (by decide +kernel)⟩
  simp only [List.map_eq_cons_iff, List.map_eq_nil_iff, Prod.mk.injEq] at htexts
  obtain ⟨start, _, htake, ⟨hstart, -⟩, sign, _, rfl, ⟨hsign, -⟩, number, _, rfl, ⟨hkind, hnumber⟩, stop, _, rfl,
    ⟨hstop, -⟩, rfl⟩ := htexts
  have hdigits : IsDigits "9223372036854775808".toList := ⟨rfl, List.all_eq_true.1 rfl⟩
  have hnumeral : Numeral number.lexeme.toList Int64.minValue.toInt := by
    rw [hnumber]
    exact .minus hdigits
  rw [htake]
  exact .minus hstart hsign ⟨⟨_, hkind⟩, hnumeral⟩ hstop

end Expr

end Reshape
