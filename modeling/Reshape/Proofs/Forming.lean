/-
What is read is formed.

The lexer gives no tokens but readable ones, invalid ones and the end: a path starts with a key, and a name is a word
that is no keyword.  From such tokens every reader makes `Formed` expressions, whatever its fuel and whether or not
anything is reported on the way.  Floats and timestamps are left aside, as they are not written here.

* `tokenize_sound` — the tokens of a text;
* `Building.formed_closed` — what is made of such tokens in one step;
* `Expr.parse_stated` — the statements of a text.
-/
import Reshape.Proofs.Building

namespace Reshape

/-! ### Tokens -/

/-- Neither a float nor a timestamp. -/
def TokenKind.IsPlain (k : TokenKind) : Prop :=
  (∀ f, k ≠ .float f) ∧ ∀ t, k ≠ .timestamp t

instance : DecidablePred TokenKind.IsPlain := fun k =>
  decidable_of_iff ((k matches .float _ | .timestamp _) = false) (by
    cases k with
    | _ => simp [TokenKind.IsPlain])

/-- A readable token, unless there is none: the text was no token, or had ended. -/
def TokenKind.Sound (k : TokenKind) : Prop :=
  k ≠ .eof → k ≠ .invalid → k.Readable

namespace Scan

theorem readable_symbol? {s : List Char} {kind : TokenKind} {width : Nat} (h : symbol? s = some (kind, width)) :
    kind.Readable := by
  unfold symbol? at h
  split at h
  all_goals first
    | (obtain ⟨rfl, -⟩ := Prod.mk.inj (Option.some.inj h)
       trivial)
    | cases h

/-- The first segment of a path is a key. -/
theorem rooted_segments {fuel : Nat} {s rest : List Char} {p : Path} (hs : startsKey s = true)
    (h : segments fuel s = (.ok p, rest)) : p.Rooted := by
  cases fuel with
  | zero =>
    obtain ⟨rfl, -⟩ : [] = p ∧ _ = rest := by simpa [segments] using h
    trivial
  | succ fuel =>
    rw [segments, segment?, if_pos hs, List.drop_one] at h
    rcases hkey : keyOrString s.tail with ⟨e | k, left⟩
    · simp [hkey, Except.map] at h
    · rcases hmore : segments fuel left with ⟨e | more, left'⟩
      · simp [hkey, hmore, Except.map] at h
      · obtain ⟨rfl, -⟩ : Segment.key k :: more = p ∧ _ = rest := by simpa [hkey, hmore, Except.map] using h
        trivial

theorem wordKind_cases (name : String) : wordKind name = .ident name ∨
    wordKind name ∈ [TokenKind.kwIf, .kwElse, .kwTrue, .kwFalse, .kwNull] := by
  unfold wordKind
  split
  all_goals simp

theorem readable_word {c : Char} {s : List Char} (hc : isIdentStart c = true) :
    (wordKind (String.ofList ((c :: s).takeWhile isIdentChar))).Readable := by
  have hchar : isIdentChar c = true := by
    simp only [isIdentStart, isIdentChar, Char.isAlphanum, Bool.or_eq_true] at hc ⊢
    exact hc.elim (fun h => .inl (.inl h)) .inr
  rw [List.takeWhile_cons_of_pos hchar]
  rcases wordKind_cases (String.ofList (c :: s.takeWhile isIdentChar)) with hword | hword
  · rw [hword]
    refine ⟨hword, ⟨c, _, String.toList_ofList, hc⟩, fun d hd => ?_⟩
    rw [String.toList_ofList, List.mem_cons] at hd
    rcases hd with rfl | hd
    · exact hchar
    · exact List.mem_takeWhile_imp hd
  · simp only [List.mem_cons, List.not_mem_nil, or_false] at hword
    rcases hword with h | h | h | h | h
    all_goals
      rw [h]
      trivial

/-- A scanned token is readable. -/
theorem Scans.readable {s rest : List Char} {kind : TokenKind} (h : Scans s kind rest) (hplain : kind.IsPlain) :
    kind.Readable := by
  cases h with
  | path hstarts hsegments => exact rooted_segments hstarts hsegments
  | timestamp => exact absurd rfl (hplain.2 _)
  | float => exact absurd rfl (hplain.1 _)
  | word hstart => exact readable_word hstart
  | symbol hsymbol => exact readable_symbol? hsymbol
  | root | string | integer | abortMarker => trivial

end Scan

/-- The tokens of a text are sound. -/
theorem tokenize_sound {source : String} (h : ∀ t ∈ (tokenize source).1, t.kind.IsPlain) :
    ∀ t ∈ (tokenize source).1, t.kind.Sound := by
  intro t ht
  refine forall_mem_tokenize (fun t => t.kind.IsPlain → t.kind.Sound) ?_ ?_ ?_ source t ht (h t ht)
  · intro m _ heof
    exact absurd rfl heof
  · intro m s kind rest hscans hplain _ _
    exact hscans.readable hplain
  · intro m s rest _ _ hinvalid
    exact absurd rfl hinvalid

/-! ### Steps from sound tokens -/

/-- The tokens left are sound. -/
def Cursor.Sound (c : Cursor) : Prop :=
  ∀ t ∈ c.tokens, t.kind.Sound

theorem Cursor.Sound.of_reads {c c' : Cursor} (hc : c.Sound) (h : Reads c c') : c'.Sound :=
  fun t ht => hc t (h.left.subset ht)

theorem Cursor.Sound.kind {c : Cursor} (hc : c.Sound) : c.kind.Sound := by
  cases h : c.tokens with
  | nil =>
    rw [show c.kind = .eof by simp [Cursor.kind, Cursor.kindAt, h]]
    exact fun heof => absurd rfl heof
  | cons t rest =>
    rw [c.kind_cons h]
    exact hc t (h ▸ List.mem_cons_self)

theorem Cursor.Sound.readable {c : Cursor} {k : TokenKind} (hc : c.Sound) (hk : c.kind = k) (heof : k ≠ .eof)
    (hinvalid : k ≠ .invalid) : k.Readable := by
  subst hk
  exact hc.kind heof hinvalid

namespace Expr

/-! ### Single expressions -/

theorem Formed.withSpan {e : Expr} (h : e.Formed) (s : Span) : (e.withSpan s).Formed := by
  cases h with
  | literal hv => exact .literal hv
  | array hitems => exact .array hitems
  | object hentries => exact .object hentries
  | path hp => exact .path hp
  | access hbase hp => exact .access hbase hp
  | call hname hdel harguments => exact .call hname hdel harguments
  | binary hl hr => exact .binary hl hr
  | unary hoperand hminus => exact .unary hoperand hminus
  | branch hc ht hb => exact .branch hc ht hb
  | branchElse hc ht hb halt ha => exact .branchElse hc ht hb halt ha
  | block ht hb => exact .block ht hb
  | delete hp => exact .delete hp

theorem Formed.targets_assigned {e : Expr} (h : e.Formed) : e.targets = [] ∧ e.assigned = e := by
  cases h with
  | _ => exact ⟨rfl, rfl⟩

theorem Formed.stated {e : Expr} (h : e.Formed) : e.Stated := by
  obtain ⟨htargets, hassigned⟩ := h.targets_assigned
  exact ⟨by simp [htargets], hassigned.symm ▸ h⟩

/-- A minus becomes a part of the number behind it, or can stand by itself. -/
theorem Formed.applyPrefix {e : Expr} (h : e.Formed) (op : UnaryOp) (s : Span) : (applyPrefix op s e).Formed := by
  unfold Expr.applyPrefix
  split
  · rename_i i
    split
    · rename_i hi
      exact .unary h fun s => by simp [Expr.applyPrefix, hi]
    · exact .literal trivial
  · cases h with
    | literal hv => cases hv
  · rename_i hinteger hfloat
    refine .unary h fun s => ?_
    unfold Expr.applyPrefix
    split
    · exact absurd rfl (hinteger _ _ rfl)
    · exact absurd rfl (hfloat _ _ rfl)
    · rfl

theorem formed_of_scalar {k : TokenKind} {v : Scalar} (hv : Scalar.ofToken? k = some v) (hk : k.Sound) (s : Span) :
    (literal s v).Formed := by
  refine .literal ?_
  cases k with
  | kwTrue | kwFalse | kwNull | string | integer =>
    obtain rfl := Option.some.inj hv
    trivial
  | float f => cases hk (by simp) (by simp)
  | timestamp t => cases hk (by simp) (by simp)
  | _ => cases hv

end Expr

/-! ### Readers -/

theorem Path.Rooted.trails {p : Path} (h : p.Rooted) (hne : p ≠ []) : p.Trails := by
  rcases p with _ | ⟨_ | _, _⟩
  · exact absurd rfl hne
  · trivial
  · cases h

namespace Building

/-- What is read from sound tokens. -/
def formed : Building where
  cursor := Cursor.Sound
  path := Path.Rooted
  name := Scan.IsName
  suffix _ := Path.Trails
  expression := Expr.Formed
  statement := Expr.Stated

theorem formed_closed : formed.Closed where
  reads := Cursor.Sound.of_reads
  ofPath hc hkind := hc.readable hkind nofun nofun
  ofName hc hkind := hc.readable hkind nofun nofun
  ofSuffix hc h hrun := by
    obtain ⟨-, ⟨hkind, hne⟩ | ⟨-, i, -, rfl⟩⟩ := Expr.exists_of_suffix? h hrun
    · have hrooted : Path.Rooted _ := hc.readable hkind nofun nofun
      exact hrooted.trails hne
    · trivial
  literal hc hv := Expr.formed_of_scalar hv hc.kind _
  path := .path
  array := .array
  object := .object
  access := .access
  call := .call
  delete h := by
    cases h with
    | path hp => exact .delete hp
  binary := .binary
  applyPrefix h := h.applyPrefix _ _
  branch hc hbody := .branch hc (fun e he => (hbody e he).targets) fun e he => (hbody e he).formed
  branchElse hc hbody hisAlternative ha :=
    .branchElse hc (fun e he => (hbody e he).targets) (fun e he => (hbody e he).formed) hisAlternative ha
  block hbody := .block (fun e he => (hbody e he).targets) fun e he => (hbody e he).formed
  withSpan h := h.withSpan _
  statement h := h.stated
  assign htarget hvalue := ⟨List.forall_mem_singleton.2 htarget, hvalue⟩
  assignPair hok herr hvalue := ⟨List.forall_mem_cons.2 ⟨hok, List.forall_mem_singleton.2 herr⟩, hvalue⟩

end Building

theorem Cursor.sound_start {ts : List Token} (h : ∀ t ∈ ts, t.kind.Sound) : (start ts).Sound := by
  have hend : ∀ span, (endToken span).kind.Sound := fun _ heof => absurd rfl heof
  unfold start
  dsimp only
  split
  · exact List.forall_mem_singleton.2 (hend _)
  · split
    · exact h
    · exact fun t ht => (List.mem_append.1 ht).elim (h t) fun ht => List.mem_singleton.1 ht ▸ hend _

/-- The statements of a text are as programs can have them, if it has no float and no timestamp. -/
theorem Expr.parse_stated {source : String} {es : List Expr} {ds : List Diagnostic}
    (h : ∀ t ∈ (tokenize source).1, t.kind.IsPlain) (hparse : parse (tokenize source).1 = .ok (es, ds)) :
    ∀ e ∈ es, e.Stated :=
  parse_build Building.formed_closed (Cursor.sound_start (tokenize_sound h)) hparse

end Reshape
