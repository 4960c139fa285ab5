/-
Tokens that go on.

A program may be followed by another one, behind a line break.  Reading it then starts with the same tokens,
perhaps further down, and parts from them at a `Seam`, where the program alone ends.  Two cursors are `Alike`
when the same tokens are left up to the seam.  An outcome `Mirrors` another when both have a result, the same
up to regions, and leave cursors alike, provided that the first has noted nothing.

* `Alike.skipNewlines` — past line breaks, cursors are alike unless the program is at its end;
* `mirrors_bind` — steps in a row are mirrored if each step is.
-/
import Reshape.Proofs.Lexing
import Reshape.Proofs.Statements

namespace Reshape

open Parse

/-! ### Steps that lose no note -/

/-- The reader keeps what was noted before. -/
class Keeps {α : Type} (p : Parse α) : Prop where
  kept : ∀ c, c.notes <+: (p.run c).2.notes

section Keeps

variable {α β : Type}

theorem keeps_bind {p : Parse α} {f : α → Parse β} (hp : Keeps p) (hf : ∀ a, Keeps (f a)) :
    Keeps (p >>= f) where
  kept c := by
    have hpc := hp.kept c
    rcases h : p.run c with ⟨_ | a, c₁⟩
    · rw [run_bind_none h]
      rwa [h] at hpc
    · rw [run_bind_some h]
      rw [h] at hpc
      exact hpc.trans ((hf a).kept c₁)

instance (p : Parse α) (f : α → Parse β) [hp : Keeps p] [hf : ∀ a, Keeps (f a)] : Keeps (p >>= f) :=
  keeps_bind hp hf

instance (a : α) : Keeps (pure a : Parse α) := ⟨fun c => (Reads.refl c).kept⟩

instance : Keeps cursor := ⟨fun c => (Reads.refl c).kept⟩

instance : Keeps token := ⟨fun c => (token_reads c).kept⟩

instance : Keeps skipNewlines := ⟨fun c => (skipNewlines_reads c).kept⟩

instance (kind : TokenKind) (expected : String) : Keeps (expect kind expected) :=
  ⟨fun c => (expect_reads c kind expected).kept⟩

instance (kind : TokenKind) : Keeps (accept kind) := ⟨fun c => (accept_reads c kind).kept⟩

instance (expected : String) : Keeps (unexpected expected : Parse α) :=
  ⟨fun c => (unexpected_reads c expected).kept⟩

instance (code : Code) (message : String) (span : Span) (label : String) :
    Keeps (report code message span label : Parse α) :=
  ⟨fun c => (report_reads c code message span label).kept⟩

instance (b : Prop) [Decidable b] (p q : Parse α) [Keeps p] [Keeps q] : Keeps (if b then p else q) := by
  split
  · infer_instance
  · infer_instance

instance (p q : Parse α) [Keeps p] [Keeps q] : Keeps (Expr.onElse p q) where
  kept c := by
    rw [Expr.run_onElse]
    split
    · exact ((c.skipNewlines_reads.trans c.skipNewlines.advance_reads).kept).trans (Keeps.kept (p := p) _)
    · exact Keeps.kept (p := q) c

instance (close : TokenKind) (expected : String) (item : α) (p : Parse (List α)) [Keeps p] :
    Keeps (Expr.follow close expected item p) := by
  unfold Expr.follow
  infer_instance

variable (fuel : Nat)

instance (e : Expr) : Keeps (Expr.suffixes fuel e) := ⟨fun c => (Expr.suffixes_reads fuel e c).kept⟩

instance (negative : Bool) (i : Int64) : Keeps (Expr.signed negative i) :=
  ⟨fun c => (Expr.signed_reads negative i c).kept⟩

instance : Keeps Expr.indexSuffix := ⟨fun c => (Expr.indexSuffix_eats c).kept⟩

instance : Keeps Expr.target := ⟨fun c => (Expr.target_eats c).kept⟩

instance (level : Nat) : Keeps (Expr.expression fuel level) :=
  ⟨fun c => ((Expr.readersRead fuel).expression level c).kept⟩

instance (level : Nat) (e : Expr) : Keeps (Expr.operators fuel level e) :=
  ⟨fun c => ((Expr.readersRead fuel).operators level e c).kept⟩

instance (close : TokenKind) (expected : String) : Keeps (Expr.list fuel close expected) :=
  ⟨fun c => ((Expr.readersRead fuel).list close expected c).kept⟩

instance : Keeps (Expr.entries fuel) := ⟨fun c => ((Expr.readersRead fuel).entries c).kept⟩

instance : Keeps (Expr.braces fuel) := ⟨fun c => ((Expr.readersRead fuel).braces c).kept⟩

instance : Keeps (Expr.branching fuel) := ⟨fun c => ((Expr.readersRead fuel).branching c).kept⟩

instance : Keeps (Expr.alternative fuel) := by
  unfold Expr.alternative
  infer_instance

instance (inBlock : Bool) : Keeps (Expr.statements fuel inBlock) :=
  ⟨fun c => ((Expr.readersRead fuel).statements inBlock c).kept⟩

end Keeps

/-! ### Seams -/

/-- Where two lists of tokens part: the one ends there, perhaps after a line break, and what the other goes
on with is the end too, or stands behind a line break and is no `else`, or closes a parenthesis. -/
structure Seam where
  shift : Shift
  ends : List Token
  tail : List Token
  ends_eq : ∃ stop : Token, stop.kind = .eof ∧
    (ends = [stop] ∨ ∃ nl : Token, nl.kind = .newline ∧ ends = [nl, stop])
  tail_eq : ∃ t rest, tail = t :: rest ∧ (t.kind = .eof ∨ t.kind = .newline ∨ t.kind = .rParen)
  noElse : ∀ t rest, tail.dropWhile (·.kind == .newline) = t :: rest → t.kind ≠ .kwElse

/-- The same tokens are left up to the seam, and the second cursor has noted nothing. -/
structure Alike (S : Seam) (c d : Cursor) : Prop where
  clean : d.notes = []
  tokens : ∃ body : List Token, (∀ t ∈ body, t.Inner) ∧ c.tokens = body ++ S.ends ∧
    d.tokens = body.map (·.shift S.shift) ++ S.tail

namespace Alike

variable {S : Seam} {c d : Cursor}

theorem length (h : Alike S c d) :
    d.tokens.length + S.ends.length = c.tokens.length + S.tail.length := by
  obtain ⟨body, -, hc, hd⟩ := h.tokens
  simp [hc, hd]
  omega

theorem valid (h : Alike S c d) : c.Valid := by
  obtain ⟨body, hinner, hc, -⟩ := h.tokens
  obtain ⟨stop, hstop, hends⟩ := S.ends_eq
  intro t ht
  rw [hc] at ht
  rcases List.mem_append.1 ht with ht | ht
  · exact (hinner t ht).2
  · rcases hends with hends | ⟨nl, hnl, hends⟩
    · rw [hends, List.mem_singleton] at ht
      simp [ht, hstop]
    · rw [hends] at ht
      rcases List.mem_cons.1 ht with rfl | ht
      · simp [hnl]
      · simp [List.mem_singleton.1 ht, hstop]

/-- Both cursors are at the seam, where nothing can be read, or at the same token. -/
theorem ends_or_token (h : Alike S c d) :
    ((c.kind = .eof ∨ c.kind = .newline) ∧ (d.kind = .eof ∨ d.kind = .newline ∨ d.kind = .rParen)) ∨
      ∃ t : Token, t.Inner ∧ c.current = t ∧ d.current = t.shift S.shift ∧ c.kind = t.kind ∧
        d.kind = t.kind ∧ c.advance.last = t.span ∧ d.advance.last = t.span.shift S.shift ∧
        Alike S c.advance d.advance := by
  obtain ⟨body, hinner, hc, hd⟩ := h.tokens
  rcases body with _ | ⟨t, body⟩
  · left
    obtain ⟨stop, hstop, hends⟩ := S.ends_eq
    obtain ⟨t, rest, htail, ht⟩ := S.tail_eq
    refine ⟨?_, ?_⟩
    · rcases hends with hends | ⟨nl, hnl, hends⟩
      · exact .inl ((c.kind_cons (hc.trans hends)).trans hstop)
      · exact .inr ((c.kind_cons (hc.trans hends)).trans hnl)
    · have hkind := d.kind_cons (hd.trans htail)
      rwa [hkind]
  · right
    have ht := hinner t List.mem_cons_self
    refine ⟨t, ht, ?_, ?_, c.kind_cons hc, d.kind_cons (t := t.shift S.shift) hd, ?_, ?_, ?_, body, ?_, ?_, ?_⟩
    · simp [Cursor.current, hc]
    · simp [Cursor.current, hd]
    · simp [Cursor.advance, hc, ht.1]
    · simp [Cursor.advance, hd, ht.1]
    · simp [Cursor.advance, hd, ht.1, h.clean]
    · exact fun t' ht' => hinner t' (List.mem_cons_of_mem t ht')
    · simp [Cursor.advance, hc, ht.1]
    · simp [Cursor.advance, hd, ht.1]

/-- At a token that is no line break, cursors are before the seam. -/
theorem of_kind (h : Alike S c d) (heof : c.kind ≠ .eof) (hnewline : c.kind ≠ .newline) :
    d.kind = c.kind ∧ d.current = c.current.shift S.shift ∧
      d.advance.last = c.advance.last.shift S.shift ∧ Alike S c.advance d.advance := by
  rcases h.ends_or_token with ⟨hc, -⟩ | ⟨t, -, hc, hd, hkc, hkd, hlc, hld, hadvance⟩
  · exact (hc.elim heof hnewline).elim
  · refine ⟨hkd.trans hkc.symm, ?_, ?_, hadvance⟩
    · rw [hc, hd]
    · rw [hlc, hld]

/-- A kind that the second cursor sees with the first. -/
theorem kind_of (h : Alike S c d) {kind : TokenKind} (heof : kind ≠ .eof) (hnewline : kind ≠ .newline)
    (hkind : c.kind = kind) : d.kind = kind :=
  (h.of_kind (hkind ▸ heof) (hkind ▸ hnewline)).1.trans hkind

/-- No kind that the seam may have: both cursors see it or neither. -/
theorem kind_iff (h : Alike S c d) {kind : TokenKind} (heof : kind ≠ .eof) (hnewline : kind ≠ .newline)
    (hparen : kind ≠ .rParen) : d.kind = kind ↔ c.kind = kind := by
  rcases h.ends_or_token with ⟨hc, hd⟩ | ⟨t, -, -, -, hkc, hkd, -⟩
  · refine ⟨fun hk => ?_, fun hk => ?_⟩
    · rw [hk] at hd
      exact (hd.elim heof fun hd => hd.elim hnewline hparen).elim
    · rw [hk] at hc
      exact (hc.elim heof hnewline).elim
  · rw [hkc, hkd]

/-- Both cursors are at the seam, or see the same kind. -/
theorem tokens_or_kind (h : Alike S c d) :
    (c.tokens = S.ends ∧ d.tokens = S.tail) ∨ d.kind = c.kind := by
  obtain ⟨body, -, hc, hd⟩ := h.tokens
  rcases body with _ | ⟨t, body⟩
  · exact .inl ⟨hc, hd⟩
  · exact .inr ((d.kind_cons (t := t.shift S.shift) hd).trans (c.kind_cons hc).symm)

/-- What is the same for all that a seam may have is the same for both cursors. -/
theorem apply_kind {β : Type} (h : Alike S c d) (F : TokenKind → β) (hnewline : F .newline = F .eof)
    (hparen : F .rParen = F .eof) : F d.kind = F c.kind := by
  rcases h.ends_or_token with ⟨hc, hd⟩ | ⟨t, -, -, -, hkc, hkd, -⟩
  · have hc : F c.kind = F .eof := by
      rcases hc with hc | hc
      · rw [hc]
      · rw [hc, hnewline]
    have hd : F d.kind = F .eof := by
      rcases hd with hd | hd | hd
      · rw [hd]
      · rw [hd, hnewline]
      · rw [hd, hparen]
    rw [hc, hd]
  · rw [hkc, hkd]

/-- Past line breaks, and perhaps more, cursors are alike; or the program is at its end, and the other cursor
goes on from the seam. -/
theorem skipWhile {p : TokenKind → Bool} (hp : p .newline = true) (h : Alike S c d) :
    (Alike S (c.skipWhile p) (d.skipWhile p) ∧ p (c.skipWhile p).kind = false ∧
        (c.skipWhile p).kind ≠ .eof) ∨
      ((c.skipWhile p).kind = .eof ∧ ∃ last, d.skipWhile p = Cursor.skipWhile p ⟨S.tail, last, []⟩) := by
  obtain ⟨body, hinner, hc, hd⟩ := h.tokens
  let skips (t : Token) : Bool := p t.kind && t.kind != .eof
  have hmap : (body.map (·.shift S.shift)).dropWhile skips =
      (body.dropWhile skips).map (·.shift S.shift) := by
    rw [List.dropWhile_map]
    rfl
  rcases hbody : body.dropWhile skips with _ | ⟨t, rest⟩
  · -- all tokens up to the seam are passed, and there the program has nothing but its end
    right
    have hall : ∀ t ∈ body, skips t = true := List.dropWhile_eq_nil_iff.1 hbody
    refine ⟨?_, ((body.map (·.shift S.shift)).getLast?.map (·.span)).getD d.last, ?_⟩
    · have htokens : (c.skipWhile p).tokens = S.ends.dropWhile skips := by
        rw [Cursor.tokens_skipWhile, hc, List.dropWhile_append_of_pos hall]
      obtain ⟨stop, hstop, hends⟩ := S.ends_eq
      have hstops : (c.skipWhile p).tokens = [stop] := by
        rcases hends with hends | ⟨nl, hnl, hends⟩
        · simp [htokens, hends, skips, hstop]
        · simp [htokens, hends, skips, hstop, hnl, hp]
      exact (Cursor.kind_cons _ hstops).trans hstop
    · have hall' : ∀ t ∈ body.map (·.shift S.shift), skips t = true := by
        intro t ht
        obtain ⟨t', ht', rfl⟩ := List.mem_map.1 ht
        exact hall t' ht'
      unfold Cursor.skipWhile
      dsimp only
      rw [hd, List.takeWhile_append_of_pos hall', h.clean]
      have hlast : ∀ xs : List Token, ((body.map (·.shift S.shift) ++ xs).getLast?.map (·.span)).getD d.last =
          (xs.getLast?.map (·.span)).getD
            (((body.map (·.shift S.shift)).getLast?.map (·.span)).getD d.last) := by
        intro xs
        rw [List.getLast?_append]
        cases xs.getLast? <;> rfl
      rw [hlast, List.length_append, List.drop_append, List.drop_of_length_le (by omega)]
      simp [skips]
  · -- `t` is where both stop
    left
    have hskips : skips t = false := by
      have hhead := List.head?_dropWhile_not skips body
      simpa [hbody] using hhead
    have hmem : ∀ t' ∈ t :: rest, t'.Inner := fun t' ht' =>
      hinner t' ((List.dropWhile_sublist skips).subset (hbody ▸ ht'))
    have hct : (c.skipWhile p).tokens = (t :: rest) ++ S.ends := by
      rw [Cursor.tokens_skipWhile, hc, List.dropWhile_append, hbody]
      rfl
    have hkind := Cursor.kind_cons _ hct
    refine ⟨⟨h.clean, t :: rest, hmem, hct, ?_⟩, ?_, ?_⟩
    · rw [Cursor.tokens_skipWhile, hd, List.dropWhile_append, hmap, hbody]
      rfl
    · have heof := (hmem t List.mem_cons_self).1
      rw [hkind]
      simpa [skips, heof] using hskips
    · rw [hkind]
      exact (hmem t List.mem_cons_self).1

theorem skipNewlines (h : Alike S c d) :
    Alike S c.skipNewlines d.skipNewlines ∨ c.skipNewlines.kind = .eof :=
  (h.skipWhile (p := (· == .newline)) rfl).imp (·.1) (·.1)

end Alike

/-- The regions just read are the same up to the shift. -/
def AlikeLast (S : Seam) (c d : Cursor) : Prop :=
  Alike S c d ∧ d.last = c.last.shift S.shift

/-! ### Outcomes -/

/-- A result without notes is a result of the other reader too, and the cursors after it are related. -/
def Mirrors {α : Type} (R : Cursor → Cursor → Prop) (φ : α → α) (r r' : Option α × Cursor) : Prop :=
  ∀ a c', r = (some a, c') → c'.notes = [] → ∃ d', r' = (some (φ a), d') ∧ R c' d'

section Mirrors

variable {α β : Type} {S : Seam} {c d : Cursor} {R R' : Cursor → Cursor → Prop}

theorem Mirrors.of_none {φ : α → α} {r r' : Option α × Cursor} (h : r.1 = none) : Mirrors R φ r r' := by
  rintro a c' rfl
  cases h

theorem mirrors_pure {φ : α → α} {a a' : α} (ha : a' = φ a) (h : R c d) :
    Mirrors R φ ((pure a : Parse α).run c) ((pure a' : Parse α).run d) := by
  intro b c' hb _
  obtain ⟨hab, rfl⟩ := Prod.mk.inj hb
  obtain rfl := Option.some.inj hab
  exact ⟨d, by rw [run_pure, ha], h⟩

/-- Steps in a row.  The later steps keep what the first has noted, so that it has noted nothing. -/
theorem mirrors_bind {φ : α → α} {ψ : β → β} {p q : Parse α} {f g : α → Parse β}
    (hp : Mirrors R φ (p.run c) (q.run d)) (hkeeps : ∀ a, Keeps (f a))
    (hf : ∀ a c₁ d₁, p.run c = (some a, c₁) → R c₁ d₁ →
      Mirrors R' ψ ((f a).run c₁) ((g (φ a)).run d₁)) :
    Mirrors R' ψ ((p >>= f).run c) ((q >>= g).run d) := by
  intro b c' hb hclean
  rcases h : p.run c with ⟨_ | a, c₁⟩
  · rw [run_bind_none h] at hb
    cases hb
  · rw [run_bind_some h] at hb
    -- notes are never taken back
    have hkept := (hkeeps a).kept c₁
    rw [hb, hclean, List.prefix_nil] at hkept
    obtain ⟨d₁, hq, hR⟩ := hp a c₁ h hkept
    rw [run_bind_some hq]
    exact hf a c₁ d₁ h hR b c' hb hclean

theorem mirrors_token (h : Alike S c d) (heof : c.kind ≠ .eof) (hnewline : c.kind ≠ .newline) :
    Mirrors (AlikeLast S) (·.shift S.shift) (token.run c) (token.run d) := by
  obtain ⟨-, hcurrent, hlast, hadvance⟩ := h.of_kind heof hnewline
  intro t c' ht _
  obtain ⟨hcurrent', rfl⟩ := Prod.mk.inj ht
  obtain rfl := Option.some.inj hcurrent'
  exact ⟨d.advance, by rw [run_token, hcurrent], hadvance, hlast⟩

theorem mirrors_expect {kind : TokenKind} (heof : kind ≠ .eof) (hnewline : kind ≠ .newline)
    (expected : String) (h : Alike S c d) :
    Mirrors (AlikeLast S) (·.shift S.shift) ((expect kind expected).run c) ((expect kind expected).run d) := by
  rw [run_expect, run_expect]
  by_cases hkind : c.kind = kind
  · rw [if_pos hkind, if_pos (h.kind_of heof hnewline hkind)]
    exact mirrors_token h (hkind ▸ heof) (hkind ▸ hnewline)
  · rw [if_neg hkind]
    exact .of_none rfl

theorem mirrors_accept {kind : TokenKind} (heof : kind ≠ .eof) (hnewline : kind ≠ .newline)
    (hparen : kind ≠ .rParen) (h : Alike S c d) : Mirrors (Alike S) id ((accept kind).run c) ((accept kind).run d) := by
  rw [run_accept, run_accept]
  by_cases hkind : c.kind = kind
  · rw [if_pos hkind, if_pos (h.kind_of heof hnewline hkind)]
    have hadvance := (h.of_kind (hkind ▸ heof) (hkind ▸ hnewline)).2.2.2
    exact mirrors_pure rfl hadvance
  · rw [if_neg hkind, if_neg (fun hk => hkind ((h.kind_iff heof hnewline hparen).1 hk))]
    exact mirrors_pure rfl h

/-- Past line breaks.  A reader that then needs a token has to find one. -/
theorem mirrors_skipNewlines {ψ : β → β} {f g : Unit → Parse β} (h : Alike S c d)
    (hlost : c.skipNewlines.kind = .eof → ((f ()).run c.skipNewlines).1 = none)
    (hf : Alike S c.skipNewlines d.skipNewlines →
      Mirrors R ψ ((f ()).run c.skipNewlines) ((g ()).run d.skipNewlines)) :
    Mirrors R ψ ((skipNewlines >>= f).run c) ((skipNewlines >>= g).run d) := by
  rw [run_skipNewlines_bind, run_skipNewlines_bind]
  rcases h.skipNewlines with halike | heof
  · exact hf halike
  · exact .of_none (hlost heof)

/-- The look for an `else` stops at the seam. -/
theorem mirrors_onElse {ψ : β → β} {taken missing taken' missing' : Parse β} (h : Alike S c d)
    (htaken : Alike S c.skipNewlines.advance d.skipNewlines.advance →
      Mirrors R ψ (taken.run c.skipNewlines.advance) (taken'.run d.skipNewlines.advance))
    (hmissing : Mirrors R ψ (missing.run c) (missing'.run d)) :
    Mirrors R ψ ((Expr.onElse taken missing).run c) ((Expr.onElse taken' missing').run d) := by
  rw [Expr.run_onElse, Expr.run_onElse]
  rcases h.skipWhile (p := (· == .newline)) rfl with ⟨halike, -⟩ | ⟨heof, last, hlast⟩
  · have halike : Alike S c.skipNewlines d.skipNewlines := halike
    by_cases hkind : c.skipNewlines.kind = .kwElse
    · rw [if_pos hkind, if_pos ((halike.kind_iff (by simp) (by simp) (by simp)).2 hkind)]
      exact htaken (halike.of_kind (by simp [hkind]) (by simp [hkind])).2.2.2
    · rw [if_neg hkind, if_neg (fun hk => hkind ((halike.kind_iff (by simp) (by simp) (by simp)).1 hk))]
      exact hmissing
  · -- the program is at its end, and the other text does not go on with an `else`
    have heof : c.skipNewlines.kind = .eof := heof
    have htokens : d.skipNewlines.tokens = S.tail.dropWhile (·.kind == .newline) := by
      rw [show d.skipNewlines = Cursor.skipNewlines ⟨S.tail, last, []⟩ from hlast, Cursor.tokens_skipNewlines]
    have helse : d.skipNewlines.kind ≠ .kwElse := by
      rcases htail : S.tail.dropWhile (·.kind == .newline) with _ | ⟨t, rest⟩
      · simp [Cursor.kind, Cursor.kindAt, htokens, htail]
      · rw [Cursor.kind_cons _ (htokens.trans htail)]
        exact S.noElse t rest htail
    rw [if_neg (by simp [heof]), if_neg helse]
    exact hmissing

/-- Behind an item stands the same, as nothing but the closing token ends a list. -/
theorem mirrors_follow {close : TokenKind} (expected : String) (heof : close ≠ .eof)
    (hnewline : close ≠ .newline) {ψ : List α → List α} {item item' : α} {more more' : Parse (List α)} [Keeps more]
    (hnil : ψ [item] = [item']) (hcons : ∀ rest, ψ (item :: rest) = item' :: ψ rest) (h : Alike S c d)
    (hmore : ∀ c₁ d₁, c₁.tokens.length ≤ c.tokens.length → Alike S c₁ d₁ →
      Mirrors (fun c d => Alike S c d ∧ c.kind = close) ψ (more.run c₁) (more'.run d₁)) :
    Mirrors (fun c d => Alike S c d ∧ c.kind = close) ψ ((Expr.follow close expected item more).run c)
      ((Expr.follow close expected item' more').run d) := by
  unfold Expr.follow
  refine mirrors_skipNewlines h (fun hlost => ?_) fun h₁ => ?_
  · -- at its end the program has neither a comma nor the closing token
    have haccept : (accept .comma).run c.skipNewlines = (some false, c.skipNewlines) := by
      rw [run_accept, if_neg (by simp [hlost])]
    rw [run_bind_some haccept, if_neg (by simp), run_cursor_bind, if_neg (by rw [hlost]; exact heof.symm)]
    rfl
  have hle₁ := c.skipNewlines_reads.length_le
  refine mirrors_bind (mirrors_accept (by simp) (by simp) (by simp) h₁) (fun _ => inferInstance)
    fun comma c₂ d₂ ha h₂ => ?_
  have hle₂ := ((accept_reads c.skipNewlines _).to ha).length_le
  rw [id]
  split
  · exact mirrors_bind (hmore c₂ d₂ (by omega) h₂) (fun _ => inferInstance)
      fun rest c₃ d₃ _ h₃ => mirrors_pure (hcons rest).symm h₃
  · rw [run_cursor_bind, run_cursor_bind]
    by_cases hclose : c₂.kind = close
    · rw [if_pos hclose, if_pos (h₂.kind_of heof hnewline hclose)]
      exact mirrors_pure hnil.symm ⟨h₂, hclose⟩
    · rw [if_neg hclose]
      exact .of_none rfl

end Mirrors

end Reshape
