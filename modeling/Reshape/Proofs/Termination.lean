/-
The parser reads to the end, and within its list of tokens.

A reader by index, every access of which is checked, comes to what the reader of the cursor comes to, as soon as it
has fuel for the tokens that are left.  So no access is out of bounds, and no loop goes on for ever.

* `Walk.readersFollow` — all readers by index follow;
* `walk_round` — a turn of the loop over statements that goes on has moved forward;
* `parse_terminates` — all of this for a list of tokens.
-/
import Reshape.Proofs.Following
import Reshape.Proofs.Turns

namespace Reshape

variable {α : Type} {ts : List Token}

namespace Walk

open Reshape.Expr (Fed)

variable {q : Parse α} {c : Cursor} {fuel k : Nat}

/-! ### Readers of expressions -/

theorem follows_signed {negative : Bool} {i : Int64}
    (hleast : negative = true → i = Int64.minValue → NegatesLeast ts) :
    Follows ts (signed negative i) (Expr.signed negative i) c := by
  intro hc
  rw [Expr.run_signed]
  by_cases h : negative = true ∧ i = Int64.minValue
  · obtain ⟨rfl, rfl⟩ := h
    rw [if_pos (And.intro rfl rfl), if_pos c.overflowed_note]
    exact ⟨rfl, fun _ => ⟨rfl, hleast rfl rfl⟩⟩
  · have hsigned : signed negative i = pure (if negative then -i else i) := by
      cases negative with
      | false => rfl
      | true => rw [signed, if_pos rfl, fit?_neg fun hi => h ⟨rfl, hi⟩, if_pos rfl]
    rw [if_neg h, if_neg (by simp [hc]), hsigned]
    exact ⟨rfl, by simp [hc]⟩

theorem follows_position (i : Int64) (span : Span) : Follows ts (position i span) (Expr.position i span) c := by
  unfold position Expr.position
  cases position? i with
  | some p => exact follows_pure p
  | none => exact follows_report _ _ _ _

theorem negatesLeast_of_moves {c' : Cursor} (hc : c.Over ts) {front : List Token} (hm : Moves c c' front)
    (hkinds : front.map (·.kind) = [.lBracket, .minus, .integer Int64.minValue, .rBracket]) : NegatesLeast ts := by
  obtain ⟨behind, hts, -⟩ := hc.behind
  rw [NegatesLeast, ← hkinds, hts, hm.tokens]
  exact List.IsInfix.map _ ⟨behind, c'.tokens, List.append_assoc ..⟩

theorem follows_indexSuffix (hc : c.Over ts) : Follows ts indexSuffix Expr.indexSuffix c := by
  unfold indexSuffix Expr.indexSuffix
  refine follows_bind (follows_expect hc _ _) fun start c₁ hstart => ?_
  obtain ⟨hopen, hm₁⟩ := Parse.moves_of_expect c (by simp) hstart
  have hc₁ := hc.of_moves hm₁
  refine follows_bind (follows_accept hc₁ _) fun negative c₂ hsign => ?_
  obtain ⟨sign, hm₂, hminus⟩ := Parse.exists_moves_of_accept c₁ (by simp) hsign
  have hc₂ := hc₁.of_moves hm₂
  refine follows_look hc₂ ?_
  rw [c₂.kind_current]
  cases hkind : c₂.kind with
  | integer i =>
    refine follows_bind (follows_token hc₂) fun number c₃ hnumber => ?_
    obtain ⟨hinteger, hm₃⟩ := Parse.moves_of_token c₂ (by simp [hkind]) hnumber
    have hc₃ := hc₂.of_moves hm₃
    refine follows_bind (follows_expect hc₃ _ _) fun stop c₄ hstop => ?_
    obtain ⟨hclose, hm₄⟩ := Parse.moves_of_expect c₃ (by simp) hstop
    refine follows_bind (follows_signed fun hnegative hleast => ?_) fun _ _ _ => follows_position _ _
    refine negatesLeast_of_moves hc (hm₁.trans (hm₂.trans (hm₃.trans hm₄))) ?_
    simp [hopen, hminus, hnegative, hinteger, hkind, hleast, hclose]
  | _ => exact follows_unexpected hc₂ _

theorem follows_target (hc : c.Over ts) : Follows ts target Expr.target c := by
  unfold target Expr.target
  refine follows_look hc ?_
  rw [c.kind_current]
  cases c.kind with
  | path p => exact follows_next hc (Parse.token_reads c) (follows_token hc) fun _ c₁ _ _ => follows_pure _
  | _ => exact follows_unexpected hc _

theorem follows_suffix? (e : Expr) (hc : c.Over ts) :
    Option.Rel (Follows ts · · c) (suffix? e c.current) (Expr.suffix? e c) := by
  unfold suffix? Expr.suffix?
  rw [c.kind_current]
  split
  · cases c.kind with
    | path p =>
      cases p with
      | nil => exact .none
      | cons segment p =>
        exact .some (follows_next hc (Parse.token_reads c) (follows_token hc) fun _ c₁ _ _ => follows_pure _)
    | lBracket =>
      exact .some (follows_bind (follows_indexSuffix hc) fun _ c₁ _ => follows_pure _)
    | _ => exact .none
  · exact .none

theorem follows_previous {f : Token → Walk α} (hc : c.Over ts) (hlt : c.tokens.length < ts.length)
    (hf : ∀ t : Token, t.span = c.last → Follows ts (f t) q c) : Follows ts (previous >>= f) q c := by
  obtain ⟨i, t, hindex, ht, hspan⟩ := hc.exists_behind hlt
  have hprevious : previous ts (c.position ts) = .ok (some t, c.position ts) := by
    rw [previous, hindex]
    exact tokenAt_of_getElem? ht
  rw [Follows, bind_of_ok hprevious]
  exact hf t hspan

theorem follows_suffixes (e : Expr) (hc : c.Over ts) (hfuel : c.tokens.length < fuel) (hk : c.tokens.length < k) :
    Follows ts (suffixes fuel e) (Expr.suffixes k e) c := by
  induction fuel generalizing k e c with
  | zero => omega
  | succ fuel ih =>
    obtain ⟨k, rfl⟩ : ∃ k', k = k' + 1 := ⟨k - 1, by omega⟩
    rw [suffixes, Expr.suffixes]
    refine follows_look hc ?_
    have hrel := follows_suffix? e hc
    cases hread : Expr.suffix? e c with
    | none =>
      rw [hread] at hrel
      cases hx : suffix? e c.current with
      | none => exact follows_pure e
      | some x => rw [hx] at hrel; cases hrel
    | some read =>
      rw [hread] at hrel
      cases hx : suffix? e c.current with
      | none => rw [hx] at hrel; cases hrel
      | some x =>
        rw [hx] at hrel
        obtain ⟨hx⟩ := hrel
        have hle := hc.length_le
        refine follows_eaten hc (Expr.suffix?_eats hread) hx fun p c₁ hc₁ hlt => ?_
        refine follows_previous hc₁ (by omega) fun t ht => ?_
        rw [ht]
        exact ih _ hc₁ (by omega) (by omega)

theorem follows_callOf {name : String} {start stop : Token} {aborts : Bool} {arguments : List Expr} :
    Follows ts (callOf name start aborts arguments stop) (Expr.callOf name start aborts arguments stop) c := by
  unfold callOf Expr.callOf
  dsimp only
  split
  · rcases arguments with _ | ⟨e, _ | ⟨e', es⟩⟩
    · exact follows_report _ _ _ _
    · cases e with
      | path s p => exact follows_pure _
      | _ => exact follows_report _ _ _ _
    · cases e with
      | _ => exact follows_report _ _ _ _
  · exact follows_pure _

theorem follows_follow {close : TokenKind} {expected : String} {item : α} {x : Walk (List α)} {q : Parse (List α)}
    (hc : c.Over ts) (hfuel : c.tokens.length ≤ fuel)
    (hmore : ∀ c₁ : Cursor, c₁.Over ts → c₁.tokens.length ≤ c.tokens.length → Follows ts x q c₁) :
    Follows ts (follow fuel close expected item x) (Expr.follow close expected item q) c := by
  unfold follow Expr.follow
  refine follows_next hc (Parse.skipNewlines_reads c) (follows_skipNewlines hc hfuel) fun _ c₁ hc₁ hle₁ => ?_
  refine follows_next hc₁ (Parse.accept_reads c₁ _) (follows_accept hc₁ _) fun comma c₂ hc₂ hle₂ => ?_
  split
  · exact follows_bind (hmore c₂ hc₂ (by omega)) fun _ c₃ _ => follows_pure _
  · refine follows_look hc₂ ?_
    rw [c₂.kind_current]
    split
    · exact follows_pure _
    · exact follows_unexpected hc₂ _

theorem follows_onElse {taken missing : Walk α} {taken' missing' : Parse α} (hc : c.Over ts)
    (hfuel : c.tokens.length ≤ fuel)
    (htaken : c.skipNewlines.kind = .kwElse → Follows ts taken taken' c.skipNewlines.advance)
    (hmissing : Follows ts missing missing' c) :
    Follows ts (onElse fuel taken missing) (Expr.onElse taken' missing') c := by
  have hc₁ := hc.of_reads c.skipNewlines_reads
  have hindex : index ts (c.position ts) = .ok (some (c.position ts).index, c.position ts) := rfl
  have hskip : skipNewlines fuel ts (c.position ts) = .ok (some (), c.skipNewlines.position ts) :=
    goes_skipWhile rfl hc hfuel
  intro hcalm
  rw [Expr.run_onElse, onElse, bind_of_ok hindex, bind_of_ok hskip, bind_of_ok (current_eq hc₁),
    c.skipNewlines.kind_current]
  by_cases hkind : c.skipNewlines.kind = .kwElse
  · rw [if_pos hkind, if_pos hkind, bind_of_ok (token_eq hc₁)]
    exact htaken hkind ((Cursor.overflowed_advance _).trans hcalm)
  · have hback : goTo (c.position ts).index ts (c.skipNewlines.position ts) = .ok (some (), c.position ts) := rfl
    rw [if_neg hkind, if_neg hkind, bind_of_ok hback]
    exact hmissing hcalm

/-- The two amounts of fuel pay for the tokens left. -/
theorem exists_succ_of_fed {rank : Nat} (h : Fed (rank + 1) (min fuel k) c) :
    ∃ k', k = k' + 1 := by
  simp only [Fed] at h
  exact ⟨k - 1, by omega⟩

/-- All readers by index, with so much fuel, do what those of the cursor do, with enough fuel of their own. -/
structure ReadersFollow (ts : List Token) (fuel : Nat) : Prop where
  expression : ∀ level {k c}, c.Over ts → Fed 4 (min fuel k) c →
    Follows ts (expression fuel level) (Expr.expression k level) c
  operators : ∀ level e {k c}, c.Over ts → Fed 1 (min fuel k) c →
    Follows ts (operators fuel level e) (Expr.operators k level e) c
  prefixed : ∀ {k c}, c.Over ts → Fed 3 (min fuel k) c → Follows ts (prefixed fuel) (Expr.prefixed k) c
  primary : ∀ {k c}, c.Over ts → Fed 2 (min fuel k) c → Follows ts (primary fuel) (Expr.primary k) c
  list : ∀ close expected {k c}, c.Over ts → Fed 5 (min fuel k) c →
    Follows ts (list fuel close expected) (Expr.list k close expected) c
  entries : ∀ {k c}, c.Over ts → Fed 1 (min fuel k) c → Follows ts (entries fuel) (Expr.entries k) c
  braces : ∀ {k c}, c.Over ts → Fed 1 (min fuel k) c → Follows ts (braces fuel) (Expr.braces k) c
  branching : ∀ {k c}, c.Over ts → c.kind ≠ .eof → Fed 1 (min fuel k) c →
    Follows ts (branching fuel) (Expr.branching k) c
  called : ∀ name {k c}, c.Over ts → c.kind ≠ .eof → Fed 1 (min fuel k) c →
    Follows ts (called fuel name) (Expr.called k name) c
  statement : ∀ {k c}, c.Over ts → Fed 5 (min fuel k) c → Follows ts (statement fuel) (Expr.statement k) c
  statements : ∀ inBlock {k c}, c.Over ts → Fed 6 (min fuel k) c →
    Follows ts (statements fuel inBlock) (Expr.statements k inBlock) c

section Follows

variable (h : ReadersFollow ts fuel) (hc : c.Over ts)

include h hc

theorem follows_expression (level : Nat) (hfuel : Fed 4 (min (fuel + 1) k) c) :
    Follows ts (expression (fuel + 1) level) (Expr.expression k level) c := by
  obtain ⟨k, rfl⟩ := exists_succ_of_fed hfuel
  simp only [Fed] at hfuel
  rw [expression, Expr.expression]
  refine follows_eaten hc ((Expr.readersRead k).prefixed c) (h.prefixed hc (by simp only [Fed]; omega))
    fun e c₁ hc₁ hlt₁ => ?_
  exact h.operators level e hc₁ (by simp only [Fed]; omega)

theorem follows_operators (level : Nat) (e : Expr) (hfuel : Fed 1 (min (fuel + 1) k) c) :
    Follows ts (operators (fuel + 1) level e) (Expr.operators k level e) c := by
  obtain ⟨k, rfl⟩ := exists_succ_of_fed hfuel
  simp only [Fed] at hfuel
  rw [operators, Expr.operators]
  refine follows_look hc ?_
  rw [c.kind_current]
  cases hop : BinaryOp.ofToken? c.kind with
  | none => exact follows_pure e
  | some op =>
    have hkind : c.kind ≠ .eof := by
      intro hkind
      simp [hkind, BinaryOp.ofToken?] at hop
    dsimp only
    split
    · exact follows_pure e
    · refine follows_eaten hc (Parse.token_eats c hkind) (follows_token hc) fun _ c₁ hc₁ hlt₁ => ?_
      refine follows_next hc₁ (Parse.skipNewlines_reads c₁) (follows_skipNewlines hc₁ (by omega))
        fun _ c₂ hc₂ hle₂ => ?_
      refine follows_eaten hc₂ ((Expr.readersRead k).expression op.level c₂)
        (h.expression _ hc₂ (by simp only [Fed]; omega)) fun right c₃ hc₃ hlt₃ => ?_
      exact h.operators _ _ hc₃ (by simp only [Fed]; omega)

theorem follows_prefixed (hfuel : Fed 3 (min (fuel + 1) k) c) :
    Follows ts (prefixed (fuel + 1)) (Expr.prefixed k) c := by
  obtain ⟨k, rfl⟩ := exists_succ_of_fed hfuel
  simp only [Fed] at hfuel
  rw [prefixed, Expr.prefixed]
  refine follows_look hc ?_
  rw [c.kind_current]
  cases hop : UnaryOp.ofToken? c.kind with
  | some op =>
    have hkind : c.kind ≠ .eof := by
      intro hkind
      simp [hkind, UnaryOp.ofToken?] at hop
    refine follows_eaten hc (Parse.token_eats c hkind) (follows_token hc) fun start c₁ hc₁ hlt₁ => ?_
    exact follows_bind (h.expression _ hc₁ (by simp only [Fed]; omega)) fun _ c₂ _ => follows_pure _
  | none =>
    refine follows_eaten hc ((Expr.readersRead k).primary c) (h.primary hc (by simp only [Fed]; omega))
      fun e c₁ hc₁ hlt₁ => ?_
    have hsuffixes : Follows ts (suffixes fuel e) (Expr.suffixes k e) c₁ :=
      follows_suffixes e hc₁ (by omega) (by omega)
    cases c.kind with
    | path p => exact follows_pure e
    | _ => exact hsuffixes

theorem follows_primary (hfuel : Fed 2 (min (fuel + 1) k) c) :
    Follows ts (primary (fuel + 1)) (Expr.primary k) c := by
  obtain ⟨k, rfl⟩ := exists_succ_of_fed hfuel
  simp only [Fed] at hfuel
  have hpos := hc.length_pos
  rw [primary, Expr.primary]
  refine follows_look hc ?_
  rw [c.kind_current]
  cases Scalar.ofToken? c.kind with
  | some value =>
    exact follows_next hc (Parse.token_reads c) (follows_token hc) fun _ c₁ _ _ => follows_pure _
  | none =>
    dsimp only
    cases hkind : c.kind with
    | path p => exact follows_next hc (Parse.token_reads c) (follows_token hc) fun _ c₁ _ _ => follows_pure _
    | lBracket =>
      refine follows_eaten hc (Parse.token_eats c (by simp [hkind])) (follows_token hc) fun start c₁ hc₁ hlt₁ => ?_
      refine follows_next hc₁ ((Expr.readersRead k).list _ _ c₁) (h.list _ _ hc₁ (by simp only [Fed]; omega))
        fun items c₂ hc₂ _ => ?_
      exact follows_bind (follows_token hc₂) fun _ c₃ _ => follows_pure _
    | lBrace =>
      have hstarts : startsObject fuel 1 ts (c.position ts) = .ok (some (Expr.startsObject c), c.position ts) := by
        rw [← opensObject_eq]
        exact startsObject_eq 1 hc (by omega) hpos
      rw [Follows]
      dsimp only
      rw [bind_of_ok hstarts]
      split
      · refine follows_eaten hc (Parse.token_eats c (by simp [hkind])) (follows_token hc)
          fun start c₁ hc₁ hlt₁ => ?_
        refine follows_next hc₁ ((Expr.readersRead k).entries c₁) (h.entries hc₁ (by simp only [Fed]; omega))
          fun fields c₂ hc₂ _ => ?_
        exact follows_bind (follows_token hc₂) fun _ c₃ _ => follows_pure _
      · exact follows_bind (h.braces hc (by simp only [Fed]; omega)) fun _ c₁ _ => follows_pure _
    | lParen =>
      refine follows_eaten hc (Parse.token_eats c (by simp [hkind])) (follows_token hc) fun start c₁ hc₁ hlt₁ => ?_
      refine follows_next hc₁ (Parse.skipNewlines_reads c₁) (follows_skipNewlines hc₁ (by omega))
        fun _ c₂ hc₂ hle₂ => ?_
      refine follows_eaten hc₂ ((Expr.readersRead k).expression 0 c₂)
        (h.expression _ hc₂ (by simp only [Fed]; omega)) fun e c₃ hc₃ hlt₃ => ?_
      refine follows_next hc₃ (Parse.skipNewlines_reads c₃) (follows_skipNewlines hc₃ (by omega))
        fun _ c₄ hc₄ _ => ?_
      exact follows_bind (follows_expect hc₄ _ _) fun _ c₅ _ => follows_pure _
    | kwIf => exact h.branching hc (by simp [hkind]) (by simp only [Fed]; omega)
    | ident name => exact h.called name hc (by simp [hkind]) (by simp only [Fed]; omega)
    | _ => exact follows_unexpected hc _

theorem follows_list (close : TokenKind) (expected : String) (hfuel : Fed 5 (min (fuel + 1) k) c) :
    Follows ts (list (fuel + 1) close expected) (Expr.list k close expected) c := by
  obtain ⟨k, rfl⟩ := exists_succ_of_fed hfuel
  simp only [Fed] at hfuel
  rw [list, Expr.list_succ]
  refine follows_next hc (Parse.skipNewlines_reads c) (follows_skipNewlines hc (by omega)) fun _ c₁ hc₁ hle₁ => ?_
  refine follows_look hc₁ ?_
  rw [c₁.kind_current]
  split
  · exact follows_pure _
  · refine follows_eaten hc₁ ((Expr.readersRead k).expression 0 c₁)
      (h.expression _ hc₁ (by simp only [Fed]; omega)) fun e c₂ hc₂ hlt₂ => ?_
    exact follows_follow hc₂ (by omega) fun c₃ hc₃ hle₃ => h.list _ _ hc₃ (by simp only [Fed]; omega)

theorem follows_entries (hfuel : Fed 1 (min (fuel + 1) k) c) :
    Follows ts (entries (fuel + 1)) (Expr.entries k) c := by
  obtain ⟨k, rfl⟩ := exists_succ_of_fed hfuel
  simp only [Fed] at hfuel
  rw [entries, Expr.entries_succ]
  refine follows_next hc (Parse.skipNewlines_reads c) (follows_skipNewlines hc (by omega)) fun _ c₁ hc₁ hle₁ => ?_
  refine follows_look hc₁ ?_
  rw [c₁.kind_current]
  cases hkind : c₁.kind with
  | rBrace => exact follows_pure _
  | string key =>
    dsimp only
    rw [Expr.entry]
    refine follows_eaten hc₁ (Parse.token_eats c₁ (by simp [hkind])) (follows_token hc₁) fun _ c₂ hc₂ hlt₂ => ?_
    refine follows_next hc₂ (Parse.expect_reads c₂ _ _) (follows_expect hc₂ _ _) fun _ c₃ hc₃ hle₃ => ?_
    refine follows_next hc₃ (Parse.skipNewlines_reads c₃) (follows_skipNewlines hc₃ (by omega))
      fun _ c₄ hc₄ hle₄ => ?_
    refine follows_eaten hc₄ ((Expr.readersRead k).expression 0 c₄)
      (h.expression _ hc₄ (by simp only [Fed]; omega)) fun e c₅ hc₅ hlt₅ => ?_
    exact follows_follow hc₅ (by omega) fun c₆ hc₆ hle₆ => h.entries hc₆ (by simp only [Fed]; omega)
  | _ => exact follows_unexpected hc₁ _

theorem follows_braces (hfuel : Fed 1 (min (fuel + 1) k) c) :
    Follows ts (braces (fuel + 1)) (Expr.braces k) c := by
  obtain ⟨k, rfl⟩ := exists_succ_of_fed hfuel
  simp only [Fed] at hfuel
  rw [braces, Expr.braces]
  refine follows_eaten hc (Parse.expect_eats c (by simp) _) (follows_expect hc _ _) fun start c₁ hc₁ hlt₁ => ?_
  refine follows_next hc₁ ((Expr.readersRead k).statements true c₁)
    (h.statements true hc₁ (by simp only [Fed]; omega)) fun body c₂ hc₂ _ => ?_
  refine follows_look hc₂ ?_
  rw [c₂.kind_current]
  split
  · exact follows_bind (follows_token hc₂) fun _ c₃ _ => follows_pure _
  · exact follows_report _ _ _ _

theorem follows_branching (hkind : c.kind ≠ .eof) (hfuel : Fed 1 (min (fuel + 1) k) c) :
    Follows ts (branching (fuel + 1)) (Expr.branching k) c := by
  obtain ⟨k, rfl⟩ := exists_succ_of_fed hfuel
  simp only [Fed] at hfuel
  rw [branching, Expr.branching_succ]
  refine follows_eaten hc (Parse.token_eats c hkind) (follows_token hc) fun start c₁ hc₁ hlt₁ => ?_
  refine follows_eaten hc₁ ((Expr.readersRead k).expression 0 c₁)
    (h.expression _ hc₁ (by simp only [Fed]; omega)) fun condition c₂ hc₂ hlt₂ => ?_
  refine follows_eaten hc₂ ((Expr.readersRead k).braces c₂) (h.braces hc₂ (by simp only [Fed]; omega))
    fun body c₃ hc₃ hlt₃ => ?_
  dsimp only
  refine follows_onElse hc₃ (by omega) (fun _ => ?_) (follows_pure _)
  have hreads := c₃.skipNewlines_reads.trans c₃.skipNewlines.advance_reads
  have hc₄ := hc₃.of_reads hreads
  have hle₄ := hreads.length_le
  have halternative : Follows ts (alternative (branching fuel) (braces fuel)) (Expr.alternative k)
      c₃.skipNewlines.advance := by
    rw [alternative, Expr.alternative]
    refine follows_look hc₄ ?_
    rw [Cursor.kind_current]
    split
    · rename_i hif
      exact h.branching hc₄ (by simp [hif]) (by simp only [Fed]; omega)
    · exact follows_bind (h.braces hc₄ (by simp only [Fed]; omega)) fun _ c₅ _ => follows_pure _
  exact follows_bind halternative fun _ c₅ _ => follows_pure _

theorem follows_called (name : String) (hkind : c.kind ≠ .eof) (hfuel : Fed 1 (min (fuel + 1) k) c) :
    Follows ts (called (fuel + 1) name) (Expr.called k name) c := by
  obtain ⟨k, rfl⟩ := exists_succ_of_fed hfuel
  simp only [Fed] at hfuel
  rw [called, Expr.called_succ]
  refine follows_eaten hc (Parse.token_eats c hkind) (follows_token hc) fun start c₁ hc₁ hlt₁ => ?_
  refine follows_next hc₁ (Parse.accept_reads c₁ _) (follows_accept hc₁ _) fun aborts c₂ hc₂ hle₂ => ?_
  refine follows_look hc₂ ?_
  rw [c₂.kind_current]
  split
  · refine follows_next hc₂ (Parse.token_reads c₂) (follows_token hc₂) fun _ c₃ hc₃ hle₃ => ?_
    refine follows_next hc₃ ((Expr.readersRead k).list _ _ c₃) (h.list _ _ hc₃ (by simp only [Fed]; omega))
      fun arguments c₄ hc₄ _ => ?_
    exact follows_bind (follows_token hc₄) fun stop c₅ _ => follows_callOf
  · exact follows_report _ _ _ _

theorem follows_statement (hfuel : Fed 5 (min (fuel + 1) k) c) :
    Follows ts (statement (fuel + 1)) (Expr.statement k) c := by
  obtain ⟨k, rfl⟩ := exists_succ_of_fed hfuel
  simp only [Fed] at hfuel
  rw [statement]
  refine follows_current hc ?_
  refine follows_ahead 1 hc fun t₁ ht₁ => ?_
  refine follows_ahead 2 hc fun t₂ ht₂ => ?_
  refine follows_ahead 3 hc fun t₃ ht₃ => ?_
  rw [c.kind_current, ht₁, ht₂, ht₃]
  split
  · rename_i p hpath hassign
    refine .of_run ?_ (Expr.statement_of_single k (Expr.startsSingle_iff_kindAt.2 ⟨p, hpath, hassign⟩))
    rw [Expr.single]
    refine follows_eaten hc (Expr.target_eats c) (follows_target hc) fun place c₁ hc₁ hlt₁ => ?_
    refine follows_next hc₁ (Parse.expect_reads c₁ _ _) (follows_expect hc₁ _ _) fun _ c₂ hc₂ hle₂ => ?_
    refine follows_next hc₂ (Parse.skipNewlines_reads c₂) (follows_skipNewlines hc₂ (by omega))
      fun _ c₃ hc₃ hle₃ => ?_
    exact follows_bind (h.expression 0 hc₃ (by simp only [Fed]; omega)) fun _ c₄ _ => follows_pure _
  · rename_i p q hpath hcomma hpath' hassign
    refine .of_run ?_
      (Expr.statement_of_double k (Expr.startsDouble_iff_kindAt.2 ⟨p, q, hpath, hcomma, hpath', hassign⟩))
    rw [Expr.double]
    refine follows_eaten hc (Expr.target_eats c) (follows_target hc) fun ok c₁ hc₁ hlt₁ => ?_
    refine follows_next hc₁ (Parse.expect_reads c₁ _ _) (follows_expect hc₁ _ _) fun _ c₂ hc₂ hle₂ => ?_
    refine follows_eaten hc₂ (Expr.target_eats c₂) (follows_target hc₂) fun err c₃ hc₃ hlt₃ => ?_
    refine follows_next hc₃ (Parse.expect_reads c₃ _ _) (follows_expect hc₃ _ _) fun _ c₄ hc₄ hle₄ => ?_
    refine follows_next hc₄ (Parse.skipNewlines_reads c₄) (follows_skipNewlines hc₄ (by omega))
      fun _ c₅ hc₅ hle₅ => ?_
    exact follows_bind (h.expression 0 hc₅ (by simp only [Fed]; omega)) fun _ c₆ _ => follows_pure _
  · rename_i hsingle hdouble
    refine (h.expression 0 hc (by simp only [Fed]; omega)).of_run (Expr.statement_of_neither k ?_ ?_)
    · rw [Expr.startsSingle_iff_kindAt]
      rintro ⟨p, hpath, hassign⟩
      exact hsingle p hpath hassign
    · rw [Expr.startsDouble_iff_kindAt]
      rintro ⟨p, q, hpath, hcomma, hpath', hassign⟩
      exact hdouble p q hpath hcomma hpath' hassign


end Follows

theorem follows_attempt {x : Walk α} (h : Follows ts x q c) : Follows ts (attempt x) (Expr.attempt q) c := by
  intro hc
  obtain ⟨hx, hover⟩ := h hc
  rcases hrun : q.run c with ⟨_ | a, c'⟩
  · rw [hrun] at hx hover
    rw [Expr.run_attempt_none hrun]
    by_cases hcalm : c'.overflowed = true
    · rw [if_pos hcalm] at hx
      rw [if_pos hcalm, if_pos hcalm]
      exact ⟨attempt_of_error hx, fun _ => ⟨rfl, (hover hcalm).2⟩⟩
    · rw [if_neg hcalm] at hx
      rw [if_neg hcalm, if_neg hcalm]
      exact ⟨attempt_of_ok hx, fun h => absurd h hcalm⟩
  · obtain ⟨hx, hcalm⟩ := h.of_some hc hrun
    rw [Expr.run_attempt_some hrun, hcalm]
    exact ⟨attempt_of_ok hx, nofun⟩

theorem follows_move {x : Walk Unit} {m : Cursor → Cursor} (hcalm : (m c).overflowed = c.overflowed)
    (hx : Goes ts x c () (m c)) : Follows ts x (Parse.move m) c :=
  .of_ok hcalm hx

theorem follows_synchronize {inBlock : Bool} (hc : c.Over ts) (hfuel : c.tokens.length ≤ fuel) :
    Follows ts (synchronize inBlock fuel 0) (Parse.move (Cursor.synchronize inBlock)) c :=
  follows_move rfl (goes_seek 0 hc hfuel)

theorem follows_round {inBlock : Bool} {x : Walk Expr} {q : Parse Expr} (hc : c.Over ts)
    (hfuel : c.tokens.length ≤ fuel) (hq : ∀ c, Eats c (q.run c))
    (hx : ∀ c₁ : Cursor, c₁.Over ts → c₁.tokens.length ≤ c.tokens.length → Follows ts x q c₁) :
    Follows ts (round fuel inBlock x) (Expr.round inBlock q) c := by
  unfold round Expr.round
  refine follows_next hc c.skipSeparators_reads (follows_skipWhile rfl hc hfuel) fun _ c₁ hc₁ hle₁ => ?_
  refine follows_look hc₁ ?_
  rw [c₁.kind_current]
  split
  · exact follows_pure _
  · split
    · have hunmatched : (Expr.unmatched c₁).Over ts := hc₁.of_reads (c₁.record_reads _)
      have hrecord : Follows ts (record _) (Parse.move Expr.unmatched) c₁ :=
        follows_move (c₁.overflowed_record _)
          (congrArg (fun p => Except.ok (some (), p)) (Cursor.position_record c₁ _).symm)
      refine follows_bind hrecord fun _ c₂ hrun => ?_
      cases hrun
      exact follows_bind (follows_token hunmatched) fun _ c₃ _ => follows_pure _
    · have hreads : Reads c₁ ((Expr.attempt q).run c₁).2 := by
        rw [Expr.cursor_attempt]
        exact (hq c₁).toReads
      refine follows_next hc₁ hreads (follows_attempt (hx c₁ hc₁ hle₁)) fun r c₂ hc₂ hle₂ => ?_
      cases r with
      | none => exact follows_bind (follows_synchronize hc₂ (by omega)) fun _ c₃ _ => follows_pure _
      | some e =>
        refine follows_look hc₂ ?_
        rw [c₂.kind_current]
        split
        · exact follows_pure _
        · have hreads := Parse.complain_reads c₂ "end of statement"
          have hcomplain : Follows ts (complain "end of statement")
              (Parse.move (Parse.complain "end of statement")) c₂ :=
            follows_move (Parse.overflowed_complain _ c₂) (complain_eq hc₂ _)
          refine follows_next hc₂ hreads hcomplain fun _ c₃ hc₃ hle₃ => ?_
          exact follows_bind (follows_synchronize hc₃ (by omega)) fun _ c₄ _ => follows_pure _

theorem follows_statements (h : ReadersFollow ts fuel) {inBlock : Bool} (hc : c.Over ts)
    (hfuel : Fed 6 (min (fuel + 1) k) c) :
    Follows ts (statements (fuel + 1) inBlock) (Expr.statements k inBlock) c := by
  obtain ⟨k, rfl⟩ := exists_succ_of_fed hfuel
  simp only [Fed] at hfuel
  rw [statements, Expr.statements_succ]
  refine follows_bind (follows_round hc (by omega) (Expr.readersRead k).statement fun c₁ hc₁ hle₁ => ?_) ?_
  · exact h.statement hc₁ (by simp only [Fed]; omega)
  · intro r c₁ hround
    have hends := Expr.round_ends inBlock c (Expr.readersRead k).statement
    rw [hround] at hends
    cases r with
    | none => exact follows_pure _
    | some found =>
      obtain ⟨hreads, hfewer⟩ := hends
      have hrest := h.statements inBlock (hc.of_reads hreads) (k := k) (by simp only [Fed]; omega)
      exact follows_bind hrest fun _ c₃ _ => follows_pure _

/-- With fuel for the tokens left, a reader by index does what the reader of the cursor does. -/
theorem readersFollow (ts : List Token) (fuel : Nat) : ReadersFollow ts fuel := by
  induction fuel with
  | zero =>
    have hspent {rank k : Nat} {c : Cursor} (h : Fed (rank + 1) (min 0 k) c) : False := by
      simp only [Fed] at h
      omega
    exact
      { expression := fun _ _ _ _ hfuel => (hspent hfuel).elim
        operators := fun _ _ _ _ _ hfuel => (hspent hfuel).elim
        prefixed := fun _ hfuel => (hspent hfuel).elim
        primary := fun _ hfuel => (hspent hfuel).elim
        list := fun _ _ _ _ _ hfuel => (hspent hfuel).elim
        entries := fun _ hfuel => (hspent hfuel).elim
        braces := fun _ hfuel => (hspent hfuel).elim
        branching := fun _ _ hfuel => (hspent hfuel).elim
        called := fun _ _ _ _ _ hfuel => (hspent hfuel).elim
        statement := fun _ hfuel => (hspent hfuel).elim
        statements := fun _ _ _ _ hfuel => (hspent hfuel).elim }
  | succ fuel ih =>
    exact
      { expression := fun level _ _ hc hfuel => follows_expression ih hc level hfuel
        operators := fun level e _ _ hc hfuel => follows_operators ih hc level e hfuel
        prefixed := fun hc hfuel => follows_prefixed ih hc hfuel
        primary := fun hc hfuel => follows_primary ih hc hfuel
        list := fun close expected _ _ hc hfuel => follows_list ih hc close expected hfuel
        entries := fun hc hfuel => follows_entries ih hc hfuel
        braces := fun hc hfuel => follows_braces ih hc hfuel
        branching := fun hc hkind hfuel => follows_branching ih hc hkind hfuel
        called := fun name _ _ hc hkind hfuel => follows_called ih hc name hkind hfuel
        statement := fun hc hfuel => follows_statement ih hc hfuel
        statements := fun _ _ _ hc hfuel => follows_statements ih hc hfuel }

end Walk

/-! ### Lists of tokens -/

/-- A cursor before the tokens from an index on. -/
theorem exists_over_position {p : Position} (h : p.index < (Cursor.start ts).tokens.length) :
    ∃ c : Cursor, c.Over (Cursor.start ts).tokens ∧ c.overflowed = false ∧
      c.position (Cursor.start ts).tokens = p ∧ c.tokens.length = (Cursor.start ts).tokens.length - p.index := by
  obtain ⟨inner, stop, htokens, hstop⟩ := (Cursor.over_start ts).closed
  generalize (Cursor.start ts).tokens = all at h htokens
  obtain ⟨i, ds⟩ := p
  dsimp only at h ⊢
  refine ⟨⟨all.drop i, ((all.take i).getLast?.map (·.span)).getD ⟨0, 0, 0, 0⟩, ds.map .diagnostic⟩,
    ⟨?_, ?_⟩, ?_, ?_, List.length_drop ..⟩
  · refine ⟨all.take i, (List.take_append_drop ..).symm, fun t ht => ?_⟩
    rw [ht]
    rfl
  · refine ⟨inner.drop i, stop, ?_, hstop⟩
    rw [htokens, List.length_append, List.length_singleton] at h
    rw [htokens, List.drop_append_of_le_length (by omega)]
  · simp [Cursor.overflowed]
  · have hdiagnostics : (ds.map Note.diagnostic).filterMap Note.diagnostic? = ds := by
      rw [List.filterMap_map]
      exact List.filterMap_some
    have hindex : all.length - (all.drop i).length = i := by
      rw [List.length_drop]
      omega
    simp only [Cursor.position, Cursor.diagnostics, hdiagnostics, hindex]

/-- Where the cursor is before the first end. -/
theorem index_of_moves {c c' : Cursor} {front : List Token} (hm : Moves c c' front) (hc : c'.Over c.tokens)
    (hkind : c'.kind = .eof) : (c'.position c.tokens).index = c.tokens.findIdx (·.kind == .eof) := by
  have hfront : front.findIdx (·.kind == .eof) = front.length :=
    List.findIdx_eq_length.2 fun t ht => by simpa using hm.inner t ht
  rcases htokens : c'.tokens with _ | ⟨t, rest⟩
  · simpa [htokens] using hc.length_pos
  · have ht : (t.kind == .eof) = true := by
      rw [c'.kind_cons htokens] at hkind
      simp [hkind]
    rw [Cursor.position, hm.tokens, List.findIdx_append, hfront, if_neg (Nat.lt_irrefl _), htokens,
      List.findIdx_cons, ht]
    simp

/-- The reader by index at the start of a list of tokens. -/
theorem follows_start {fuel : Nat} (hfuel : Expr.fuelFor (Cursor.start ts).tokens.length ≤ fuel) :
    Walk.Follows (Cursor.start ts).tokens (Walk.statements fuel false)
      (Expr.statements (Expr.fuelFor (Cursor.start ts).tokens.length) false) (Cursor.start ts) := by
  refine (Walk.readersFollow _ fuel).statements false (Cursor.over_start ts) ?_
  simp only [Expr.fuelFor, Expr.Fed] at hfuel ⊢
  omega

/-- Reading ends in an overflow only if there are tokens that cause it. -/
theorem negatesLeast_of_parse {o : Overflow} (h : Expr.parse ts = .error o) :
    NegatesLeast (Cursor.start ts).tokens :=
  ((follows_start (Nat.le_refl _) rfl).2 (Expr.parse_eq_error.1 h)).2

theorem walk_statements {fuel : Nat} (hfuel : Expr.fuelFor (Cursor.start ts).tokens.length ≤ fuel) :
    Walk.statements fuel false (Cursor.start ts).tokens ⟨0, []⟩ =
      match Expr.parse ts with
      | .ok (es, ds) => .ok (some es, ⟨(Cursor.start ts).tokens.findIdx (·.kind == .eof), ds⟩)
      | .error _ => .error .overflow := by
  have hstart : (Cursor.start ts).position (Cursor.start ts).tokens = ⟨0, []⟩ := by
    simp only [Cursor.position, Nat.sub_self]
    rfl
  have hwalk := (follows_start hfuel rfl).1
  rw [hstart] at hwalk
  rw [hwalk]
  rcases hparse : Expr.parse ts with o | ⟨es, ds⟩
  · rw [if_pos (Expr.parse_eq_error.1 hparse)]
  · obtain ⟨c', hrun, hcalm, rfl⟩ := Expr.parse_eq_ok.1 hparse
    have hreads := (Expr.readersRead (Expr.fuelFor (Cursor.start ts).tokens.length)).statements false (Cursor.start ts)
    rw [hrun] at hreads
    obtain ⟨front, hm⟩ := hreads.moves
    have hstops : Expr.Stops false c' := Expr.statements_stops (by simp only [Expr.fuelFor]; omega) hrun
    have hkind : c'.kind = .eof := by simpa [Expr.Stops] using hstops
    rw [hrun, if_neg (by simp [hcalm]), ← index_of_moves hm ((Cursor.over_start ts).of_moves hm) hkind]
    rfl

theorem walk_round {fuel : Nat} {inBlock : Bool} {p : Position} (h : p.index < (Cursor.start ts).tokens.length)
    (hfuel : Expr.fuelFor ((Cursor.start ts).tokens.length - p.index) ≤ fuel) :
    (∃ r p', Walk.round fuel inBlock (Walk.statement fuel) (Cursor.start ts).tokens p = .ok (some r, p') ∧
        p'.index < (Cursor.start ts).tokens.length ∧ (r ≠ none → p.index < p'.index)) ∨
      Walk.round fuel inBlock (Walk.statement fuel) (Cursor.start ts).tokens p = .error .overflow ∧
        NegatesLeast (Cursor.start ts).tokens := by
  obtain ⟨c, hc, hcalm, rfl, hlength⟩ := exists_over_position h
  generalize (Cursor.start ts).tokens = all at hc h hlength hfuel ⊢
  rw [← hlength] at hfuel
  simp only [Expr.fuelFor] at hfuel
  have hfollows : Walk.Follows all (Walk.round fuel inBlock (Walk.statement fuel))
      (Expr.round inBlock (Expr.statement fuel)) c :=
    Walk.follows_round hc (by omega) (Expr.readersRead fuel).statement fun c₁ hc₁ hle₁ =>
      (Walk.readersFollow all fuel).statement hc₁ (by simp only [Expr.Fed]; omega)
  obtain ⟨hwalk, hover⟩ := hfollows hcalm
  have hends := Expr.round_ends inBlock c (Expr.readersRead fuel).statement
  rcases hround : (Expr.round inBlock (Expr.statement fuel)).run c with ⟨_ | r, c'⟩
  · rw [hround] at hwalk hover hends
    have hends : c'.overflowed = true := hends
    rw [if_pos hends] at hwalk
    exact .inr ⟨hwalk, (hover hends).2⟩
  · obtain ⟨hwalk, -⟩ := hfollows.of_some hcalm hround
    rw [hround] at hends
    cases r with
    | none => exact .inl ⟨none, c'.position all, hwalk, (hc.of_reads hends.1).index_lt, fun hr => absurd rfl hr⟩
    | some found =>
      obtain ⟨hreads, hfewer⟩ := hends
      have hle := hc.length_le
      refine .inl ⟨some found, c'.position all, hwalk, (hc.of_reads hreads).index_lt, fun _ => ?_⟩
      simp only [Cursor.position]
      omega

/-- Reading comes to the first end in the list, which is there, or is put behind it: with fuel for its tokens no
access is out of bounds, no loop goes on for ever, and what is read is what the parser reads.  The same holds of each
turn of a loop over statements, wherever it starts, and one that goes on has moved forward.  Only arithmetic can stop a
reader, where an index is the least integer behind a minus. -/
theorem parse_terminates (ts : List Token) :
    let all := (Cursor.start ts).tokens
    (all = ts ∨ ∃ stop : Token, stop.kind = .eof ∧ all = ts ++ [stop]) ∧
    all.findIdx (·.kind == .eof) < all.length ∧
    (∀ fuel, Expr.fuelFor all.length ≤ fuel →
      Walk.statements fuel false all ⟨0, []⟩ =
        match Expr.parse ts with
        | .ok (es, ds) => .ok (some es, ⟨all.findIdx (·.kind == .eof), ds⟩)
        | .error _ => .error .overflow) ∧
    (∀ o, Expr.parse ts = .error o → NegatesLeast all) ∧
    ∀ fuel inBlock, ∀ p : Position, p.index < all.length → Expr.fuelFor (all.length - p.index) ≤ fuel →
      (∃ r p', Walk.round fuel inBlock (Walk.statement fuel) all p = .ok (some r, p') ∧ p'.index < all.length ∧
          (r ≠ none → p.index < p'.index)) ∨
        Walk.round fuel inBlock (Walk.statement fuel) all p = .error .overflow ∧ NegatesLeast all := by
  obtain ⟨inner, stop, hstop, htokens, hts⟩ := Cursor.exists_start ts
  refine ⟨?_, ?_, fun fuel => walk_statements, fun o => negatesLeast_of_parse, fun fuel inBlock p => walk_round⟩
  · rw [htokens]
    rcases hts with rfl | rfl
    · exact .inl rfl
    · exact .inr ⟨stop, hstop, rfl⟩
  · rw [htokens]
    exact List.findIdx_lt_length_of_exists ⟨stop, by simp, by simp [hstop]⟩

/-- A block that is never closed, in a list of tokens without an end. -/
def unclosed : List Token :=
  [⟨.lBrace, "\x7b", ⟨0, 1, 1, 1⟩⟩, ⟨.path [.key "a"], ".a", ⟨2, 4, 1, 3⟩⟩]

/-- No index stands in it, so that reading comes to the end. -/
theorem parse_terminates_unclosed :
    let ds : List Diagnostic :=
      [{ code := .syntaxError
         message := "unclosed block"
         span := some ⟨0, 1, 1, 1⟩
         label := some "this `\x7b` is never closed" }]
    Expr.parse unclosed = .ok ([], ds) ∧
      Walk.statements 40 false (Cursor.start unclosed).tokens ⟨0, []⟩ = .ok (some [], ⟨2, ds⟩) ∧
      ∃ r p', Walk.round 30 true (Walk.statement 30) (Cursor.start unclosed).tokens ⟨1, []⟩ = .ok (some r, p') ∧
        p'.index < 3 ∧ (r ≠ none → 1 < p'.index) := by
  intro ds
  obtain ⟨-, -, hwalk, -, hround⟩ := parse_terminates unclosed
  obtain ⟨es, hparse, hes⟩ : ∃ es, Expr.parse unclosed = .ok (es, ds) ∧ es.isEmpty = true :=
    Expr.exists_of_map_parse (by decide +kernel)
  obtain rfl : es = [] := List.isEmpty_iff.1 hes
  have hwalk := hwalk 40 (by decide)
  rw [hparse] at hwalk
  have hleast : ¬NegatesLeast (Cursor.start unclosed).tokens := by decide +kernel
  exact ⟨hparse, hwalk, (hround 30 true ⟨1, []⟩ (by decide) (by decide)).resolve_right fun h => hleast h.2⟩

/-- A minus stands before the least integer in an index: reading ends in an overflow, not at the end of the list. -/
theorem parse_overflows :
    let ts := (tokenize "f()[- -9223372036854775808]").1
    (tokenize "f()[- -9223372036854775808]").2 = [] ∧ Expr.parse ts = .error ⟨⟩ ∧
      Walk.statements (Expr.fuelFor (Cursor.start ts).tokens.length) false (Cursor.start ts).tokens ⟨0, []⟩ =
        .error .overflow := by
  intro ts
  have hparse : Expr.parse ts = .error ⟨⟩ := Expr.parse_eq_error_of_map (by decide +kernel)
  refine ⟨by decide +kernel, hparse, ?_⟩
  rw [walk_statements (Nat.le_refl _), hparse]

end Reshape
