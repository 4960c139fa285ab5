/-
Program text as tokens.

Every token carries its text and its region. Text that is no token becomes one invalid token up to the end
of its statement, together with the diagnostic that says why; line breaks in a row count as one. The last
token is the end of the program. Main statements:

* `Scan.length_token_lt` — a scanned token takes at least one character;
* `Lexer.run` — the tokens of a text, from any place and after any token.
-/
import Reshape.Token.Scanner

namespace Reshape

namespace Scan

/-! ### Every scanner moves on -/

theorem length_skipTrivia_le (s : List Char) : (skipTrivia s).length ≤ s.length := by
  fun_induction skipTrivia s with
  | case1 => simp
  | case2 c rest _ ih => simp; omega
  | case3 rest _ ih =>
    have := length_dropWhile_le (· != '\n') rest
    simp; omega
  | case4 => simp

theorem length_recover_le (depth : Nat) (s : List Char) : (recover depth s).length ≤ s.length := by
  fun_induction recover depth s with
  | case1 => simp
  | case2 => simp
  | case3 depth c rest _ _ ih =>
    have := length_skipQuoted_le c rest
    simp; omega
  | case4 depth rest _ _ ih =>
    have := length_dropWhile_le (· != '\n') rest
    simp; omega
  | _ => simp; omega

theorem length_rest_stringBody {s rest : List Char} (h : (stringBody s).rest = some rest) :
    rest.length < s.length := by
  induction hn : s.length using Nat.strongRecOn generalizing s with
  | _ n ih =>
    cases s with
    | nil => simp [stringBody] at h
    | cons c s =>
      rw [stringBody] at h
      split at h
      · simp at h; subst h; simp at hn; omega
      · split at h
        · have hle := length_escape_le s
          simp only [List.length_cons] at hn
          have key := fun h' => ih (escape s).2.length (by omega) (s := (escape s).2) h' rfl
          cases hd : (escape s).1 <;> simp only [hd] at h <;> exact Nat.lt_trans (key h) (by omega)
        · simp only [List.length_cons] at hn
          exact Nat.lt_trans (ih s.length (by omega) h rfl) (by omega)

theorem length_string_lt {c : Char} {s : List Char} :
    (string (c :: s)).2.length < (c :: s).length := by
  unfold string
  simp only [List.drop_one, List.tail_cons]
  split
  · simp
  · rename_i rest _ _ h _
    exact Nat.lt_succ_of_lt (length_rest_stringBody h)
  · rename_i rest h _
    exact Nat.lt_succ_of_lt (length_rest_stringBody h)

theorem length_rawBody_lt {s text rest : List Char} (h : rawBody s = some (text, rest)) :
    rest.length < s.length := by
  fun_induction rawBody s generalizing text with
  | case1 => simp at h
  | case2 => simp at h; simp [h.2]
  | case3 s ih =>
    obtain ⟨⟨t, l⟩, ht, he⟩ := Option.map_eq_some_iff.1 h
    simp at he
    have := @ih t (by rw [ht, he.2])
    simp; omega
  | case4 c s _ _ ih =>
    obtain ⟨⟨t, l⟩, ht, he⟩ := Option.map_eq_some_iff.1 h
    simp at he
    have := @ih t (by rw [ht, he.2])
    simp; omega

theorem length_rawString_lt {c : Char} {s : List Char} :
    (rawString (c :: s)).2.length < (c :: s).length := by
  unfold rawString
  split
  · rename_i text rest h
    have := length_rawBody_lt h
    simp only [List.length_drop, List.length_cons] at this ⊢
    omega
  · simp

theorem length_timestamp_lt {c : Char} {s : List Char} :
    (timestamp (c :: s)).2.length < (c :: s).length := by
  unfold timestamp
  have hle := length_dropWhile_le (· != '\'') ((c :: s).drop 2)
  split
  · simp
  · rename_i rest h
    rw [h] at hle
    simp only [List.length_drop, List.length_cons] at hle ⊢
    split <;> simp <;> omega

theorem length_index_le (s : List Char) : (index s).2.length ≤ s.length := by
  unfold index
  dsimp only
  split
  · rename_i rest h
    have := congrArg List.length h
    simp only [List.length_drop, List.length_cons] at this
    split <;> simp <;> omega
  · simp only [List.length_drop]; omega

theorem length_keyOrString_le (s : List Char) : (keyOrString s).2.length ≤ s.length := by
  unfold keyOrString
  split
  · exact Nat.le_of_lt length_string_lt
  · exact length_dropWhile_le _ _

theorem length_segment_le {s rest : List Char} {r : Except Issue Segment}
    (h : segment? s = some (r, rest)) : rest.length ≤ s.length := by
  unfold segment? at h
  split at h
  · have := length_keyOrString_le (s.drop 1)
    simp only [Option.some.injEq, Prod.mk.injEq] at h
    rw [← h.2]
    simp only [List.length_drop] at this
    omega
  · split at h
    · simp only [Option.some.injEq, Prod.mk.injEq] at h
      rw [← h.2]
      exact length_index_le s
    · simp at h

theorem length_segments_le (fuel : Nat) (s : List Char) : (segments fuel s).2.length ≤ s.length := by
  induction fuel generalizing s with
  | zero => simp [segments]
  | succ fuel ih =>
    unfold segments
    split
    · simp
    · rename_i h; exact length_segment_le h
    · rename_i rest h
      exact Nat.le_trans (ih rest) (length_segment_le h)

/-- The first key of a path takes its point at least. -/
theorem length_segments_lt {fuel : Nat} {s : List Char} (hs : startsKey s = true) :
    (segments (fuel + 1) s).2.length < s.length := by
  have hlen : 0 < s.length := by
    cases s with
    | nil => simp [startsKey] at hs
    | cons => simp
  have hseg : ∀ {r rest}, segment? s = some (r, rest) → rest.length < s.length := by
    intro r rest h
    have := length_keyOrString_le (s.drop 1)
    simp only [segment?, hs, if_true, Option.some.injEq, Prod.mk.injEq] at h
    rw [← h.2]
    simp only [List.length_drop] at this
    omega
  unfold segments
  split
  · rename_i h; simp [segment?, hs] at h
  · rename_i h; exact hseg h
  · rename_i rest h
    exact Nat.lt_of_le_of_lt (length_segments_le fuel rest) (hseg h)

theorem length_path_lt {c : Char} {s : List Char} : (path (c :: s)).2.length < (c :: s).length := by
  unfold path
  split
  · rename_i h
    exact @length_segments_lt s.length _ h
  · simp

theorem length_wholePart_pos {c : Char} {s : List Char} (h : c = '-' ∨ c.isDigit = true) :
    0 < (wholePart (c :: s)).length := by
  simp only [wholePart]
  split
  · simp
  · rename_i hc
    simp [isNumberChar, h.resolve_left hc]

theorem length_number_lt {c : Char} {s : List Char} (h : c = '-' ∨ c.isDigit = true) :
    (number (c :: s)).2.length < (c :: s).length := by
  have hw := length_wholePart_pos (s := s) h
  unfold number
  dsimp only
  split
  · simp only [List.length_drop, List.length_append, List.length_cons]; omega
  · split
    · split <;> simp only [List.length_drop, List.length_append, List.length_cons] <;> omega
    · split <;> simp only [List.length_drop, List.length_append, List.length_cons] <;> omega

theorem length_word_lt {c : Char} {s : List Char} (h : isIdentStart c = true) :
    (word (c :: s)).2.length < (c :: s).length := by
  have hc : isIdentChar c = true := by
    simp only [isIdentStart, isIdentChar, Char.isAlphanum, Bool.or_eq_true] at h ⊢
    exact h.elim (fun h => .inl (.inl h)) .inr
  simp only [word, List.dropWhile_cons, hc, if_true]
  exact Nat.lt_succ_of_le (length_dropWhile_le _ _)

theorem symbol_width_pos {s : List Char} {kind : TokenKind} {width : Nat}
    (h : symbol? s = some (kind, width)) : 0 < width := by
  unfold symbol? at h
  split at h <;> simp at h <;> omega

theorem length_symbol_lt {c : Char} {s : List Char} :
    (symbol (c :: s)).2.length < (c :: s).length := by
  unfold symbol
  split
  · rename_i h
    have := symbol_width_pos h
    simp only [List.length_drop, List.length_cons]; omega
  · simp

/-- A token takes at least one character. -/
theorem length_token_lt (before : Before) (c : Char) (s : List Char) :
    (token before (c :: s)).2.length < (c :: s).length := by
  unfold token
  split
  · exact length_path_lt
  · exact length_string_lt
  · exact length_rawString_lt
  · exact length_timestamp_lt
  · rename_i heq
    split
    · exact length_number_lt (.inl (List.cons.inj heq).1)
    · exact length_symbol_lt
  · split
    · simp
    · exact length_symbol_lt
  · rename_i heq
    obtain ⟨rfl, -⟩ := List.cons.inj heq
    split
    · rename_i h; exact length_number_lt (.inr h)
    · split
      · rename_i h; exact length_word_lt h
      · exact length_symbol_lt
  · rename_i h; simp at h

end Scan

/-- A token and, if it is invalid, the diagnostic that says why. -/
structure Lexeme where
  token : Token
  issue : Option Diagnostic := none

namespace Lexer

/-- The text between two places, given the text from each of them on. -/
def between (s rest : List Char) : List Char :=
  s.take (s.length - rest.length)

/-- What the next token has to know of the last one. -/
def beforeAt (last : Option Token) (m : Mark) : Scan.Before :=
  match last with
  | none => ⟨false, false⟩
  | some t =>
    { isOperand := t.kind.endsOperand
      isNameHere := (match t.kind with | .ident _ => true | _ => false) && t.span.stop == m.offset }

/-- The diagnostic of an issue in a token that starts at `m` with the text `s`. -/
def diagnosticOf (m : Mark) (s : List Char) (e : Issue) : Diagnostic :=
  { code := e.code
    message := e.message
    span := some ((m.past (s.take (s.length - e.leftAtStart))).spanTo
      (m.past (s.take (s.length - e.leftAtStop))))
    label := some e.label }

/-- The token of a kind that covers the text between two places. -/
def tokenOf (kind : TokenKind) (m : Mark) (s rest : List Char) : Token :=
  ⟨kind, String.ofList (between s rest), m.spanTo (m.past (between s rest))⟩

def isNewline : Option Token → Bool
  | some t => t.kind == .newline
  | none => false

/-- The tokens of the text `s` at place `m`, after the token `last`. -/
def run (last : Option Token) (m : Mark) (s : List Char) : List Lexeme :=
  let trimmed := Scan.skipTrivia s
  let m := m.past (between s trimmed)
  match _h : trimmed with
  | [] => [⟨tokenOf .eof m [] [], none⟩]
  | c :: rest =>
    if c = '\n' && isNewline last then run last (m.next c) rest
    else
      match _ht : Scan.token (beforeAt last m) (c :: rest) with
      | (.ok kind, rest') =>
        let token := tokenOf kind m (c :: rest) rest'
        ⟨token, none⟩ :: run (some token) (m.past (between (c :: rest) rest')) rest'
      | (.error e, rest') =>
        let rest'' := Scan.recover 0 rest'
        let token := tokenOf .invalid m (c :: rest) rest''
        ⟨token, some (diagnosticOf m (c :: rest) e)⟩
          :: run (some token) (m.past (between (c :: rest) rest'')) rest''
termination_by s.length
decreasing_by
  all_goals
    have htrim : (c :: rest).length ≤ s.length := _h ▸ Scan.length_skipTrivia_le s
  · simp only [List.length_cons] at htrim; omega
  · have := Scan.length_token_lt (beforeAt last m) c rest
    rw [_ht] at this
    exact Nat.lt_of_lt_of_le this htrim
  · have h1 := Scan.length_token_lt (beforeAt last m) c rest
    rw [_ht] at h1
    have h2 := Scan.length_recover_le 0 rest'
    exact Nat.lt_of_le_of_lt h2 (Nat.lt_of_lt_of_le h1 htrim)

end Lexer

/-- The tokens of a program and the diagnostics of its invalid tokens, in order. -/
def tokenize (source : String) : List Token × List Diagnostic :=
  let lexemes := Lexer.run none Mark.origin source.toList
  (lexemes.map (·.token), lexemes.filterMap (·.issue))

namespace Path

/-- The path that is all of a text, or the message that says why there is none. -/
def read (text : String) : Except String Path :=
  match tokenize text with
  | (_, d :: _) => .error d.message
  | (tokens, []) =>
    match (tokens.map (·.kind)).filter (· != .eof) with
    | [TokenKind.path p] => .ok p
    | _ => .error s!"invalid field path: {text}"

end Path

end Reshape
