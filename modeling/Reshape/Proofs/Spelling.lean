/-
Scanners on written tokens.

What a token is written as, its scanner reads back, up to the next character: strings with their escapes, paths
with their quoted keys and indices, numbers with their sign, and words.

* `Scan.stringBody_quote` — the inside of a string;
* `Scan.path_write` — a path;
* `Scan.number_intText` — an integer;
* `Scan.token_write` — any token, before a character that it `allows`.
-/
import Mathlib.Data.List.TakeWhile
import Reshape.Proofs.Writing
import Reshape.Proofs.Scanning

namespace Reshape

namespace Scan

/-! ### Numerals -/

theorem digitToNat_hexDigit {d : Nat} (h : d < 16) :
    isHexDigit (Nat.digitChar d) = true ∧
      (Nat.digitChar d).toLower.toNat - (if (Nat.digitChar d).isDigit then 48 else 87) = d := by
  revert h
  revert d
  decide

theorem hexValue_append (xs ys : List Char) :
    hexValue (xs ++ ys) =
      ys.foldl (fun n c => 16 * n + (c.toLower.toNat - if c.isDigit then 48 else 87)) (hexValue xs) := by
  rw [hexValue, List.foldl_append]
  rfl

/-- The hexadecimal digits of a number are its numeral. -/
theorem hexValue_toDigits (n : Nat) : hexValue (Nat.toDigits 16 n) = n := by
  induction n using Nat.strongRecOn with
  | _ n ih =>
    by_cases hn : n < 16
    · rw [Nat.toDigits_of_lt_base hn, hexValue, List.foldl_cons, List.foldl_nil, (digitToNat_hexDigit hn).2]
      omega
    · rw [Nat.toDigits_of_base_le (by decide) (by omega), hexValue_append, ih (n / 16) (by omega)]
      simp only [List.foldl_cons, List.foldl_nil, (digitToNat_hexDigit (Nat.mod_lt n (by decide))).2]
      omega

theorem isHexDigit_of_mem_toDigits {n : Nat} {c : Char} (h : c ∈ Nat.toDigits 16 n) : isHexDigit c = true := by
  induction n using Nat.strongRecOn with
  | _ n ih =>
    by_cases hn : n < 16
    · rw [Nat.toDigits_of_lt_base hn, List.mem_singleton] at h
      rw [h]
      exact (digitToNat_hexDigit hn).1
    · rw [Nat.toDigits_of_base_le (by decide) (by omega), List.mem_append, List.mem_singleton] at h
      rcases h with h | rfl
      · exact ih (n / 16) (by omega) h
      · exact (digitToNat_hexDigit (Nat.mod_lt n (by decide))).1

theorem digitsValue_toDigits (n : Nat) : digitsValue (Nat.toDigits 10 n) = n := by
  rw [digitsValue]
  exact Nat.ofDigitChars_toDigits (by decide) (by decide)

/-! ### Strings -/

theorem charOf?_toNat (c : Char) : charOf? c.toNat = some c := by
  have hc : c.toNat < 0xD800 ∨ 0xE000 ≤ c.toNat ∧ c.toNat ≤ 0x10FFFF := by
    rcases c.valid with h | ⟨h₁, h₂⟩
    · exact .inl h
    · refine .inr ⟨h₁, ?_⟩
      have : c.toNat < 0x110000 := h₂
      omega
  rw [charOf?, if_pos (by simpa using hc), Char.ofNat_toNat]

theorem length_codeDigits_le (c : Char) : (Text.Quoted.codeDigits c).length ≤ 6 := by
  have hc : c.toNat < 16 ^ 6 := by
    rcases c.valid with h | ⟨-, h⟩
    · exact Nat.lt_trans h (by decide)
    · exact Nat.lt_trans h (by decide)
  exact (Nat.length_toDigits_le_iff (by decide) (by decide)).2 hc

/-- The code point of a character is read back. -/
theorem codePoint_codeDigits (c : Char) (t : List Char) :
    codePoint ('\x7b' :: Text.Quoted.codeDigits c ++ '\x7d' :: t) = (some c, t) := by
  have hlength := length_codeDigits_le c
  have hhex : ∀ d ∈ Text.Quoted.codeDigits c, isHexDigit d = true := fun d => isHexDigit_of_mem_toDigits
  have hrun : ((Text.Quoted.codeDigits c ++ '\x7d' :: t).take 7).takeWhile isHexDigit =
      Text.Quoted.codeDigits c := by
    obtain ⟨n, hn⟩ : ∃ n, 7 - (Text.Quoted.codeDigits c).length = n + 1 :=
      ⟨6 - (Text.Quoted.codeDigits c).length, by omega⟩
    rw [List.take_append, List.take_of_length_le (by omega), hn, List.take_succ_cons,
      List.takeWhile_append_of_pos hhex, List.takeWhile_cons_of_neg (by decide), List.append_nil]
  have hne : Text.Quoted.codeDigits c ≠ [] := Nat.toDigits_ne_nil
  rw [List.cons_append, codePoint, hrun, List.drop_left, braced, if_neg (by simpa using hne),
    Text.Quoted.codeDigits, hexValue_toDigits, charOf?_toNat]

/-- An escaped character is read back, and the text behind it as it would be by itself. -/
theorem stringBody_escape (c : Char) (t : List Char) :
    stringBody (Text.Quoted.escape c ++ t) = { stringBody t with text := c :: (stringBody t).text } := by
  unfold Text.Quoted.escape
  split
  case h_7 =>
    rename_i hbackslash hquote
    split
    · -- a hidden character stands by its code point
      have hescape : escape ('u' :: '\x7b' :: Text.Quoted.codeDigits c ++ ['\x7d'] ++ t) = (some c, t) := by
        rw [List.append_assoc]
        exact codePoint_codeDigits c t
      rw [List.cons_append, List.cons_append, stringBody, if_neg (by decide), if_pos rfl, hescape]
    · rw [List.singleton_append, stringBody, if_neg hquote, if_neg hbackslash]
  all_goals
    rw [List.cons_append, stringBody, if_neg (by decide), if_pos rfl]
    rfl

/-- The inside of a string and its closing quote. -/
theorem stringBody_quote (cs t : List Char) :
    stringBody (cs.flatMap Text.Quoted.escape ++ '"' :: t) = ⟨cs, none, some t⟩ := by
  induction cs with
  | nil => rw [List.flatMap_nil, List.nil_append, stringBody, if_pos rfl]
  | cons c cs ih => rw [List.flatMap_cons, List.append_assoc, stringBody_escape, ih]

theorem string_quote (cs t : List Char) :
    string (Text.Quoted.quote cs ++ t) = (.ok (String.ofList cs), t) := by
  have hbody : stringBody ((Text.Quoted.quote cs ++ t).drop 1) = ⟨cs, none, some t⟩ := by
    rw [Text.Quoted.quote, List.append_assoc]
    exact stringBody_quote cs t
  rw [string, hbody]

/-! ### Runs of characters -/

/-- A character that can stand behind any token: a blank, a line break, or a mark that closes or separates. -/
def isDelimiter (c : Char) : Bool :=
  c == ' ' || c == '\n' || c == ')' || c == ',' || c == ']'

theorem ne_of_isDelimiter {c d : Char} (hc : isDelimiter c = true) (hd : isDelimiter d = false) : c ≠ d := by
  rintro rfl
  rw [hc] at hd
  cases hd

theorem isKeyChar_of_isDelimiter {c : Char} (h : isDelimiter c = true) : isKeyChar c = false := by
  simp only [isDelimiter, Bool.or_eq_true, beq_iff_eq] at h
  rcases h with (((rfl | rfl) | rfl) | rfl) | rfl
  all_goals rfl

theorem takeWhile_eq_nil {p : Char → Bool} {s : List Char} (h : p (next s) = false) : s.takeWhile p = [] := by
  cases s with
  | nil => rfl
  | cons c s => exact List.takeWhile_cons_of_neg (by simpa [next] using h)

variable {p : Char → Bool} {cs t : List Char}

/-- A run of characters ends where the next character is of another kind. -/
theorem takeWhile_before (hcs : ∀ c ∈ cs, p c = true) (ht : p (next t) = false) :
    (cs ++ t).takeWhile p = cs := by
  rw [List.takeWhile_append_of_pos hcs, takeWhile_eq_nil ht, List.append_nil]

theorem dropWhile_before (hcs : ∀ c ∈ cs, p c = true) (ht : p (next t) = false) :
    (cs ++ t).dropWhile p = t := by
  rw [List.dropWhile_append_of_pos hcs]
  cases t with
  | nil => rfl
  | cons c t => exact List.dropWhile_cons_of_neg (by simpa [next] using ht)

/-! ### Integers -/

def sign (n : Int) : List Char :=
  if n < 0 then ['-'] else []

def digits (n : Int) : List Char :=
  Nat.toDigits 10 n.natAbs

theorem intText_eq (n : Int) : intText n = sign n ++ digits n := by
  rw [intText, sign, digits]
  split
  · rfl
  · rfl

theorem isDigit_of_mem_digits {n : Int} {c : Char} (h : c ∈ digits n) : c.isDigit = true :=
  Nat.isDigit_of_mem_toDigits (by decide) (by decide) h

theorem exists_digits (n : Int) : ∃ c cs, digits n = c :: cs ∧ c.isDigit = true := by
  obtain ⟨c, cs, h⟩ := List.exists_cons_of_ne_nil (Nat.toDigits_ne_nil : digits n ≠ [])
  exact ⟨c, cs, h, isDigit_of_mem_digits (h ▸ List.mem_cons_self)⟩

theorem int64?_minus (cs : List Char) : int64? ('-' :: cs) = fit? (-digitsValue cs) := rfl

theorem int64?_digits (n : Int) : int64? (digits n) = fit? n.natAbs := by
  obtain ⟨c, cs, hdigits, hc⟩ := exists_digits n
  have hvalue : digitsValue (digits n) = n.natAbs := digitsValue_toDigits _
  unfold int64?
  split
  · rename_i cs' heq
    rw [hdigits, List.cons.injEq] at heq
    rw [heq.1] at hc
    cases hc
  · rw [hvalue]

/-- An integer is read back with its sign. -/
theorem int64?_intText (i : Int64) : int64? (sign i.toInt ++ digits i.toInt) = some i := by
  by_cases hi : i.toInt < 0
  · have hvalue : digitsValue (digits i.toInt) = i.toInt.natAbs := digitsValue_toDigits _
    have habs : -(i.toInt.natAbs : Int) = i.toInt := by omega
    rw [sign, if_pos hi, List.singleton_append, int64?_minus, hvalue, habs, fit?_toInt]
  · have habs : (i.toInt.natAbs : Int) = i.toInt := by omega
    rw [sign, if_neg hi, List.nil_append, int64?_digits, habs, fit?_toInt]

theorem next_digits (n : Int) (t : List Char) : (next (digits n ++ t)).isDigit = true := by
  obtain ⟨c, cs, hdigits, hc⟩ := exists_digits n
  rw [hdigits]
  exact hc

theorem takeWhile_sign (n : Int) (t : List Char) :
    (sign n ++ (digits n ++ t)).takeWhile (· == '-') = sign n := by
  refine takeWhile_before (fun c hc => ?_) ?_
  · unfold sign at hc
    split at hc
    · rw [List.mem_singleton.1 hc]
      rfl
    · cases hc
  · have hdigit := next_digits n t
    by_contra hminus
    rw [Bool.not_eq_false, beq_iff_eq] at hminus
    rw [hminus] at hdigit
    cases hdigit

theorem length_sign_le (n : Int) : (sign n).length ≤ 1 := by
  unfold sign
  split
  · exact Nat.le_refl _
  · exact Nat.zero_le _

/-- An index in brackets. -/
theorem index_write (i : Int64) (t : List Char) :
    index ('[' :: intText i.toInt ++ ']' :: t) = (.ok i, t) := by
  have hsign : ((sign i.toInt ++ (digits i.toInt ++ ']' :: t)).takeWhile (· == '-')).take 1 = sign i.toInt := by
    rw [takeWhile_sign, List.take_of_length_le (length_sign_le _)]
  have hdrop : ('[' :: (sign i.toInt ++ (digits i.toInt ++ ']' :: t))).drop (1 + (sign i.toInt).length) =
      digits i.toInt ++ ']' :: t := by
    rw [Nat.add_comm, List.drop_succ_cons, List.drop_left]
  have hrun : (digits i.toInt ++ ']' :: t).takeWhile Char.isDigit = digits i.toInt :=
    takeWhile_before (fun _ => isDigit_of_mem_digits) rfl
  have hclose : ('[' :: (sign i.toInt ++ (digits i.toInt ++ ']' :: t))).drop
      (1 + (sign i.toInt).length + (digits i.toInt).length) = ']' :: t := by
    rw [← List.drop_drop, hdrop, List.drop_left]
  rw [intText_eq, List.cons_append, List.append_assoc, index]
  simp only [List.drop_one, List.tail_cons, hsign, hdrop, hrun, hclose, int64?_intText]

theorem wholePart_intText (n : Int) (ht : isNumberChar (next t) = false) :
    wholePart (intText n ++ t) = intText n := by
  have hdigits : ∀ c ∈ digits n, isNumberChar c = true := by
    intro c hc
    rw [isNumberChar, isDigit_of_mem_digits hc, Bool.true_or]
  rw [intText_eq, sign]
  split
  · rw [List.singleton_append, List.cons_append, wholePart, if_pos rfl, takeWhile_before hdigits ht]
  · obtain ⟨c, cs, hcs, hc⟩ := exists_digits n
    have hminus : c ≠ '-' := by
      rintro rfl
      cases hc
    rw [List.nil_append]
    conv_lhs => rw [hcs, List.cons_append, wholePart, if_neg hminus, ← List.cons_append, ← hcs]
    exact takeWhile_before hdigits ht

theorem fractionPart_eq_nil (h : next t ≠ '.') : fractionPart t = [] := by
  unfold fractionPart
  split
  · exact absurd rfl h
  · rfl

theorem exponentPart_eq_nil (h : next t ≠ 'e') (h' : next t ≠ 'E') : exponentPart t = [] := by
  cases t with
  | nil => rfl
  | cons c t =>
    have hc : c ≠ 'e' := h
    have hc' : c ≠ 'E' := h'
    simp [exponentPart, hc, hc']

theorem filter_intText (n : Int) : (intText n).filter (· != '_') = intText n := by
  rw [List.filter_eq_self]
  intro c hc
  rw [intText_eq, List.mem_append] at hc
  rcases hc with hc | hc
  · unfold sign at hc
    split at hc
    · rw [List.mem_singleton.1 hc]
      rfl
    · cases hc
  · have hdigit := isDigit_of_mem_digits hc
    simp only [bne_iff_ne, ne_eq]
    rintro rfl
    cases hdigit

/-- A number ends before a delimiter. -/
theorem number_intText (i : Int64) (ht : isDelimiter (next t) = true) :
    number (intText i.toInt ++ t) = (.ok (.integer i), t) := by
  have hkey := isKeyChar_of_isDelimiter ht
  have hnumber : isNumberChar (next t) = false := by
    simp only [isKeyChar, Char.isAlphanum, Bool.or_eq_false_iff] at hkey
    simp [isNumberChar, hkey]
  have hpoint : next t ≠ '.' := ne_of_isDelimiter ht rfl
  have hmark : next t ≠ 'e' ∧ next t ≠ 'E' := ⟨ne_of_isDelimiter ht rfl, ne_of_isDelimiter ht rfl⟩
  have hrest : (intText i.toInt ++ t).drop (intText i.toInt).length = t := List.drop_left
  rw [number, wholePart_intText _ hnumber, hrest, fractionPart_eq_nil hpoint]
  simp only [List.length_nil, Nat.add_zero, hrest, exponentPart_eq_nil hmark.1 hmark.2, List.append_nil,
    takeWhile_eq_nil hkey, filter_intText]
  rw [intText_eq, int64?_intText]
  rfl

/-! ### Paths -/

theorem keyOrString_plain {name : String} (hname : isPlainKey name.toList = true) (ht : isKeyChar (next t) = false) :
    keyOrString (name.toList ++ t) = (.ok name, t) := by
  rw [isPlainKey, Bool.and_eq_true, List.all_eq_true] at hname
  obtain ⟨hne, hkey⟩ := hname
  unfold keyOrString
  split
  · -- a quote is no character of keys
    rename_i s heq
    cases hcs : name.toList with
    | nil => simp [hcs] at hne
    | cons c cs =>
      rw [hcs, List.cons_append, List.cons.injEq] at heq
      have hc := hkey c (hcs ▸ List.mem_cons_self)
      rw [heq.1] at hc
      cases hc
  · rw [key, takeWhile_before hkey ht, dropWhile_before hkey ht, String.ofList_toList]

theorem keyOrString_quote (cs t : List Char) :
    keyOrString (Text.Quoted.quote cs ++ t) = (.ok (String.ofList cs), t) :=
  string_quote cs t

theorem startsKey_key (name : String) (t : List Char) : startsKey ((Segment.key name).write ++ t) = true := by
  unfold Segment.write
  dsimp only
  split
  · rename_i hname
    rw [isPlainKey, Bool.and_eq_true, List.all_eq_true] at hname
    cases hcs : name.toList with
    | nil => simp [hcs] at hname
    | cons c cs => simp [startsKey, hname.2 c (hcs ▸ List.mem_cons_self)]
  · rfl

/-- A key after its point. -/
theorem segment?_key (name : String) (ht : isKeyChar (next t) = false) :
    segment? ((Segment.key name).write ++ t) = some (.ok (.key name), t) := by
  rw [segment?, if_pos (startsKey_key name t)]
  unfold Segment.write
  dsimp only
  split
  · rename_i hname
    rw [List.cons_append, List.drop_one, List.tail_cons, keyOrString_plain hname ht]
    rfl
  · rw [List.cons_append, List.drop_one, List.tail_cons, keyOrString_quote, String.ofList_toList]
    rfl

theorem startsIndex_digit {c : Char} (hc : c.isDigit = true) (s : List Char) : startsIndex ('[' :: c :: s) = true := by
  unfold startsIndex
  split
  · rename_i d rest heq
    simp only [List.cons.injEq, true_and] at heq
    rw [heq.1] at hc
    cases hc
  · rename_i heq
    simp only [List.cons.injEq, true_and] at heq
    rwa [← heq.1]
  · rename_i hne
    exact absurd rfl (hne c s)

theorem segment?_index (i : Int64) (t : List Char) :
    segment? ((Segment.index i).write ++ t) = some (.ok (.index i), t) := by
  have hindex : index ((Segment.index i).write ++ t) = (.ok i, t) := by
    simpa [Segment.write] using index_write i t
  have hkey : startsKey ((Segment.index i).write ++ t) = false := rfl
  have hstarts : startsIndex ((Segment.index i).write ++ t) = true := by
    obtain ⟨c, cs, hdigits, hc⟩ := exists_digits i.toInt
    rw [Segment.write, intText_eq, hdigits, sign]
    split
    · exact hc
    · exact startsIndex_digit hc _
  rw [segment?, if_neg (by simp [hkey]), if_pos hstarts, hindex]
  rfl

theorem next_segment (s : Segment) (t : List Char) : isKeyChar (next (s.write ++ t)) = false := by
  cases s with
  | key name =>
    unfold Segment.write
    dsimp only
    split
    · rfl
    · rfl
  | index i => rfl

theorem length_segment_pos (s : Segment) : 0 < s.write.length := by
  cases s with
  | key name =>
    unfold Segment.write
    dsimp only
    split
    · simp
    · simp
  | index i => simp [Segment.write]

/-- Segments, up to a character that starts none. -/
theorem segments_write {fuel : Nat} {p : Path} (hfuel : p.length ≤ fuel) (ht : isKeyChar (next t) = false)
    (hend : segment? t = none) : segments fuel (p.flatMap Segment.write ++ t) = (.ok p, t) := by
  induction p generalizing fuel with
  | nil =>
    cases fuel with
    | zero => rfl
    | succ fuel => rw [List.flatMap_nil, List.nil_append, segments, hend]
  | cons s p ih =>
    cases fuel with
    | zero => cases hfuel
    | succ fuel =>
      have hnext : isKeyChar (next (p.flatMap Segment.write ++ t)) = false := by
        cases p with
        | nil => exact ht
        | cons s' p =>
          rw [List.flatMap_cons, List.append_assoc]
          exact next_segment s' _
      have hsegment : segment? (s.write ++ (p.flatMap Segment.write ++ t)) =
          some (.ok s, p.flatMap Segment.write ++ t) := by
        cases s with
        | key name => exact segment?_key name hnext
        | index i => exact segment?_index i _
      rw [List.flatMap_cons, List.append_assoc, segments, hsegment]
      dsimp only
      rw [ih (by simpa using hfuel)]
      rfl

theorem length_le_length_write (p : Path) : p.length ≤ (p.flatMap Segment.write).length := by
  induction p with
  | nil => exact Nat.le_refl _
  | cons s p ih =>
    have hpos := length_segment_pos s
    rw [List.flatMap_cons, List.length_append, List.length_cons]
    omega

end Scan

/-- A path from the root of an event starts with a key, or is the root. -/
def Path.Rooted : Path → Prop
  | [] => True
  | .key _ :: _ => True
  | .index _ :: _ => False

namespace Scan

variable {t : List Char}

theorem segment?_of_delimiter (ht : isDelimiter (next t) = true) : segment? t = none := by
  cases t with
  | nil => rfl
  | cons c t =>
    have hkey : startsKey (c :: t) = false := by
      unfold startsKey
      split
      · rename_i heq
        exact absurd (List.cons.inj heq).1 (ne_of_isDelimiter ht rfl)
      · rfl
    have hindex : startsIndex (c :: t) = false := by
      unfold startsIndex
      split
      · rename_i heq
        exact absurd (List.cons.inj heq).1 (ne_of_isDelimiter ht rfl)
      · rename_i heq
        exact absurd (List.cons.inj heq).1 (ne_of_isDelimiter ht rfl)
      · rfl
    rw [segment?, hkey, hindex]
    rfl

theorem startsKey_root (ht : isDelimiter (next t) = true) : startsKey ('.' :: t) = false := by
  cases t with
  | nil => rfl
  | cons c t =>
    have hkey : isKeyChar c = false := isKeyChar_of_isDelimiter ht
    have hquote : c ≠ '"' := ne_of_isDelimiter ht rfl
    simp [startsKey, hkey, hquote]

theorem exists_write {p : Path} (hp : p.Rooted) : ∃ s, p.write = '.' :: s := by
  cases p with
  | nil => exact ⟨[], rfl⟩
  | cons s p =>
    cases s with
    | index i => cases hp
    | key name =>
      have hwrite : Path.write (.key name :: p) = (Segment.key name).write ++ p.flatMap Segment.write := rfl
      obtain ⟨c, s, hs⟩ := exists_of_startsKey (startsKey_key name (p.flatMap Segment.write))
      exact ⟨c :: s, hwrite.trans hs⟩

/-- A path is read back. -/
theorem path_write {p : Path} (hp : p.Rooted) (ht : isDelimiter (next t) = true) :
    path (p.write ++ t) = (.ok (.path p), t) := by
  cases p with
  | nil =>
    have hroot : path ('.' :: t) = (.ok (.path []), t) := by
      rw [path, startsKey_root ht]
      rfl
    exact hroot
  | cons s p =>
    cases s with
    | index i => cases hp
    | key name =>
      have hwrite : Path.write (.key name :: p) = (Segment.key name :: p).flatMap Segment.write := rfl
      have hstarts : startsKey ((Segment.key name :: p).flatMap Segment.write ++ t) = true := by
        rw [List.flatMap_cons, List.append_assoc]
        exact startsKey_key name _
      have hlength := length_le_length_write (.key name :: p)
      rw [hwrite, path, if_pos hstarts, segments_write (by rw [List.length_append]; omega)
        (isKeyChar_of_isDelimiter ht) (segment?_of_delimiter ht)]
      rfl

/-! ### Words -/

/-- A word that is the name of a function. -/
structure IsName (name : String) : Prop where
  kind : wordKind name = .ident name
  starts : ∃ c cs, name.toList = c :: cs ∧ isIdentStart c = true
  chars : ∀ c ∈ name.toList, isIdentChar c = true

theorem word_before {cs : List Char} (hcs : ∀ c ∈ cs, isIdentChar c = true) (ht : isIdentChar (next t) = false) :
    word (cs ++ t) = (.ok (wordKind (String.ofList cs)), t) := by
  rw [word, takeWhile_before hcs ht, dropWhile_before hcs ht]

/-- A text that starts with a digit starts with a number. -/
theorem token_digit (before : Before) {c : Char} (hc : c.isDigit = true) (s : List Char) :
    token before (c :: s) = number (c :: s) := by
  unfold token
  split
  case h_7 heq =>
    obtain ⟨rfl, -⟩ := List.cons.inj heq
    exact if_pos hc
  case h_8 heq => cases heq
  all_goals
    rename_i heq
    rw [(List.cons.inj heq).1] at hc
    cases hc

theorem isDigit_of_isIdentStart {c : Char} (hc : isIdentStart c = true) : c.isDigit = false := by
  by_contra hdigit
  rw [Bool.not_eq_false, Char.isDigit, Bool.and_eq_true, decide_eq_true_iff, decide_eq_true_iff,
    ge_iff_le, UInt32.le_iff_toNat_le, UInt32.le_iff_toNat_le] at hdigit
  have hstart : (decide (65 ≤ c.val ∧ c.val ≤ 90) || (decide (97 ≤ c.val) && decide (c.val ≤ 122)) || c == '_') = true :=
    hc
  simp only [Bool.or_eq_true, Bool.and_eq_true, decide_eq_true_eq, beq_iff_eq, UInt32.le_iff_toNat_le] at hstart
  rcases hstart with hstart | rfl
  · simp at hstart hdigit
    omega
  · simp at hdigit

/-- A text that starts with a letter starts with a word, unless a quote follows. -/
theorem token_letter (before : Before) {c : Char} {s : List Char} (hc : isIdentStart c = true) (hs : next s ≠ '\'') :
    token before (c :: s) = word (c :: s) := by
  have hdigit := isDigit_of_isIdentStart hc
  unfold token
  split
  case h_3 heq | h_4 heq =>
    rw [(List.cons.inj heq).2] at hs
    exact absurd rfl hs
  case h_7 heq =>
    obtain ⟨rfl, -⟩ := List.cons.inj heq
    rw [if_neg (by simp [hdigit]), if_pos hc]
  case h_8 heq => cases heq
  all_goals
    rename_i heq
    rw [(List.cons.inj heq).1] at hc
    cases hc

/-! ### Tokens -/

/-- What a token needs of the one before it to be read as what it is. -/
def Before.Admits (before : Before) : TokenKind → Prop
  | .integer i => i.toInt < 0 → before.isOperand = false
  | .abortMarker => before.isNameHere = true
  | .bang => before.isNameHere = false
  | _ => True

end Scan

namespace TokenKind

/-- Tokens that have a text to be read back from. -/
def Readable : TokenKind → Prop
  | path p => p.Rooted
  | ident name => Scan.IsName name
  | float _ | timestamp _ | invalid | eof => False
  | _ => True

/-- Whether a character can stand right behind a token without being read as a part of it. -/
def allows (k : TokenKind) (c : Char) : Bool :=
  match k with
  | path _ | integer _ | kwTrue | kwFalse | kwNull | kwIf | kwElse => Scan.isDelimiter c
  | assign | lt | gt => c == ' '
  | minus | bang => c == ' ' || c == '('
  | ident _ => c == '(' || c == '!'
  | abortMarker => c == '('
  | _ => true

end TokenKind

namespace Scan

variable {t : List Char}

theorem token_letters {before : Before} {name : String} {c : Char} {cs : List Char} (hname : name.toList = c :: cs)
    (hc : isIdentStart c = true) (hcs : ∀ c ∈ name.toList, isIdentChar c = true)
    (ht : isIdentChar (next t) = false) (hquote : next t ≠ '\'') :
    token before (name.toList ++ t) = (.ok (wordKind name), t) := by
  have hnext : next (cs ++ t) ≠ '\'' := by
    cases cs with
    | nil => exact hquote
    | cons d cs =>
      rintro rfl
      have hd := hcs '\'' (by rw [hname]; simp)
      cases hd
  have hword := word_before hcs ht
  rw [String.ofList_toList] at hword
  rw [← hword, hname, List.cons_append]
  exact token_letter before hc hnext

theorem token_keyword {before : Before} {name : String} {c : Char} {cs : List Char} (hname : name.toList = c :: cs)
    (hc : isIdentStart c = true) (hcs : name.toList.all isIdentChar = true)
    (ht : isDelimiter (next t) = true) : token before (name.toList ++ t) = (.ok (wordKind name), t) := by
  have hkey := isKeyChar_of_isDelimiter ht
  rw [isKeyChar, Bool.or_eq_false_iff] at hkey
  exact token_letters hname hc (List.all_eq_true.1 hcs) hkey.1 (ne_of_isDelimiter ht rfl)

/-- An integer.  Behind an operand its minus would be an operator. -/
theorem token_intText {before : Before} (i : Int64) (hbefore : i.toInt < 0 → before.isOperand = false)
    (ht : isDelimiter (next t) = true) : token before (intText i.toInt ++ t) = (.ok (.integer i), t) := by
  have hnumber := number_intText i ht
  rw [intText_eq, sign] at hnumber ⊢
  obtain ⟨c, cs, hdigits, hc⟩ := exists_digits i.toInt
  rw [hdigits] at hnumber ⊢
  split at hnumber
  · rename_i hi
    rw [if_pos hi]
    refine Eq.trans (if_pos ?_) hnumber
    rw [hc, hbefore hi]
    rfl
  · rename_i hi
    rw [if_neg hi]
    exact (token_digit before hc _).trans hnumber

/-- A token is read back before a character that it allows. -/
theorem token_write {before : Before} {k : TokenKind} (hk : k.Readable) (hbefore : before.Admits k)
    (ht : k.allows (next t) = true) : token before (k.write ++ t) = (.ok k, t) := by
  cases k with
  | path p =>
    obtain ⟨s, hs⟩ := exists_write hk
    have hpath := path_write hk ht
    have hwrite : (TokenKind.path p).write = p.write := String.toList_ofList
    rw [hwrite]
    rw [hs] at hpath ⊢
    exact hpath
  | ident name =>
    obtain ⟨c, cs, hname, hc⟩ := hk.starts
    have hnext : isIdentChar (next t) = false ∧ next t ≠ '\'' := by
      have hallows : (next t == '(' || next t == '!') = true := ht
      rw [Bool.or_eq_true, beq_iff_eq, beq_iff_eq] at hallows
      rcases hallows with ht | ht
      · rw [ht]
        decide
      · rw [ht]
        decide
    have hread : token before (name.toList ++ t) = (.ok (wordKind name), t) :=
      token_letters hname hc hk.chars hnext.1 hnext.2
    rwa [hk.kind] at hread
  | abortMarker =>
    obtain ⟨s, rfl⟩ : ∃ s, t = '(' :: s := by
      cases t with
      | nil => cases ht
      | cons c s =>
        have hc : (c == '(') = true := ht
        exact ⟨s, by rw [eq_of_beq hc]⟩
    exact if_pos hbefore
  | string s =>
    have hwrite : (TokenKind.string s).write = Text.Quoted.quote s.toList := String.toList_ofList
    have hstring := string_quote s.toList t
    rw [String.ofList_toList] at hstring
    rw [hwrite]
    have htoken : token before (Text.Quoted.quote s.toList ++ t) =
        ((string (Text.Quoted.quote s.toList ++ t)).1.map .string, (string (Text.Quoted.quote s.toList ++ t)).2) := rfl
    rw [htoken, hstring]
    rfl
  | integer i =>
    have hwrite : (TokenKind.integer i).write = intText i.toInt := String.toList_ofList
    rw [hwrite]
    exact token_intText i hbefore ht
  | float f | timestamp t | invalid | eof => cases hk
  | kwTrue => exact token_keyword rfl rfl (by decide) ht
  | kwFalse => exact token_keyword rfl rfl (by decide) ht
  | kwNull => exact token_keyword rfl rfl (by decide) ht
  | kwIf => exact token_keyword rfl rfl (by decide) ht
  | kwElse => exact token_keyword rfl rfl (by decide) ht
  | assign | lt | gt =>
    cases t with
    | nil => rfl
    | cons c s =>
      have hc : (c == ' ') = true := ht
      rw [eq_of_beq hc]
      rfl
  | minus =>
    cases t with
    | nil => rfl
    | cons c s =>
      have hc : (c == ' ' || c == '(') = true := ht
      rw [Bool.or_eq_true, beq_iff_eq, beq_iff_eq] at hc
      rcases hc with rfl | rfl
      · rfl
      · rfl
  | bang =>
    cases t with
    | nil => rfl
    | cons c s =>
      have hc : (c == ' ' || c == '(') = true := ht
      rw [Bool.or_eq_true, beq_iff_eq, beq_iff_eq] at hc
      rcases hc with rfl | rfl
      · rfl
      · exact (if_neg (by simp [show before.isNameHere = false from hbefore])).trans rfl
  | _ => rfl

end Scan

end Reshape
