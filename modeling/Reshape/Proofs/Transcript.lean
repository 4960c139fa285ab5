/-
Documents read back from their text.

The reader of documents undoes the writer: strings with their escapes, integers up to the character behind them,
arrays and objects item by item.  What it needs of the bytes behind a value is only that one of them can stand there.

* `Json.readString_write` — a string;
* `Json.readNumber_natural`, `Json.readNumber_negative` — an integer;
* `Json.Canonical.readBack` — a document without floats, with anything behind it;
* `Function.parseJson_encodeJson` — a plain value that is written as text and read again.
-/
import Reshape.Function.Call
import Reshape.Function.Json
import Reshape.Proofs.Bytes
import Reshape.Proofs.Document
import Reshape.Proofs.Place

namespace Reshape

namespace Json

open Text

variable {α β : Type}

/-- A reader that ends well, with the given result and in front of the given bytes. -/
def Reads (r : Except Failure (α × Cursor)) (a : α) (rest : List UInt8) : Prop :=
  ∃ offset, r = .ok (a, ⟨rest, offset⟩)

theorem Reads.map {r : Except Failure (α × Cursor)} {a : α} {rest : List UInt8} (h : Reads r a rest) (f : α → β) :
    Reads (r.map fun (x, c) => (f x, c)) (f a) rest := by
  obtain ⟨offset, rfl⟩ := h
  exact ⟨offset, rfl⟩

theorem Reads.bind {r : Except Failure (α × Cursor)} {a : α} {rest : List UInt8} (h : Reads r a rest)
    {k : α × Cursor → Except Failure (β × Cursor)} {b : β} {left : List UInt8}
    (hk : ∀ offset, Reads (k (a, ⟨rest, offset⟩)) b left) : Reads (r >>= k) b left := by
  obtain ⟨offset, rfl⟩ := h
  exact hk offset

namespace Cursor

variable {b : UInt8} {rest : List UInt8} {offset : Nat}

theorem skip_append (xs rest : List UInt8) (offset : Nat) :
    (⟨xs ++ rest, offset⟩ : Cursor).skip xs.length = ⟨rest, offset + xs.length⟩ := by
  rw [skip, List.drop_left, List.length_append, Nat.min_eq_left (Nat.le_add_right _ _)]

theorem next_cons : (⟨b :: rest, offset⟩ : Cursor).next = ⟨rest, offset + 1⟩ :=
  skip_append [b] rest offset

theorem peek?_cons : (⟨b :: rest, offset⟩ : Cursor).peek? = some (Char.ofUInt8 b) := rfl

theorem skipBlank_cons (h : isBlank b = false) : (⟨b :: rest, offset⟩ : Cursor).skipBlank = ⟨b :: rest, offset⟩ := by
  rw [skipBlank, List.takeWhile_cons_of_neg (by rw [h]; decide)]
  exact skip_append [] (b :: rest) offset

end Cursor

/-! ### Strings -/

/-- A byte that stands for itself in a string. -/
def isVerbatim (b : UInt8) : Bool :=
  b != 0x22 && b != 0x5C && 0x20 ≤ b

/-- The reader of strings, in front of the given bytes, with as much fuel as there are bytes. -/
def StringReads (text bs rest : List UInt8) : Prop :=
  ∀ fuel offset, text.length < fuel → Reads (readStringBytes fuel ⟨text, offset⟩) bs rest

variable {b : UInt8} {text bs rest : List UInt8}

theorem stringReads_quote : StringReads (0x22 :: rest) [] rest := by
  intro fuel offset hfuel
  obtain ⟨fuel, rfl⟩ := Nat.exists_eq_add_one.2 (Nat.zero_lt_of_lt hfuel)
  exact ⟨_, rfl⟩

theorem stringReads_verbatim (hb : isVerbatim b = true) (h : StringReads text bs rest) :
    StringReads (b :: text) (b :: bs) rest := by
  simp only [isVerbatim, Bool.and_eq_true, bne_iff_ne, decide_eq_true_eq] at hb
  intro fuel offset hfuel
  obtain ⟨fuel, rfl⟩ := Nat.exists_eq_add_one.2 (Nat.zero_lt_of_lt hfuel)
  rw [readStringBytes]
  dsimp only
  rw [if_neg hb.1.1, if_neg hb.1.2, if_neg (UInt8.not_lt.2 hb.2), Cursor.next_cons]
  exact (h fuel _ (Nat.lt_of_succ_lt_succ hfuel)).bind fun offset => ⟨offset, rfl⟩

theorem stringReads_escape {escaped x : List UInt8}
    (hescape : ∀ offset, Reads (readEscape ⟨escaped ++ text, offset⟩) x text) (h : StringReads text bs rest) :
    StringReads (0x5C :: escaped ++ text) (x ++ bs) rest := by
  intro fuel offset hfuel
  obtain ⟨fuel, rfl⟩ := Nat.exists_eq_add_one.2 (Nat.zero_lt_of_lt hfuel)
  have htext : text.length < fuel := by
    simp only [List.cons_append, List.length_cons, List.length_append] at hfuel
    omega
  rw [List.cons_append, readStringBytes]
  dsimp only
  rw [if_neg (by decide), if_pos rfl, Cursor.next_cons]
  refine (hescape _).bind fun offset => ?_
  exact (h fuel _ htext).bind fun offset => ⟨offset, rfl⟩

/-! ### Escapes -/

theorem readHex_append {xs : List UInt8} {ds : List Nat} (hxs : xs.length = 4) (hds : xs.mapM hexDigit? = some ds)
    (offset : Nat) : Reads (readHex ⟨xs ++ text, offset⟩) (ds.foldl (fun n d => 16 * n + d) 0) text := by
  refine ⟨offset + 4, ?_⟩
  have hlength : ¬ (xs ++ text).length < 4 := by
    rw [List.length_append]
    omega
  rw [readHex, if_neg hlength, List.take_left' hxs, hds, ← hxs, Cursor.skip_append]

/-- The digits of a control character. -/
theorem readUnicodeEscape_hexPair {n : Nat} (hn : n < 0x20) (text : List UInt8) (offset : Nat) :
    Reads (readUnicodeEscape ⟨bytes ('0' :: '0' :: hexPair n) ++ text, offset⟩) (Char.ofNat n) text := by
  have hdigits : ∀ n < 0x20, (bytes ('0' :: '0' :: hexPair n)).length = 4 ∧
      (bytes ('0' :: '0' :: hexPair n)).mapM hexDigit? = some [0, 0, n / 16, n % 16] := by
    decide
  obtain ⟨hlength, hvalue⟩ := hdigits n hn
  have hfold : [0, 0, n / 16, n % 16].foldl (fun n d => 16 * n + d) 0 = n := by
    simp only [List.foldl_cons, List.foldl_nil]
    omega
  refine (hfold ▸ readHex_append hlength hvalue offset).bind fun offset => ⟨offset, ?_⟩
  have hlow : ¬ (0xDC00 ≤ n && n ≤ 0xDFFF) = true := by
    simp only [Bool.and_eq_true, decide_eq_true_eq]
    omega
  have hbasic : (n < 0xD800 || 0xDBFF < n) = true := by
    simp only [Bool.or_eq_true, decide_eq_true_eq]
    omega
  dsimp only
  rw [if_neg hlow, if_pos hbasic]
  rfl

theorem isVerbatim_of_mem_utf8EncodeChar {c : Char} (hquote : c ≠ '"') (hbackslash : c ≠ '\\') (hc : 0x20 ≤ c.toNat)
    {b : UInt8} (hb : b ∈ String.utf8EncodeChar c) : isVerbatim b = true := by
  simp only [isVerbatim, Bool.and_eq_true, bne_iff_ne, decide_eq_true_eq]
  by_cases hascii : c.toNat < 0x80
  · rw [utf8EncodeChar_of_lt hascii, List.mem_singleton] at hb
    have hnat : b.toNat = c.toNat := by
      rw [hb]
      exact UInt8.toNat_ofNat_of_lt' (Nat.lt_trans hascii (by decide))
    refine ⟨⟨?_, ?_⟩, UInt8.le_iff_toNat_le.2 (hnat ▸ hc)⟩
    · rintro rfl
      exact hquote (Char.toNat_inj.1 hnat.symm)
    · rintro rfl
      exact hbackslash (Char.toNat_inj.1 hnat.symm)
  · have hle : (0x80 : UInt8).toNat ≤ b.toNat :=
      UInt8.le_iff_toNat_le.1 (le_of_mem_utf8EncodeChar (Nat.not_lt.1 hascii) hb)
    refine ⟨⟨?_, ?_⟩, UInt8.le_iff_toNat_le.2 (Nat.le_trans (by decide) hle)⟩
    all_goals
      rintro rfl
      exact absurd hle (by decide)

/-- A character as it is written in a string. -/
theorem stringReads_char (c : Char) (h : StringReads text bs rest) :
    StringReads (bytes (escape c) ++ text) (String.utf8EncodeChar c ++ bs) rest := by
  unfold escape
  split
  case h_8 =>
    rename_i hquote hbackslash _ _ _ _ _
    split
    · rename_i hc
      have hread : ∀ offset, Reads (readEscape ⟨bytes ('u' :: '0' :: '0' :: hexPair c.toNat) ++ text, offset⟩)
          (String.utf8EncodeChar c) text := by
        intro offset
        have := (readUnicodeEscape_hexPair hc text (offset + 1)).map String.utf8EncodeChar
        rw [Char.ofNat_toNat] at this
        exact this
      exact stringReads_escape hread h
    · rename_i hc
      have hverbatim : ∀ b ∈ String.utf8EncodeChar c, isVerbatim b = true :=
        fun b => isVerbatim_of_mem_utf8EncodeChar hquote hbackslash (Nat.not_lt.1 hc)
      rw [bytes_cons, bytes_nil, List.append_nil]
      generalize String.utf8EncodeChar c = xs at hverbatim
      induction xs with
      | nil => exact h
      | cons b xs ih =>
        exact stringReads_verbatim (hverbatim b List.mem_cons_self)
          (ih fun x hx => hverbatim x (List.mem_cons_of_mem _ hx))
  all_goals exact stringReads_escape (fun offset => ⟨offset + 1, rfl⟩) h

theorem stringReads_text (cs : List Char) : StringReads (bytes (cs.flatMap escape) ++ 0x22 :: rest) (bytes cs) rest := by
  induction cs with
  | nil => exact stringReads_quote
  | cons c cs ih =>
    rw [List.flatMap_cons, bytes_append, List.append_assoc]
    exact stringReads_char c ih

/-- A string is read back, behind its opening quote. -/
theorem readString_write (s : String) (offset : Nat) :
    Reads (readString ⟨bytes (s.toList.flatMap escape) ++ 0x22 :: rest, offset⟩) s rest := by
  refine (stringReads_text s.toList _ offset (Nat.lt_succ_self _)).bind fun offset => ⟨offset, ?_⟩
  dsimp only
  rw [decode?_bytes, String.ofList_toList]
  rfl

/-! ### Numbers -/

/-- What can stand behind a value of a document: nothing, a comma, or a closing bracket or brace. -/
def Ends (rest : List UInt8) : Prop :=
  ∀ b ∈ rest.head?, b = 0x2C ∨ b = 0x5D ∨ b = 0x7D

/-- The digits of a number, as the reader takes them. -/
def digitsOf (n : Nat) : List Nat :=
  (Nat.toDigits 10 n).map fun c => c.toNat - 0x30

theorem range_of_mem_toDigits {n : Nat} {c : Char} (h : c ∈ Nat.toDigits 10 n) :
    0x30 ≤ c.toNat ∧ c.toNat ≤ 0x39 := by
  have hdigit : c.isDigit = true := Nat.isDigit_of_mem_toDigits (by decide) (by decide) h
  simp only [Char.isDigit, Bool.and_eq_true, decide_eq_true_eq] at hdigit
  exact ⟨UInt32.le_iff_toNat_le.1 hdigit.1, UInt32.le_iff_toNat_le.1 hdigit.2⟩

theorem bytes_toDigits (n : Nat) : bytes (Nat.toDigits 10 n) = (Nat.toDigits 10 n).map fun c => UInt8.ofNat c.toNat :=
  bytes_of_ascii fun _ hc => Nat.lt_of_le_of_lt (range_of_mem_toDigits hc).2 (by decide)

theorem toNat_ofNat_of_mem_toDigits {n : Nat} {c : Char} (h : c ∈ Nat.toDigits 10 n) :
    (UInt8.ofNat c.toNat).toNat = c.toNat :=
  UInt8.toNat_ofNat_of_lt' (Nat.lt_of_le_of_lt (range_of_mem_toDigits h).2 (by decide))

/-- The bytes of a numeral are digits to the reader. -/
theorem range_of_mem_bytes_toDigits {n : Nat} {b : UInt8} (h : b ∈ bytes (Nat.toDigits 10 n)) :
    (decide (0x30 ≤ b) && decide (b ≤ 0x39)) = true := by
  rw [bytes_toDigits] at h
  obtain ⟨c, hc, rfl⟩ := List.mem_map.1 h
  rw [Bool.and_eq_true, decide_eq_true_eq, decide_eq_true_eq, UInt8.le_iff_toNat_le, UInt8.le_iff_toNat_le,
    toNat_ofNat_of_mem_toDigits hc]
  exact range_of_mem_toDigits hc

/-- Only the numeral of zero starts with a zero. -/
theorem toDigits_of_zero {n : Nat} {cs : List Char} (h : Nat.toDigits 10 n = '0' :: cs) : cs = [] := by
  suffices hzero : n = 0 by
    rw [hzero, Nat.toDigits_zero] at h
    exact (List.cons.inj h).2.symm
  induction n using Nat.strongRecOn generalizing cs with
  | _ n ih =>
    by_cases hn : n < 10
    · rw [Nat.toDigits_of_lt_base hn] at h
      exact Nat.digitChar_eq_zero.1 (List.cons.inj h).1
    · rw [Nat.toDigits_of_base_le (by decide) (by omega)] at h
      obtain ⟨c, cs', hcs⟩ := List.exists_cons_of_ne_nil (Nat.toDigits_ne_nil : Nat.toDigits 10 (n / 10) ≠ [])
      rw [hcs, List.cons_append] at h
      have := ih (n / 10) (by omega) ((List.cons.inj h).1 ▸ hcs)
      omega

theorem le_foldl_digits (ds : List Nat) (n : Nat) : n ≤ ds.foldl (fun n d => 10 * n + d) n := by
  induction ds generalizing n with
  | nil => exact Nat.le_refl n
  | cons d ds ih => exact Nat.le_trans (by omega) (ih (10 * n + d))

theorem appendDigits_of_lt {ds : List Nat} {n : Nat} (h : ds.foldl (fun n d => 10 * n + d) n < 0x10000000000000000) :
    appendDigits n ds = (ds.foldl (fun n d => 10 * n + d) n, []) := by
  induction ds generalizing n with
  | nil => rfl
  | cons d ds ih =>
    -- the number does not get smaller with the digits behind it
    rw [appendDigits, if_pos (Nat.lt_of_le_of_lt (le_foldl_digits ds _) h)]
    exact ih h

theorem foldl_digitsOf (n : Nat) : (digitsOf n).foldl (fun n d => 10 * n + d) 0 = n := by
  rw [digitsOf, List.foldl_map]
  exact Nat.ofDigitChars_toDigits (by decide) (by decide)

theorem digits_append (n : Nat) (h : Ends rest) (offset : Nat) :
    (⟨bytes (Nat.toDigits 10 n) ++ rest, offset⟩ : Cursor).digits = digitsOf n := by
  have hrun : (bytes (Nat.toDigits 10 n) ++ rest).takeWhile (fun b => 0x30 ≤ b && b ≤ 0x39) =
      bytes (Nat.toDigits 10 n) := by
    rw [List.takeWhile_append_of_pos fun _ hb => range_of_mem_bytes_toDigits hb]
    cases rest with
    | nil => exact List.append_nil _
    | cons b rest =>
      -- a comma or a closing bracket ends the digits
      have hb : (decide (0x30 ≤ b) && decide (b ≤ 0x39)) = false := by
        rcases h b rfl with rfl | rfl | rfl
        all_goals decide
      rw [List.takeWhile_cons_of_neg (by rw [hb]; decide), List.append_nil]
  rw [Cursor.digits, hrun, bytes_toDigits, List.map_map, digitsOf]
  refine List.map_congr_left fun c hc => ?_
  rw [Function.comp_apply, toNat_ofNat_of_mem_toDigits hc]

/-- A numeral is read as its number, if that fits. -/
theorem readNumber_toDigits {n : Nat} (hn : n < 0x10000000000000000) (h : Ends rest) (negative : Bool) (offset : Nat) :
    Reads (readNumber ⟨bytes (Nat.toDigits 10 n) ++ rest, offset⟩ negative)
      (if !negative then .natural (UInt64.ofNat n)
      else if n = 0 || int64Bound < n then .float (-(UInt64.ofNat n).toFloat)
      else .negative (Int64.ofInt (-n))) rest := by
  have hdigits := digits_append n h offset
  have hlength : (digitsOf n).length = (bytes (Nat.toDigits 10 n)).length := by
    rw [bytes_toDigits, digitsOf, List.length_map, List.length_map]
  unfold readNumber
  split
  · rename_i hnil
    rw [hdigits, digitsOf, List.map_eq_nil_iff] at hnil
    exact absurd hnil Nat.toDigits_ne_nil
  · rename_i hzero
    -- only zero itself is written with a zero in front
    rw [hdigits, digitsOf, List.map_eq_cons_iff] at hzero
    obtain ⟨c, cs, hcs, hc, hrest⟩ := hzero
    have hrange := range_of_mem_toDigits (hcs ▸ List.mem_cons_self : c ∈ Nat.toDigits 10 n)
    obtain rfl : c = '0' := Char.toNat_inj.1 (show c.toNat = 48 by omega)
    rw [toDigits_of_zero hcs] at hrest
    cases hrest
  · rw [hdigits, appendDigits_of_lt (by rw [foldl_digitsOf]; exact hn), foldl_digitsOf, hlength, Cursor.skip_append]
    dsimp only
    have hmark : ∀ c, (rest.head?.map Char.ofUInt8) = some c → c ≠ '.' ∧ c ≠ 'e' ∧ c ≠ 'E' := by
      intro c hc
      obtain ⟨b, hb, rfl⟩ := Option.map_eq_some_iff.1 hc
      rcases h b hb with rfl | rfl | rfl
      all_goals decide
    split
    · rename_i hc
      exact absurd rfl (hmark _ hc).1
    · rename_i hc
      exact absurd rfl (hmark _ hc).2.1
    · rename_i hc
      exact absurd rfl (hmark _ hc).2.2
    · refine ⟨offset + (bytes (Nat.toDigits 10 n)).length, ?_⟩
      rw [if_neg (by simp)]
      split
      · rfl
      · split
        · rfl
        · rfl

/-- An integer is read back. -/
theorem readNumber_natural (n : UInt64) (h : Ends rest) (offset : Nat) :
    Reads (readNumber ⟨bytes (Nat.toDigits 10 n.toNat) ++ rest, offset⟩ false) (.natural n) rest := by
  have hread := readNumber_toDigits n.toNat_lt h false offset
  rwa [UInt64.ofNat_toNat] at hread

theorem readNumber_negative {i : Int64} (hi : i < 0) (h : Ends rest) (offset : Nat) :
    Reads (readNumber ⟨bytes (Nat.toDigits 10 i.toInt.natAbs) ++ rest, offset⟩ true) (.negative i) rest := by
  have hlow : -2 ^ 63 ≤ i.toInt := i.le_toInt
  have hneg : i.toInt < 0 := Int64.lt_iff_toInt_lt.1 hi
  have hread := readNumber_toDigits (n := i.toInt.natAbs) (by omega) h true offset
  have hfits : ¬ (i.toInt.natAbs = 0 || int64Bound < i.toInt.natAbs) = true := by
    rw [Bool.or_eq_true, decide_eq_true_eq, decide_eq_true_eq]
    unfold int64Bound
    omega
  have hvalue : -(i.toInt.natAbs : Int) = i.toInt := by omega
  rwa [if_neg (by decide), if_neg hfits, hvalue, Int64.ofInt_toInt] at hread

/-! ### Values -/

/-- Documents that come back from their text: they have no floats, list their members in order, and nest at most
so deep. -/
inductive Canonical : Nat → Json → Prop
  | null {depth} : Canonical depth null
  | boolean {depth} (b : Bool) : Canonical depth (boolean b)
  | natural {depth} (n : UInt64) : Canonical depth (number (.natural n))
  | negative {depth} {i : Int64} : i < 0 → Canonical depth (number (.negative i))
  | string {depth} (s : String) : Canonical depth (string s)
  | array {depth items} : (∀ j ∈ items, Canonical depth j) → Canonical (depth + 1) (array items)
  | object {depth members} : (members.map (·.1)).Pairwise (· < ·) → (∀ m ∈ members, Canonical depth m.2) →
      Canonical (depth + 1) (object members)

/-- The first byte of a document is no blank and closes no array. -/
def Opening (b : UInt8) : Prop :=
  Cursor.isBlank b = false ∧ Char.ofUInt8 b ≠ ']'

instance (b : UInt8) : Decidable (Opening b) :=
  inferInstanceAs (Decidable (_ ∧ _))

/-- A document whose text the reader of values reads back, with twice as much fuel as there are bytes. -/
structure ReadBack (depth : Nat) (j : Json) : Prop where
  opening : ∃ b bs, bytes j.write = b :: bs ∧ Opening b
  reads : ∀ fuel offset rest, 2 * (bytes j.write).length ≤ fuel → Ends rest →
    Reads (readValue fuel depth ⟨bytes j.write ++ rest, offset⟩) j rest

variable {depth : Nat} {j : Json}

/-- A document has a byte at least, so there is fuel for one step. -/
theorem readBack_of_succ (hopening : ∃ b bs, bytes j.write = b :: bs ∧ Opening b)
    (h : ∀ fuel offset rest, 2 * (bytes j.write).length ≤ fuel + 1 → Ends rest →
      Reads (readValue (fuel + 1) depth ⟨bytes j.write ++ rest, offset⟩) j rest) : ReadBack depth j := by
  refine ⟨hopening, fun fuel offset rest hfuel hrest => ?_⟩
  obtain ⟨b, bs, hbs, -⟩ := hopening
  have hlength : (bytes j.write).length = bs.length + 1 := congrArg List.length hbs
  obtain ⟨fuel, rfl⟩ := Nat.exists_eq_add_one.2 (show 0 < fuel by omega)
  exact h fuel offset rest hfuel hrest

theorem readBack_null : ReadBack depth null :=
  readBack_of_succ ⟨_, _, rfl, by decide⟩ fun _ _ _ _ _ => ⟨_, rfl⟩

theorem readBack_boolean (b : Bool) : ReadBack depth (boolean b) := by
  cases b with
  | false => exact readBack_of_succ ⟨_, _, rfl, by decide⟩ fun _ _ _ _ _ => ⟨_, rfl⟩
  | true => exact readBack_of_succ ⟨_, _, rfl, by decide⟩ fun _ _ _ _ _ => ⟨_, rfl⟩

theorem readBack_string (s : String) : ReadBack depth (string s) := by
  refine readBack_of_succ ⟨_, _, rfl, by decide⟩ fun fuel offset rest _ hrest => ?_
  have htext : bytes (write (string s)) ++ rest = 0x22 :: (bytes (s.toList.flatMap escape) ++ 0x22 :: rest) := by
    rw [write, writeString, bytes_append, List.append_assoc]
    rfl
  rw [htext]
  exact (readString_write s (offset + 1)).map Json.string

theorem readBack_negative {i : Int64} (hi : i < 0) : ReadBack depth (number (.negative i)) :=
  readBack_of_succ ⟨_, _, rfl, by decide⟩ fun _ offset _ _ hrest =>
    (readNumber_negative hi hrest (offset + 1)).map Json.number

theorem exists_digit (n : Nat) : ∃ d < 10, ∃ bs, bytes (Nat.toDigits 10 n) = UInt8.ofNat (0x30 + d) :: bs := by
  obtain ⟨c, cs, hcs⟩ := List.exists_cons_of_ne_nil (Nat.toDigits_ne_nil : Nat.toDigits 10 n ≠ [])
  have hc := range_of_mem_toDigits (hcs ▸ List.mem_cons_self : c ∈ Nat.toDigits 10 n)
  refine ⟨c.toNat - 0x30, by omega, cs.map fun c => UInt8.ofNat c.toNat, ?_⟩
  rw [bytes_toDigits, hcs, List.map_cons, Nat.add_sub_cancel' hc.1]

theorem readBack_natural (n : UInt64) : ReadBack depth (number (.natural n)) := by
  obtain ⟨d, hd, bs, hbs⟩ := exists_digit n.toNat
  have hopening : ∀ d < 10, Opening (UInt8.ofNat (0x30 + d)) := by decide
  have hdigit : ∀ d < 10, (Char.ofUInt8 (UInt8.ofNat (0x30 + d))).isDigit = true := by decide
  refine readBack_of_succ ⟨_, bs, hbs, hopening d hd⟩ fun fuel offset rest _ hrest => ?_
  have hread := (readNumber_natural n hrest offset).map Json.number
  have htext : bytes (write (number (.natural n))) = UInt8.ofNat (0x30 + d) :: bs := hbs
  rw [hbs, List.cons_append] at hread
  rw [htext, List.cons_append]
  unfold readValue
  dsimp only
  rw [Cursor.skipBlank_cons (hopening d hd).1, Cursor.peek?_cons]
  split
  case h_9 =>
    rename_i c _ _ _ _ _ _ _ hc
    obtain rfl := Option.some.inj hc
    rw [if_pos (hdigit d hd)]
    exact hread
  -- a digit is none of the characters that open another kind of document
  all_goals
    rename_i hc
    first
    | cases hc
    | have hmark := hdigit d hd
      rw [Option.some.inj hc] at hmark
      exact absurd hmark (by decide)

/-! ### Arrays -/

/-- The text of the items behind the first. -/
def laterItems (items : List Json) : List UInt8 :=
  items.flatMap fun j => 0x2C :: bytes j.write

theorem bytes_writeItems (j : Json) (items : List Json) :
    bytes (writeItems (j :: items)) = bytes j.write ++ laterItems items := by
  induction items generalizing j with
  | nil => rw [writeItems, laterItems, List.flatMap_nil, List.append_nil]
  | cons k items ih =>
    rw [writeItems, bytes_append, bytes_cons, ih k]
    · rfl
    · exact fun h => by cases h

theorem ends_laterItems (items : List Json) (rest : List UInt8) : Ends (laterItems items ++ 0x5D :: rest) := by
  intro b hb
  cases items with
  | nil => exact .inr (.inl (Option.some.inj hb).symm)
  | cons j items => exact .inl (Option.some.inj hb).symm

/-- An item and the items behind it. -/
theorem reads_item {fuel offset : Nat} {items : List Json} {text left : List UInt8}
    (hitem : Reads (readValue fuel depth ⟨text, offset⟩) j left)
    (hitems : ∀ offset, Reads (readItems fuel depth false ⟨left, offset⟩) items rest) :
    Reads (do
      let (j, c) ← readValue fuel depth ⟨text, offset⟩
      let (rest, c) ← readItems fuel depth false c
      return (j :: rest, c)) (j :: items) rest :=
  hitem.bind fun offset => (hitems offset).bind fun offset => ⟨offset, rfl⟩

theorem reads_laterItems {items : List Json} (h : ∀ j ∈ items, ReadBack depth j) {fuel : Nat}
    (hfuel : 2 * (laterItems items).length < fuel) (rest : List UInt8) (offset : Nat) :
    Reads (readItems fuel depth false ⟨laterItems items ++ 0x5D :: rest, offset⟩) items rest := by
  induction items generalizing fuel offset with
  | nil =>
    obtain ⟨fuel, rfl⟩ := Nat.exists_eq_add_one.2 (Nat.zero_lt_of_lt hfuel)
    exact ⟨offset + 1, rfl⟩
  | cons j items ih =>
    obtain ⟨fuel, rfl⟩ := Nat.exists_eq_add_one.2 (Nat.zero_lt_of_lt hfuel)
    obtain ⟨b, bs, hbs, hb⟩ := (h j List.mem_cons_self).opening
    have hlater : laterItems (j :: items) = 0x2C :: (bytes j.write ++ laterItems items) := rfl
    rw [hlater, List.length_cons, List.length_append] at hfuel
    have hitem := (h j List.mem_cons_self).reads fuel (offset + 1) _ (by omega) (ends_laterItems items rest)
    have hitems := ih (fun k hk => h k (List.mem_cons_of_mem _ hk)) (show 2 * (laterItems items).length < fuel by omega)
    rw [hlater, List.cons_append, List.append_assoc, readItems]
    dsimp only
    rw [Cursor.skipBlank_cons (by decide), Cursor.peek?_cons]
    rw [hbs, List.cons_append] at hitem ⊢
    split
    · rename_i hc
      cases hc
    · rename_i hc
      exact absurd (Option.some.inj hc) (by decide)
    · rename_i c _ hc
      obtain rfl : c = ',' := (Option.some.inj hc).symm
      rw [if_neg (by decide), if_pos rfl, Cursor.next_cons, Cursor.skipBlank_cons hb.1, Cursor.peek?_cons]
      split
      · rename_i hc
        cases hc
      · rename_i hc
        exact absurd (Option.some.inj hc) hb.2
      · exact reads_item hitem hitems

theorem reads_items {items : List Json} (h : ∀ j ∈ items, ReadBack depth j) {fuel : Nat}
    (hfuel : 2 * (bytes (writeItems items)).length + 1 < fuel) (rest : List UInt8) (offset : Nat) :
    Reads (readItems fuel depth true ⟨bytes (writeItems items) ++ 0x5D :: rest, offset⟩) items rest := by
  obtain ⟨fuel, rfl⟩ := Nat.exists_eq_add_one.2 (Nat.zero_lt_of_lt hfuel)
  cases items with
  | nil => exact ⟨offset + 1, rfl⟩
  | cons j items =>
    obtain ⟨b, bs, hbs, hb⟩ := (h j List.mem_cons_self).opening
    rw [bytes_writeItems, List.length_append] at hfuel
    have hitem := (h j List.mem_cons_self).reads fuel offset _ (by omega) (ends_laterItems items rest)
    have hitems := reads_laterItems (fun k hk => h k (List.mem_cons_of_mem _ hk))
      (show 2 * (laterItems items).length < fuel by omega) rest
    rw [bytes_writeItems, List.append_assoc, readItems]
    rw [hbs, List.cons_append] at hitem ⊢
    dsimp only
    rw [Cursor.skipBlank_cons hb.1, Cursor.peek?_cons]
    split
    · rename_i hc
      cases hc
    · rename_i hc
      exact absurd (Option.some.inj hc) hb.2
    · rw [if_pos rfl]
      exact reads_item hitem hitems

theorem readBack_array {items : List Json} (h : ∀ j ∈ items, ReadBack depth j) : ReadBack (depth + 1) (array items) := by
  refine readBack_of_succ ⟨_, _, rfl, by decide⟩ fun fuel offset rest hfuel _ => ?_
  have htext : bytes (write (array items)) = 0x5B :: (bytes (writeItems items) ++ [0x5D]) := by
    rw [write, bytes_append]
    rfl
  rw [htext, List.length_cons, List.length_append, List.length_singleton] at hfuel
  have hread := (reads_items h (show 2 * (bytes (writeItems items)).length + 1 < fuel by omega) rest
    (offset + 1)).map Json.array
  rw [htext, List.cons_append, List.append_assoc]
  exact hread

/-! ### Objects -/

/-- The text of a member, from its opening quote on. -/
def memberText (m : String × Json) : List UInt8 :=
  0x22 :: bytes (m.1.toList.flatMap escape) ++ 0x22 :: 0x3A :: bytes m.2.write

/-- The text of the members behind the first. -/
def laterMembers (members : List (String × Json)) : List UInt8 :=
  members.flatMap fun m => 0x2C :: memberText m

theorem length_write_lt (m : String × Json) : (bytes m.2.write).length < (memberText m).length := by
  rw [memberText, List.length_append, List.length_cons, List.length_cons, List.length_cons]
  omega

theorem bytes_member (m : String × Json) : bytes (writeString m.1 ++ ':' :: write m.2) = memberText m := by
  rw [memberText, writeString, bytes_append, List.cons_append, bytes_cons, bytes_append, bytes_cons, List.append_assoc,
    List.append_assoc]
  rfl

theorem bytes_writeMembers (m : String × Json) (members : List (String × Json)) :
    bytes (writeMembers (m :: members)) = memberText m ++ laterMembers members := by
  induction members generalizing m with
  | nil => rw [writeMembers, bytes_member, laterMembers, List.flatMap_nil, List.append_nil]
  | cons n members ih =>
    have hcomma : writeString m.1 ++ ':' :: write m.2 ++ ',' :: writeMembers (n :: members) =
        (writeString m.1 ++ ':' :: write m.2) ++ ',' :: writeMembers (n :: members) := rfl
    rw [writeMembers, hcomma, bytes_append, bytes_member, bytes_cons, ih n]
    · rfl
    · exact fun h => by cases h

theorem ends_laterMembers (members : List (String × Json)) (rest : List UInt8) :
    Ends (laterMembers members ++ 0x7D :: rest) := by
  intro b hb
  cases members with
  | nil => exact .inr (.inr (Option.some.inj hb).symm)
  | cons m members => exact .inl (Option.some.inj hb).symm

/-- A member and the members behind it. -/
theorem reads_member {fuel offset : Nat} {m : String × Json} {members : List (String × Json)} {left : List UInt8}
    (hvalue : ∀ offset, Reads (readValue fuel depth ⟨bytes m.2.write ++ left, offset⟩) m.2 left)
    (hmembers : ∀ offset, Reads (readMembers fuel depth false ⟨left, offset⟩) members rest) :
    Reads (do
      let (k, c) ← readString (⟨memberText m ++ left, offset⟩ : Cursor).next
      let c := c.skipBlank
      match c.peek? with
      | none => c.failNext .endOfObject
      | some ':' =>
        let (j, c) ← readValue fuel depth c.next
        let (rest, c) ← readMembers fuel depth false c
        return ((k, j) :: rest, c)
      | some _ => c.failNext .expectedColon) (m :: members) rest := by
  have htext : memberText m ++ left =
      0x22 :: (bytes (m.1.toList.flatMap escape) ++ 0x22 :: 0x3A :: (bytes m.2.write ++ left)) := by
    rw [memberText, List.cons_append, List.cons_append, List.append_assoc]
    rfl
  rw [htext, Cursor.next_cons]
  refine (readString_write m.1 (offset + 1)).bind fun offset => ?_
  dsimp only
  rw [Cursor.skipBlank_cons (by decide)]
  refine (hvalue _).bind fun offset => ?_
  exact (hmembers offset).bind fun offset => ⟨offset, rfl⟩

theorem reads_laterMembers {members : List (String × Json)} (h : ∀ m ∈ members, ReadBack depth m.2) {fuel : Nat}
    (hfuel : 2 * (laterMembers members).length < fuel) (rest : List UInt8) (offset : Nat) :
    Reads (readMembers fuel depth false ⟨laterMembers members ++ 0x7D :: rest, offset⟩) members rest := by
  induction members generalizing fuel offset with
  | nil =>
    obtain ⟨fuel, rfl⟩ := Nat.exists_eq_add_one.2 (Nat.zero_lt_of_lt hfuel)
    exact ⟨offset + 1, rfl⟩
  | cons m members ih =>
    obtain ⟨fuel, rfl⟩ := Nat.exists_eq_add_one.2 (Nat.zero_lt_of_lt hfuel)
    have hlater : laterMembers (m :: members) = 0x2C :: (memberText m ++ laterMembers members) := rfl
    have hvalue := length_write_lt m
    rw [hlater, List.length_cons, List.length_append] at hfuel
    rw [hlater, List.cons_append, List.append_assoc, readMembers]
    exact reads_member
      (fun offset => (h m List.mem_cons_self).reads fuel offset _ (by omega) (ends_laterMembers members rest))
      (ih (fun n hn => h n (List.mem_cons_of_mem _ hn)) (by omega))

theorem reads_members {members : List (String × Json)} (h : ∀ m ∈ members, ReadBack depth m.2) {fuel : Nat}
    (hfuel : 2 * (bytes (writeMembers members)).length + 1 < fuel) (rest : List UInt8) (offset : Nat) :
    Reads (readMembers fuel depth true ⟨bytes (writeMembers members) ++ 0x7D :: rest, offset⟩) members rest := by
  obtain ⟨fuel, rfl⟩ := Nat.exists_eq_add_one.2 (Nat.zero_lt_of_lt hfuel)
  cases members with
  | nil => exact ⟨offset + 1, rfl⟩
  | cons m members =>
    have hvalue := length_write_lt m
    rw [bytes_writeMembers, List.length_append] at hfuel
    rw [bytes_writeMembers, List.append_assoc, readMembers]
    exact reads_member
      (fun offset => (h m List.mem_cons_self).reads fuel offset _ (by omega) (ends_laterMembers members rest))
      (reads_laterMembers (fun n hn => h n (List.mem_cons_of_mem _ hn)) (by omega) rest)

theorem readBack_object {members : List (String × Json)} (hnames : (members.map (·.1)).Pairwise (· < ·))
    (h : ∀ m ∈ members, ReadBack depth m.2) : ReadBack (depth + 1) (object members) := by
  refine readBack_of_succ ⟨_, _, rfl, by decide⟩ fun fuel offset rest hfuel _ => ?_
  have htext : bytes (write (object members)) = 0x7B :: (bytes (writeMembers members) ++ [0x7D]) := by
    rw [write, bytes_append]
    rfl
  rw [htext, List.length_cons, List.length_append, List.length_singleton] at hfuel
  have hread := (reads_members h (show 2 * (bytes (writeMembers members)).length + 1 < fuel by omega) rest
    (offset + 1)).map fun members => Json.object (Fields.ofList members)
  rw [Fields.ofList_of_pairwise hnames] at hread
  rw [htext, List.cons_append, List.append_assoc]
  exact hread

/-! ### Documents -/

/-- A canonical document is read back from its text, with anything behind it that can stand there. -/
theorem Canonical.readBack (h : Canonical depth j) : ReadBack depth j := by
  induction h with
  | null => exact readBack_null
  | boolean b => exact readBack_boolean b
  | natural n => exact readBack_natural n
  | negative hi => exact readBack_negative hi
  | string s => exact readBack_string s
  | array _ ih => exact readBack_array ih
  | object hnames _ ih => exact readBack_object hnames ih

/-- The text of a canonical document, as bytes, is read as that document. -/
theorem Canonical.read_render (h : Canonical 127 j) : read (Text.encode j.render) = .ok j := by
  rw [render, encode_ofList]
  obtain ⟨offset, hread⟩ := h.readBack.reads (2 * (bytes j.write).length + 2) 0 [] (by omega) (fun _ hb => by cases hb)
  rw [List.append_nil] at hread
  rw [read, readDocument, hread]
  rfl

end Json

/-! ### Values -/

namespace Value

mutual

/-- How deep arrays and objects nest in a value. -/
def depth : Value → Nat
  | array items => depthItems items + 1
  | object fields => depthFields fields + 1
  | _ => 0

def depthItems : List Value → Nat
  | [] => 0
  | v :: rest => max (depth v) (depthItems rest)

def depthFields : List (String × Value) → Nat
  | [] => 0
  | (_, v) :: rest => max (depth v) (depthFields rest)

end

theorem depth_le_depthItems {items : List Value} {v : Value} (h : v ∈ items) : v.depth ≤ depthItems items := by
  induction h with
  | head rest => exact Nat.le_max_left _ _
  | tail w _ ih => exact ih.trans (Nat.le_max_right _ _)

theorem depth_le_depthFields {fields : List (String × Value)} {f : String × Value} (h : f ∈ fields) :
    f.2.depth ≤ depthFields fields := by
  induction h with
  | head rest => exact Nat.le_max_left _ _
  | tail g _ ih => exact ih.trans (Nat.le_max_right _ _)

theorem toJsonItems_eq_map (items : List Value) : toJsonItems items = items.map toJson := by
  induction items with
  | nil => rfl
  | cons v rest ih => exact congrArg (v.toJson :: ·) ih

theorem toJsonMembers_eq_map (fields : List (String × Value)) :
    toJsonMembers fields = fields.map fun f => (f.1, f.2.toJson) := by
  induction fields with
  | nil => rfl
  | cons f rest ih => exact congrArg ((f.1, f.2.toJson) :: ·) ih

/-- The document of a plain value is read back from its text. -/
theorem Plain.canonical_toJson {v : Value} (h : v.Plain) (hsorted : v.sorted = true) {depth : Nat}
    (hdepth : v.depth ≤ depth) : Json.Canonical depth v.toJson := by
  induction h generalizing depth with
  | null => exact .null
  | boolean b => exact .boolean b
  | string s => exact .string s
  | integer i =>
    rw [toJson, JsonNumber.ofInt64]
    split
    · exact .natural _
    · rename_i hi
      exact .negative (Int64.not_le.1 hi)
  | @array items _ ih =>
    obtain ⟨depth, rfl⟩ := Nat.exists_eq_add_one.2 (Nat.zero_lt_of_lt hdepth)
    refine .array ?_
    rw [toJsonItems_eq_map]
    exact List.forall_mem_map.2 fun v hv => ih v hv (sorted_of_mem_items hsorted hv)
      ((depth_le_depthItems hv).trans (Nat.le_of_succ_le_succ hdepth))
  | @object fields _ ih =>
    obtain ⟨depth, rfl⟩ := Nat.exists_eq_add_one.2 (Nat.zero_lt_of_lt hdepth)
    rw [sorted, Bool.and_eq_true] at hsorted
    refine .object ?_ ?_
    · rw [toJsonMembers_eq_map, List.map_map]
      exact pairwise_of_ascending hsorted.1
    · rw [toJsonMembers_eq_map]
      exact List.forall_mem_map.2 fun f hf => ih f hf (sorted_of_mem_fields hsorted.2 hf)
        ((depth_le_depthFields hf).trans (Nat.le_of_succ_le_succ hdepth))

/-- A plain value is read back from its JSON text. -/
theorem Plain.readJson_render {v : Value} (h : v.Plain) (hsorted : v.sorted = true) (hdepth : v.depth ≤ 127) :
    readJson (Text.encode v.toJson.render) = .ok v := by
  rw [readJson, (h.canonical_toJson hsorted hdepth).read_render]
  exact congrArg Except.ok h.ofJson_toJson

end Value

namespace Function

variable (s : Surroundings) (serial : Nat) (root : Value)

theorem encodeJson_call (v : Value) (place : Option Path) :
    encodeJson.call s serial root [⟨v, true, place⟩] = (.ok (.string v.toJson.render), root) := rfl

theorem parseJson_call_string {text : String} {v : Value} (h : Value.readJson (Text.encode text) = .ok v)
    (place : Option Path) : parseJson.call s serial root [⟨.string text, true, place⟩] = (.ok v, root) := by
  refine Prod.ext (bind_eq_ok.2 ⟨.string text, rfl, bind_eq_ok.2 ⟨Text.encode text, rfl, ?_⟩⟩) rfl
  dsimp only
  rw [h]
  rfl

/-- A plain value, whose objects list their fields in order and that nests at most 127 deep, is written as a text
that is read as that value again, and no other such value is written as that text. -/
theorem parseJson_encodeJson {v : Value} (h : v.Plain) (hsorted : v.sorted = true) (hdepth : v.depth ≤ 127)
    (place place' : Option Path) :
    ∃ text, encodeJson.call s serial root [⟨v, true, place⟩] = (.ok (.string text), root) ∧
      parseJson.call s serial root [⟨.string text, true, place'⟩] = (.ok v, root) ∧
      ∀ w : Value, w.Plain → w.sorted = true → w.depth ≤ 127 →
        encodeJson.call s serial root [⟨w, true, place⟩] = (.ok (.string text), root) → w = v := by
  have hread := h.readJson_render hsorted hdepth
  refine ⟨v.toJson.render, encodeJson_call s serial root v place, parseJson_call_string s serial root hread place', ?_⟩
  intro w hw hwsorted hwdepth htext
  rw [encodeJson_call] at htext
  have hrender : w.toJson.render = v.toJson.render := by
    simpa using htext
  have hwread := hw.readJson_render hwsorted hwdepth
  rw [hrender, hread] at hwread
  exact (Except.ok.inj hwread).symm

/-- Brackets 127 deep, the least integer, an empty object, and names and text that have to be escaped. -/
theorem parseJson_encodeJson_deep :
    let s : Surroundings := ⟨.fixed "UTC" 0, ⟨0, 0, 0⟩, 0⟩
    let deep : Nat → Value := fun n => n.repeat (fun v => .array [v]) .null
    let v : Value := .object [("\"\u0001", .array [.integer Int64.minValue, .object []]), ("a\\", .string "é😀\n"),
      ("b", deep 126)]
    v.Plain ∧ v.sorted = true ∧ v.depth = 127 ∧
      ∃ text, encodeJson.call s 0 .null [.ofValue v] = (.ok (.string text), .null) ∧
        parseJson.call s 0 .null [.ofValue (.string text)] = (.ok v, .null) := by
  intro s deep v
  have hdeep : ∀ n, (deep n).Plain := by
    intro n
    induction n with
    | zero => exact .null
    | succ n ih => exact .array (List.forall_mem_singleton.2 ih)
  have hplain : v.Plain := by
    refine .object (List.forall_mem_cons.2 ⟨.array ?_, List.forall_mem_cons.2 ⟨.string _,
      List.forall_mem_singleton.2 (hdeep 126)⟩⟩)
    exact List.forall_mem_cons.2 ⟨.integer _, List.forall_mem_singleton.2 (.object (List.forall_mem_nil _))⟩
  have hsorted : v.sorted = true := by decide +kernel
  have hdepth : v.depth = 127 := by decide +kernel
  obtain ⟨text, hencode, hparse, -⟩ := parseJson_encodeJson s 0 .null hplain hsorted hdepth.le none none
  exact ⟨hplain, hsorted, hdepth, text, hencode, hparse⟩

end Function

end Reshape
