/-
Text of base 64, written and read.

Three bytes are four numbers below 64, and a rest of one or two bytes is two or three numbers, the last of which has
bits to spare.  The text that is written has a symbol for each number and as many pads as make the groups of four whole.
It is read as the bytes again, and nothing else is read.

* `Base64.regroup_split`, `Base64.split_regroup` — bytes and numbers;
* `Base64.readEnd_spelled`, `Base64.of_readEnd` — symbols and the pads behind them;
* `Base64.decode_eq_ok_iff` — a text is read exactly if it is the one that is written;
* `Function.decodeBase64_encodeBase64` — the functions.
-/
import Mathlib.Data.List.Basic
import Reshape.Function.Call
import Reshape.Function.Encoding
import Reshape.Proofs.Bytes
import Reshape.Proofs.Place

namespace Reshape

namespace Base64

variable {numbers : List ℕ} {pads n i : ℕ} {b : UInt8} {data text : List UInt8}

/-! ### Symbols -/

/-- The byte of the symbol of a number. -/
def symbolByte (n : ℕ) : UInt8 :=
  UInt8.ofNat (symbol n).toNat

theorem number?_symbolByte : ∀ n < 64, number? (symbolByte n) = some n := by
  decide

theorem symbolByte_ne_pad : ∀ n < 64, symbolByte n ≠ pad := by
  decide

theorem symbol_lt : ∀ n < 64, (symbol n).toNat < 0x80 := by
  decide

theorem toNat_symbol : ∀ n < 64, (symbol n).toNat =
    if n < 26 then 65 + n else if n < 52 then 71 + n else if n < 62 then n - 4 else if n = 62 then 43 else 47 := by
  decide

theorem ofNat_eq {n : ℕ} {a : UInt8} (h : n = a.toNat) : UInt8.ofNat n = a := by
  rw [h, UInt8.ofNat_toNat]

/-- A byte with a number is its symbol. -/
theorem of_number? (h : number? b = some n) : n < 64 ∧ symbolByte n = b := by
  rw [number?] at h
  have hlt : n < 64 := by grind
  have hsymbol : (symbol n).toNat = b.toNat := by
    rw [toNat_symbol n hlt]
    grind
  exact ⟨hlt, ofNat_eq hsymbol⟩

/-! ### Bytes and numbers -/

theorem split_lt (data : List UInt8) : ∀ n ∈ split data, n < 64 := by
  fun_induction split data with
  | case1 a b c rest ih =>
    have ha := a.toNat_lt
    have hb := b.toNat_lt
    have hc := c.toNat_lt
    simp only [List.forall_mem_cons]
    exact ⟨by omega, by omega, by omega, by omega, ih⟩
  | case2 a b =>
    have ha := a.toNat_lt
    have hb := b.toNat_lt
    simp only [List.forall_mem_cons]
    exact ⟨by omega, by omega, by omega, List.forall_mem_nil _⟩
  | case3 a =>
    have ha := a.toNat_lt
    simp only [List.forall_mem_cons]
    exact ⟨by omega, by omega, List.forall_mem_nil _⟩
  | case4 => exact List.forall_mem_nil _

theorem length_split_mod (data : List UInt8) : (split data).length % 4 ≠ 1 := by
  fun_induction split data with
  | case1 a b c rest ih =>
    simp only [List.length_cons]
    omega
  | _ => simp

theorem surplus_group (a b c d : ℕ) (rest : List ℕ) : surplus (a :: b :: c :: d :: rest) = surplus rest := by
  cases rest with
  | nil => simp [surplus]
  | cons e rest =>
    have hlength : (a :: b :: c :: d :: e :: rest).length % 4 = (e :: rest).length % 4 := by
      simp only [List.length_cons]
      omega
    rw [surplus, surplus, hlength]
    rfl

theorem surplus_split (data : List UInt8) : surplus (split data) = 0 := by
  fun_induction split data with
  | case1 a b c rest ih => rw [surplus_group, ih]
  | case2 a b =>
    show b.toNat % 16 * 4 % 4 = 0
    omega
  | case3 a =>
    show a.toNat % 4 * 16 % 16 = 0
    omega
  | case4 => rfl

/-- The numbers of bytes are those bytes. -/
theorem regroup_split (data : List UInt8) : regroup (split data) = data := by
  fun_induction split data with
  | case1 a b c rest ih =>
    have ha := a.toNat_lt
    have hb := b.toNat_lt
    have hc := c.toNat_lt
    rw [regroup, ih, ofNat_eq (a := a) (by omega), ofNat_eq (a := b) (by omega), ofNat_eq (a := c) (by omega)]
  | case2 a b =>
    have ha := a.toNat_lt
    have hb := b.toNat_lt
    rw [regroup, ofNat_eq (a := a) (by omega), ofNat_eq (a := b) (by omega)]
  | case3 a =>
    have ha := a.toNat_lt
    rw [regroup, ofNat_eq (a := a) (by omega)]
  | case4 => rfl

/-- The bytes of numbers are those numbers, if no bit of them is left over. -/
theorem split_regroup (hsmall : ∀ n ∈ numbers, n < 64) (hlength : numbers.length % 4 ≠ 1)
    (hspare : surplus numbers = 0) : split (regroup numbers) = numbers := by
  fun_induction regroup numbers with
  | case1 a b c d rest ih =>
    simp only [List.forall_mem_cons] at hsmall
    obtain ⟨ha, hb, hc, hd, hrest⟩ := hsmall
    rw [surplus_group] at hspare
    have hmod : rest.length % 4 ≠ 1 := by
      simp only [List.length_cons] at hlength
      omega
    rw [split, ih hrest hmod hspare]
    simp only [UInt8.toNat_ofNat', List.cons.injEq, and_true]
    omega
  | case2 a b c =>
    simp only [List.forall_mem_cons] at hsmall
    obtain ⟨ha, hb, hc, -⟩ := hsmall
    have hspare : c % 4 = 0 := hspare
    rw [split]
    simp only [UInt8.toNat_ofNat', List.cons.injEq, and_true]
    omega
  | case3 a b =>
    simp only [List.forall_mem_cons] at hsmall
    obtain ⟨ha, hb, -⟩ := hsmall
    have hspare : b % 16 = 0 := hspare
    rw [split]
    simp only [UInt8.toNat_ofNat', List.cons.injEq, and_true]
    omega
  | case4 numbers hfour hthree htwo =>
    match numbers, hfour, hthree, htwo, hlength with
    | [], _, _, _, _ => rfl
    | [_], _, _, _, hlength => exact absurd rfl hlength
    | [a, b], _, _, htwo, _ => exact (htwo a b rfl).elim
    | [a, b, c], _, hthree, _, _ => exact (hthree a b c rfl).elim
    | a :: b :: c :: d :: rest, hfour, _, _, _ => exact (hfour a b c d rest rfl).elim

/-! ### Symbols and pads -/

/-- The text of numbers, with so many pads behind it. -/
def spelled (numbers : List ℕ) (pads : ℕ) : List UInt8 :=
  numbers.map symbolByte ++ List.replicate pads pad

/-- Pads behind so many symbols: the group they end has two symbols or three, and they end in it. -/
def Room (i pads : ℕ) : Prop :=
  pads = 0 ∨ 2 ≤ i % 4 ∧ i % 4 + pads ≤ 4

theorem readSymbols_map (offset : ℕ) (hsmall : ∀ n ∈ numbers, n < 64) :
    readSymbols offset (numbers.map symbolByte) = .ok numbers := by
  induction numbers generalizing offset with
  | nil => rfl
  | cons n numbers ih =>
    rw [List.forall_mem_cons] at hsmall
    rw [List.map_cons, readSymbols, number?_symbolByte n hsmall.1]
    dsimp only
    rw [ih (offset + 1) hsmall.2]
    rfl

theorem of_readSymbols {offset : ℕ} (h : readSymbols offset text = .ok numbers) :
    (∀ n ∈ numbers, n < 64) ∧ text = numbers.map symbolByte := by
  induction text generalizing offset numbers with
  | nil =>
    cases h
    exact ⟨List.forall_mem_nil _, rfl⟩
  | cons b rest ih =>
    rw [readSymbols] at h
    split at h
    · cases h
    · rename_i n hn
      obtain ⟨hlt, rfl⟩ := of_number? hn
      obtain ⟨more, hrest, h⟩ := bind_eq_ok.1 h
      cases h
      obtain ⟨hsmall, rfl⟩ := ih hrest
      exact ⟨List.forall_mem_cons.2 ⟨hlt, hsmall⟩, rfl⟩

theorem readEnd_pad (start i : ℕ) (first : Option ℕ) (rest : List UInt8) :
    readEnd start i first (pad :: rest) =
      if i % 4 < 2 then .error (.invalidByte (first.getD (start + i)) pad)
      else do
        let (numbers, pads) ← readEnd start (i + 1) (first <|> some (start + i)) rest
        return (numbers, pads + 1) := by
  rw [readEnd.eq_def]
  exact if_pos rfl

theorem readEnd_symbol {start : ℕ} {rest : List UInt8} (hb : b ≠ pad) :
    readEnd start i none (b :: rest) =
      match number? b with
      | none => .error (.invalidByte (start + i) b)
      | some n => do
        let (numbers, pads) ← readEnd start (i + 1) none rest
        return (n :: numbers, pads) := by
  rw [readEnd.eq_def]
  dsimp only
  rw [if_neg hb]
  cases number? b <;> rfl

theorem readEnd_symbol_behind_pad {start offset : ℕ} {rest : List UInt8} (hb : b ≠ pad) :
    readEnd start i (some offset) (b :: rest) = .error (.invalidByte offset pad) := by
  rw [readEnd.eq_def]
  dsimp only
  rw [if_neg hb]

theorem readEnd_replicate (start i : ℕ) (first : Option ℕ) (h : Room i pads) :
    readEnd start i first (List.replicate pads pad) = .ok ([], pads) := by
  induction pads generalizing i first with
  | zero => rfl
  | succ pads ih =>
    have hnext : Room (i + 1) pads := by
      rw [Room] at *
      omega
    have hroom : ¬i % 4 < 2 := by
      rw [Room] at h
      omega
    rw [List.replicate_succ, readEnd_pad, if_neg hroom, ih (i + 1) _ hnext]
    rfl

/-- Symbols are read with the pads behind them. -/
theorem readEnd_spelled (start i : ℕ) (hsmall : ∀ n ∈ numbers, n < 64) (h : Room (i + numbers.length) pads) :
    readEnd start i none (spelled numbers pads) = .ok (numbers, pads) := by
  induction numbers generalizing i with
  | nil => exact readEnd_replicate start i none h
  | cons n numbers ih =>
    rw [List.forall_mem_cons] at hsmall
    have hrest : Room (i + 1 + numbers.length) pads := by
      rwa [Nat.add_right_comm]
    show readEnd start i none (symbolByte n :: spelled numbers pads) = _
    rw [readEnd_symbol (symbolByte_ne_pad n hsmall.1), number?_symbolByte n hsmall.1]
    dsimp only
    rw [ih (i + 1) hsmall.2 hrest]
    rfl

theorem Room.succ (h : Room (i + 1) pads) (hi : ¬i % 4 < 2) : Room i (pads + 1) := by
  rw [Room] at *
  omega

/-- Behind a pad there are pads only. -/
theorem of_readEnd_padded {start offset : ℕ} (h : readEnd start i (some offset) text = .ok (numbers, pads)) :
    numbers = [] ∧ text = List.replicate pads pad ∧ Room i pads := by
  induction text generalizing i pads with
  | nil =>
    cases h
    exact ⟨rfl, rfl, .inl rfl⟩
  | cons b rest ih =>
    by_cases hb : b = pad
    · subst hb
      rw [readEnd_pad] at h
      split at h
      · cases h
      · rename_i hi
        obtain ⟨⟨more, count⟩, hrest, h⟩ := bind_eq_ok.1 h
        cases h
        obtain ⟨hmore, rfl, hroom⟩ := ih hrest
        exact ⟨hmore, rfl, hroom.succ hi⟩
    · rw [readEnd_symbol_behind_pad hb] at h
      cases h

/-- What is read is symbols and the pads behind them. -/
theorem of_readEnd {start : ℕ} (h : readEnd start i none text = .ok (numbers, pads)) :
    (∀ n ∈ numbers, n < 64) ∧ text = spelled numbers pads ∧ Room (i + numbers.length) pads := by
  induction text generalizing i numbers pads with
  | nil =>
    cases h
    exact ⟨List.forall_mem_nil _, rfl, .inl rfl⟩
  | cons b rest ih =>
    by_cases hb : b = pad
    · subst hb
      rw [readEnd_pad] at h
      split at h
      · cases h
      · rename_i hi
        obtain ⟨⟨more, count⟩, hrest, h⟩ := bind_eq_ok.1 h
        cases h
        obtain ⟨rfl, rfl, hroom⟩ := of_readEnd_padded hrest
        exact ⟨List.forall_mem_nil _, rfl, hroom.succ hi⟩
    · rw [readEnd_symbol hb] at h
      split at h
      · cases h
      · rename_i n hn
        obtain ⟨⟨more, count⟩, hrest, h⟩ := bind_eq_ok.1 h
        cases h
        obtain ⟨hlt, rfl⟩ := of_number? hn
        obtain ⟨hsmall, rfl, hroom⟩ := ih hrest
        exact ⟨List.forall_mem_cons.2 ⟨hlt, hsmall⟩, rfl, Nat.add_right_comm i 1 more.length ▸ hroom⟩

/-! ### Texts -/

/-- Numbers and pads as they are written: the groups of four are whole, and no bit is left over. -/
structure Canonical (numbers : List ℕ) (pads : ℕ) : Prop where
  small : ∀ n ∈ numbers, n < 64
  whole : (numbers.length + pads) % 4 = 0
  room : Room numbers.length pads
  spare : surplus numbers = 0

theorem Canonical.pads_eq (h : Canonical numbers pads) : pads = padCount numbers.length := by
  have hwhole := h.whole
  have hroom := h.room
  rw [Room] at hroom
  rw [padCount]
  omega

theorem Canonical.length_mod (h : Canonical numbers pads) : numbers.length % 4 ≠ 1 := by
  have hwhole := h.whole
  have hroom := h.room
  rw [Room] at hroom
  omega

theorem canonical_split (data : List UInt8) : Canonical (split data) (padCount (split data).length) where
  small := split_lt data
  whole := by
    rw [padCount]
    omega
  room := by
    have hmod := length_split_mod data
    rw [Room, padCount]
    omega
  spare := surplus_split data

/-- The start of the part where pads may stand. -/
def lateStart (text : List UInt8) : ℕ :=
  (text.length - 1) / 8 * 8

/-- A text whose length bytes may have is read in two parts. -/
theorem decode_eq (h : text.length % 4 ≠ 1) :
    decode text = (do
      let early ← readSymbols 0 (text.take (lateStart text))
      let (late, pads) ← readEnd (lateStart text) 0 none (text.drop (lateStart text))
      if ((early ++ late).length + pads) % 4 ≠ 0 then throw .invalidPadding
      if surplus (early ++ late) ≠ 0 then
        throw (.invalidLastSymbol ((early ++ late).length - 1) (text.getD ((early ++ late).length - 1) 0))
      return regroup (early ++ late)) := by
  rw [decode, if_neg h]
  rfl

/-- No bytes have a single symbol behind whole groups. -/
theorem length_mod_of_decode (h : decode text = .ok data) : text.length % 4 ≠ 1 := by
  intro hlength
  rw [decode, if_pos hlength] at h
  dsimp only at h
  split at h
  · split at h
    · cases h
    · cases h
  · cases h

theorem take_spelled {k : ℕ} (h : k ≤ numbers.length) :
    (spelled numbers pads).take k = (numbers.take k).map symbolByte := by
  rw [spelled, List.take_append_of_le_length (by rwa [List.length_map]), List.map_take]

theorem drop_spelled {k : ℕ} (h : k ≤ numbers.length) :
    (spelled numbers pads).drop k = spelled (numbers.drop k) pads := by
  rw [spelled, List.drop_append_of_le_length (by rwa [List.length_map]), ← List.map_drop, spelled]

theorem length_spelled (numbers : List ℕ) (pads : ℕ) : (spelled numbers pads).length = numbers.length + pads := by
  rw [spelled, List.length_append, List.length_map, List.length_replicate]

theorem decode_spelled (h : Canonical numbers pads) : decode (spelled numbers pads) = .ok (regroup numbers) := by
  obtain ⟨hsmall, hwhole, hroom, hspare⟩ := h
  have hlength : (spelled numbers pads).length % 4 ≠ 1 := by
    rw [length_spelled]
    omega
  generalize hstart : lateStart (spelled numbers pads) = start
  -- the first pad stands in the last group, and the late part starts with a group
  have hle : start ≤ numbers.length := by
    rw [lateStart, length_spelled] at hstart
    rw [Room] at hroom
    omega
  have hlate : Room (0 + (numbers.drop start).length) pads := by
    rw [lateStart] at hstart
    rw [Room] at *
    rw [List.length_drop]
    omega
  rw [decode_eq hlength, hstart, take_spelled hle, drop_spelled hle,
    readSymbols_map 0 fun n hn => hsmall n (List.mem_of_mem_take hn)]
  show (do
    let (late, pads) ← readEnd start 0 none (spelled (numbers.drop start) pads)
    _) = _
  rw [readEnd_spelled start 0 (fun n hn => hsmall n (List.mem_of_mem_drop hn)) hlate]
  show (if ((numbers.take start ++ numbers.drop start).length + pads) % 4 ≠ 0 then _ else _) = _
  rw [List.take_append_drop, if_neg (not_not_intro hwhole), if_neg (not_not_intro hspare)]
  rfl

theorem spelled_append (early late : List ℕ) (pads : ℕ) :
    spelled (early ++ late) pads = early.map symbolByte ++ spelled late pads := by
  rw [spelled, List.map_append, List.append_assoc, spelled]

/-- What is read is numbers as they are written. -/
theorem exists_of_decode (h : decode text = .ok data) :
    ∃ numbers pads, Canonical numbers pads ∧ text = spelled numbers pads ∧ data = regroup numbers := by
  rw [decode_eq (length_mod_of_decode h)] at h
  obtain ⟨early, hearly, h⟩ := bind_eq_ok.1 h
  obtain ⟨⟨late, pads⟩, hlate, h⟩ := bind_eq_ok.1 h
  obtain ⟨hearlySmall, htake⟩ := of_readSymbols hearly
  obtain ⟨hlateSmall, hdrop, hroom⟩ := of_readEnd hlate
  have htext : text = spelled (early ++ late) pads := by
    rw [spelled_append, ← htake, ← hdrop, List.take_append_drop]
  have hearlyLength : early.length = lateStart text := by
    have hlength := congrArg List.length htake
    rw [List.length_take, List.length_map] at hlength
    rw [← hlength, Nat.min_eq_left]
    rw [lateStart]
    omega
  -- the part before is whole groups
  have hroom : Room (early ++ late).length pads := by
    rw [List.length_append, hearlyLength, lateStart]
    rw [Room] at *
    omega
  dsimp only at h
  split at h
  · cases h
  · rename_i hwhole
    split at h
    · cases h
    · rename_i hspare
      cases h
      exact ⟨early ++ late, pads,
        { small := List.forall_mem_append.2 ⟨hearlySmall, hlateSmall⟩
          whole := not_not.1 hwhole
          room := hroom
          spare := not_not.1 hspare },
        htext, rfl⟩

/-! ### Texts and bytes -/

theorem bytes_encode (data : List UInt8) :
    Text.bytes (encode data) = spelled (split data) (padCount (split data).length) := by
  have hascii : ∀ c ∈ encode data, c.toNat < 0x80 := by
    intro c hc
    rw [encode, List.mem_append, List.mem_map] at hc
    rcases hc with ⟨n, hn, rfl⟩ | hc
    · exact symbol_lt n (split_lt data n hn)
    · rw [List.eq_of_mem_replicate hc]
      decide
  rw [Text.bytes_of_ascii hascii, encode, List.map_append, List.map_map, List.map_replicate]
  rfl

/-- A text is read as some bytes exactly if it is what is written for them. -/
theorem decode_eq_ok_iff : decode text = .ok data ↔ text = Text.bytes (encode data) := by
  constructor
  · intro h
    obtain ⟨numbers, pads, hcanonical, rfl, rfl⟩ := exists_of_decode h
    rw [bytes_encode, split_regroup hcanonical.small hcanonical.length_mod hcanonical.spare, ← hcanonical.pads_eq]
  · rintro rfl
    rw [bytes_encode, decode_spelled (canonical_split data), regroup_split]

theorem length_split (data : List UInt8) : (split data).length = (data.length * 4 + 2) / 3 := by
  fun_induction split data with
  | case1 a b c rest ih =>
    simp only [List.length_cons, ih]
    omega
  | _ => simp

/-- Bytes are as many groups of four as they are groups of three, the last of which need not be whole. -/
theorem length_encode (data : List UInt8) : (encode data).length = (data.length + 2) / 3 * 4 := by
  rw [encode, List.length_append, List.length_map, List.length_replicate, padCount, length_split]
  omega

end Base64

/-! ### The functions -/

/-- The bytes of a string or of bytes. -/
def Value.data? : Value → Option (List UInt8)
  | .string s => some (Text.encode s)
  | .bytes data => some data
  | _ => none

namespace Function

variable (surroundings : Surroundings) (serial : ℕ) (root : Value) (place place' : Option Path)

theorem dataOf_eq_ok_iff {v : Value} {data : List UInt8} :
    dataOf [⟨v, true, place⟩] 0 = .ok data ↔ v.data? = some data := by
  have hof : dataOf [⟨v, true, place⟩] 0 = match v.data? with
      | some data => .ok data
      | none => .error (.ofKind "string or bytes" v) := by
    cases v <;> rfl
  rw [hof]
  cases v.data? <;> simp

theorem data?_textOrBytes (data : List UInt8) : (textOrBytes data).data? = some data := by
  rw [textOrBytes]
  split
  · rename_i s hs
    exact congrArg some (Text.decode?_eq_some_iff.1 hs)
  · rfl

theorem textOrBytes_of_valid {data : List UInt8} (h : ByteArray.IsValidUTF8 ⟨data.toArray⟩) :
    ∃ s, Text.encode s = data ∧ textOrBytes data = .string s := by
  cases hs : Text.decode? data with
  | none => exact absurd h (Text.decode?_eq_none_iff.1 hs)
  | some s => exact ⟨s, Text.decode?_eq_some_iff.1 hs, by rw [textOrBytes, hs]⟩

theorem textOrBytes_of_not_valid {data : List UInt8} (h : ¬ByteArray.IsValidUTF8 ⟨data.toArray⟩) :
    textOrBytes data = .bytes data := by
  rw [textOrBytes, Text.decode?_eq_none_iff.2 h]

theorem encodeBase64_call {v : Value} {data : List UInt8} (h : v.data? = some data) :
    encodeBase64.call surroundings serial root [⟨v, true, place⟩] =
      (.ok (.string (String.ofList (Base64.encode data))), root) := by
  show ((do return .string (String.ofList (Base64.encode (← dataOf [⟨v, true, place⟩] 0))) : Except Failure Value),
    root) = _
  rw [(dataOf_eq_ok_iff place).2 h]
  rfl

theorem decodeBase64_call_eq_ok_iff {t w : Value} :
    decodeBase64.call surroundings serial root [⟨t, true, place⟩] = (.ok w, root) ↔
      ∃ data, t.data? = some (Text.bytes (Base64.encode data)) ∧ w = textOrBytes data := by
  show (_, root) = _ ↔ _
  rw [Prod.mk.injEq, and_iff_left rfl]
  constructor
  · intro h
    obtain ⟨text, htext, h⟩ := bind_eq_ok.1 h
    split at h
    · rename_i data hdata
      cases h
      exact ⟨data, Base64.decode_eq_ok_iff.1 hdata ▸ (dataOf_eq_ok_iff place).1 htext, rfl⟩
    · cases h
  · rintro ⟨data, htext, rfl⟩
    refine bind_eq_ok.2 ⟨_, (dataOf_eq_ok_iff place).2 htext, ?_⟩
    rw [Base64.decode_eq_ok_iff.2 rfl]
    rfl

/-- What is written for bytes is as long as they ask for and is read as them again, as a string exactly if they are
text.  Nothing else is read: what is written for the value of a text is that text. -/
theorem decodeBase64_encodeBase64 :
    (∀ (v : Value) (data : List UInt8), v.data? = some data →
      ∃ text : String,
        encodeBase64.call surroundings serial root [⟨v, true, place⟩] = (.ok (.string text), root) ∧
        text.length = (data.length + 2) / 3 * 4 ∧
        (ByteArray.IsValidUTF8 ⟨data.toArray⟩ → ∃ s : String, Text.encode s = data ∧
          decodeBase64.call surroundings serial root [⟨.string text, true, place'⟩] = (.ok (.string s), root)) ∧
        (¬ByteArray.IsValidUTF8 ⟨data.toArray⟩ →
          decodeBase64.call surroundings serial root [⟨.string text, true, place'⟩] = (.ok (.bytes data), root))) ∧
    ∀ t w : Value, decodeBase64.call surroundings serial root [⟨t, true, place⟩] = (.ok w, root) →
      ∃ text : String,
        encodeBase64.call surroundings serial root [⟨w, true, place'⟩] = (.ok (.string text), root) ∧
        (t = .string text ∨ t = .bytes (Text.encode text)) := by
  constructor
  · intro v data hdata
    have hdecode : decodeBase64.call surroundings serial root
        [⟨.string (String.ofList (Base64.encode data)), true, place'⟩] = (.ok (textOrBytes data), root) :=
      (decodeBase64_call_eq_ok_iff ..).2 ⟨data, congrArg some (Text.encode_ofList _), rfl⟩
    refine ⟨_, encodeBase64_call surroundings serial root place hdata, ?_, fun hvalid => ?_, fun hinvalid => ?_⟩
    · rw [String.length_ofList, Base64.length_encode]
    · obtain ⟨s, hs, htext⟩ := textOrBytes_of_valid hvalid
      exact ⟨s, hs, by rw [hdecode, htext]⟩
    · rw [hdecode, textOrBytes_of_not_valid hinvalid]
  · intro t w h
    obtain ⟨data, ht, rfl⟩ := (decodeBase64_call_eq_ok_iff ..).1 h
    refine ⟨_, encodeBase64_call surroundings serial root place' (data?_textOrBytes data), ?_⟩
    rw [← Text.encode_ofList] at ht
    cases t with
    | string s => exact .inl (congrArg Value.string (Text.encode_injective (Option.some.inj ht)))
    | bytes text => exact .inr (congrArg Value.bytes (Option.some.inj ht))
    | _ => cases ht

/-- A byte that no text has, behind a character and alone, and that character alone. -/
theorem decodeBase64_encodeBase64_invalid :
    let here : Surroundings := ⟨.fixed "UTC" 0, ⟨0, 0, 0⟩, 0⟩
    (¬ByteArray.IsValidUTF8 ⟨#[0xC3, 0xA9, 0xFF]⟩ ∧ ∃ text : String,
      encodeBase64.call here 0 .null [⟨.bytes [0xC3, 0xA9, 0xFF], true, none⟩] = (.ok (.string text), .null) ∧
      text.length = 4 ∧
      decodeBase64.call here 0 .null [⟨.string text, true, none⟩] = (.ok (.bytes [0xC3, 0xA9, 0xFF]), .null)) ∧
    (ByteArray.IsValidUTF8 ⟨#[0xC3, 0xA9]⟩ ∧ ∃ text s : String,
      encodeBase64.call here 0 .null [⟨.string "é", true, none⟩] = (.ok (.string text), .null) ∧
      Text.encode s = [0xC3, 0xA9] ∧
      decodeBase64.call here 0 .null [⟨.string text, true, none⟩] = (.ok (.string s), .null)) ∧
    (decodeBase64.call here 0 .null [⟨.string "/w==", true, none⟩] = (.ok (.bytes [0xFF]), .null) ∧ ∃ text : String,
      encodeBase64.call here 0 .null [⟨.bytes [0xFF], true, none⟩] = (.ok (.string text), .null) ∧
      (Value.string "/w==" = .string text ∨ Value.string "/w==" = .bytes (Text.encode text))) := by
  intro here
  obtain ⟨hencode, hdecode⟩ := decodeBase64_encodeBase64 here 0 .null none none
  have hinvalid : ¬ByteArray.IsValidUTF8 ⟨#[0xC3, 0xA9, 0xFF]⟩ := by decide
  have hvalid : ByteArray.IsValidUTF8 ⟨#[0xC3, 0xA9]⟩ := by decide
  refine ⟨⟨hinvalid, ?_⟩, ⟨hvalid, ?_⟩, rfl, hdecode _ _ rfl⟩
  · obtain ⟨text, htext, hlength, -, hdata⟩ := hencode (.bytes [0xC3, 0xA9, 0xFF]) [0xC3, 0xA9, 0xFF] rfl
    exact ⟨text, htext, hlength, hdata hinvalid⟩
  · obtain ⟨text, htext, -, hstring, -⟩ := hencode (.string "é") [0xC3, 0xA9] rfl
    obtain ⟨s, hs, hdata⟩ := hstring hvalid
    exact ⟨text, s, htext, hs, hdata⟩

end Function

end Reshape
