/-
Text as bytes, character by character.

* `Text.encode_ofList`, `Text.decode?_bytes` — the bytes of a string are those of its characters, and are read back;
* `Text.decode?_eq_some_iff`, `Text.decode?_eq_none_iff` — what is read, and what is not;
* `Text.bytes_of_ascii`, `Text.le_of_mem_utf8EncodeChar` — a character of the basic range is one byte, and any other
  is made of bytes above that range.
-/
import Mathlib.Data.List.Basic
import Reshape.Text.Utf8

namespace Reshape.Text

/-- The bytes of characters, one after the other. -/
def bytes (cs : List Char) : List UInt8 :=
  cs.flatMap String.utf8EncodeChar

@[simp] theorem bytes_nil : bytes [] = [] := rfl

@[simp] theorem bytes_cons (c : Char) (cs : List Char) : bytes (c :: cs) = String.utf8EncodeChar c ++ bytes cs := rfl

@[simp] theorem bytes_append (xs ys : List Char) : bytes (xs ++ ys) = bytes xs ++ bytes ys :=
  List.flatMap_append

theorem encode_ofList (cs : List Char) : encode (String.ofList cs) = bytes cs := by
  show (String.ofList cs).toByteArray.data.toList = bytes cs
  rw [String.toByteArray_ofList, List.utf8Encode, List.data_toByteArray]
  rfl

theorem isValidUTF8_encode (s : String) : ByteArray.IsValidUTF8 ⟨(encode s).toArray⟩ :=
  s.isValidUTF8

theorem decode?_encode (s : String) : decode? (encode s) = some s := by
  rw [decode?, String.fromUTF8?, dif_pos (isValidUTF8_encode s)]
  rfl

theorem decode?_bytes (cs : List Char) : decode? (bytes cs) = some (String.ofList cs) := by
  rw [← encode_ofList, decode?_encode]

theorem encode_injective : Function.Injective encode := by
  intro s t h
  have hs := decode?_encode s
  rw [h, decode?_encode] at hs
  exact (Option.some.inj hs).symm

theorem decode?_eq_some_iff {data : List UInt8} {s : String} : decode? data = some s ↔ encode s = data := by
  constructor
  · intro h
    rw [decode?, String.fromUTF8?] at h
    split at h
    · cases h
      rfl
    · cases h
  · rintro rfl
    exact decode?_encode s

theorem decode?_eq_none_iff {data : List UInt8} :
    decode? data = none ↔ ¬ByteArray.IsValidUTF8 ⟨data.toArray⟩ := by
  rw [decode?, String.fromUTF8?]
  split
  · rename_i h
    exact iff_of_false (Option.some_ne_none _) (not_not_intro h)
  · rename_i h
    exact iff_of_true rfl h

theorem utf8EncodeChar_of_lt {c : Char} (h : c.toNat < 0x80) :
    String.utf8EncodeChar c = [UInt8.ofNat c.toNat] :=
  if_pos (Nat.le_of_lt_succ h)

/-- Characters of the basic range are one byte each. -/
theorem bytes_of_ascii {cs : List Char} (h : ∀ c ∈ cs, c.toNat < 0x80) :
    bytes cs = cs.map fun c => UInt8.ofNat c.toNat := by
  induction cs with
  | nil => rfl
  | cons c cs ih =>
    rw [bytes_cons, utf8EncodeChar_of_lt (h c List.mem_cons_self), ih fun d hd => h d (List.mem_cons_of_mem _ hd)]
    rfl

/-- The bytes of a character outside of the basic range are outside of it. -/
theorem le_of_mem_utf8EncodeChar {c : Char} (h : 0x80 ≤ c.toNat) {b : UInt8} (hb : b ∈ String.utf8EncodeChar c) :
    0x80 ≤ b := by
  have hhigh : ∀ n < 0x100, 0x80 ≤ n → 0x80 ≤ UInt8.ofNat n := by
    intro n hlt hn
    have hnat : (UInt8.ofNat n).toNat = n := UInt8.toNat_ofNat_of_lt' hlt
    exact UInt8.le_iff_toNat_le.2 (hnat.symm ▸ hn)
  have hc : ¬ c.val.toNat ≤ 0x7F := Nat.not_le.2 h
  simp only [String.utf8EncodeChar, if_neg hc] at hb
  split at hb
  · simp only [List.mem_cons, List.not_mem_nil, or_false] at hb
    rcases hb with rfl | rfl
    all_goals exact hhigh _ (by omega) (by omega)
  · split at hb
    · simp only [List.mem_cons, List.not_mem_nil, or_false] at hb
      rcases hb with rfl | rfl | rfl
      all_goals exact hhigh _ (by omega) (by omega)
    · simp only [List.mem_cons, List.not_mem_nil, or_false] at hb
      rcases hb with rfl | rfl | rfl | rfl
      all_goals exact hhigh _ (by omega) (by omega)

end Reshape.Text
