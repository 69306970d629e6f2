/-
  SqlPipeline/Proofs/Text/Utf8.lean
  =================================
  **Text that is written as UTF-8 is read back as it was.**

  A character has one to four bytes by the size of its code point.  The ranges that the second
  byte has to lie in leave out just the surrogates, what could be written shorter, and what is
  beyond the last character, so that no character is refused.
-/
import SqlPipeline.Text.Utf8
import Mathlib.Tactic.Common

namespace SqlPipeline.Text

variable {lead : UInt8} {bytes rest : List UInt8} {position length lo hi value : Nat}

/-- One character, when its first byte and those behind it fit. -/
theorem decodeUtf8_cons (hshape : utf8Shape? lead = some (length, lo, hi))
    (htail : utf8Tail lead position (position + 1) lo hi (length - 1) (utf8LeadValue lead length) bytes
      = .ok (value, rest)) :
    decodeUtf8 position (lead :: bytes)
      = (decodeUtf8 (position + length) rest).map (Char.ofNat value :: ·) := by
  rw [decodeUtf8]
  split
  · rename_i hnone
    rw [hshape] at hnone
    cases hnone
  · rename_i found hfound
    rw [hshape] at hfound
    obtain ⟨⟩ := hfound
    split
    · rename_i failure hfailure
      rw [htail] at hfailure
      cases hfailure
    · rename_i hok
      rw [htail] at hok
      obtain ⟨⟩ := hok
      rfl

/-! ### First bytes -/

theorem utf8Shape?_one (h : lead.toNat < 0x80) : utf8Shape? lead = some (1, 0, 0) := by
  simp [utf8Shape?, h]

theorem utf8Shape?_two (h : 0xC2 ≤ lead.toNat) (h' : lead.toNat < 0xE0) :
    utf8Shape? lead = some (2, 0x80, 0xBF) := by
  simp only [utf8Shape?]
  rw [if_neg (by omega), if_neg (by omega), if_pos h']

theorem utf8Shape?_three (h : 0xE0 ≤ lead.toNat) (h' : lead.toNat < 0xF0) :
    utf8Shape? lead = some (3, if lead.toNat = 0xE0 then 0xA0 else 0x80,
      if lead.toNat = 0xED then 0x9F else 0xBF) := by
  simp only [utf8Shape?, beq_iff_eq]
  rw [if_neg (by omega), if_neg (by omega), if_neg (by omega)]
  split
  · rw [if_neg (by omega)]
  · split <;> rfl

theorem utf8Shape?_four (h : 0xF0 ≤ lead.toNat) (h' : lead.toNat < 0xF5) :
    utf8Shape? lead = some (4, if lead.toNat = 0xF0 then 0x90 else 0x80,
      if lead.toNat = 0xF4 then 0x8F else 0xBF) := by
  simp only [utf8Shape?, beq_iff_eq]
  rw [if_neg (by omega), if_neg (by omega), if_neg (by omega), if_neg (by omega),
    if_neg (by omega), if_neg (by omega)]
  split
  · rw [if_neg (by omega)]
  · by_cases hlast : lead.toNat = 0xF4
    · rw [if_neg (by omega), if_pos hlast, if_pos hlast]
    · rw [if_pos (by omega), if_neg hlast]

theorem utf8Tail_cons {byte : UInt8} {first count : Nat} (h : lo ≤ byte.toNat)
    (h' : byte.toNat ≤ hi) :
    utf8Tail lead first position lo hi (count + 1) value (byte :: bytes)
      = utf8Tail lead first (position + 1) 0x80 0xBF count (value * 64 + byte.toNat % 64) bytes := by
  rw [utf8Tail, if_pos ⟨h, h'⟩]

/-! ### Characters -/

theorem toNat_ofNat_of_lt {n : Nat} (h : n < 256) : (UInt8.ofNat n).toNat = n := by
  simp [Nat.mod_eq_of_lt h]

variable {c : Char}

/-- That the bytes of a character are read back as this, whatever follows. -/
def IsReadBack (c : Char) : Prop :=
  ∀ bytes position, ∃ next, decodeUtf8 position (String.utf8EncodeChar c ++ bytes)
    = (decodeUtf8 next bytes).map (c :: ·)

/-- It is enough to find the shape of the first byte and the code point. -/
theorem isReadBack_of_tail (hencoded : String.utf8EncodeChar c = lead :: rest)
    (hshape : utf8Shape? lead = some (length, lo, hi))
    (htail : ∀ bytes position, utf8Tail lead position (position + 1) lo hi (length - 1)
      (utf8LeadValue lead length) (rest ++ bytes) = .ok (c.toNat, bytes)) : IsReadBack c := by
  intro bytes position
  refine ⟨position + length, ?_⟩
  rw [hencoded, List.cons_append, decodeUtf8_cons hshape (htail bytes position),
    Char.ofNat_toNat]

theorem isReadBack_one (h : c.toNat ≤ 0x7F) : IsReadBack c := by
  have hencoded := String.utf8EncodeChar.eq_1 c
  simp only [show c.val.toNat = c.toNat from rfl, if_pos h] at hencoded
  have hlead := toNat_ofNat_of_lt (show c.toNat < 256 by omega)
  refine isReadBack_of_tail hencoded (utf8Shape?_one (by omega)) fun bytes position => ?_
  simp [utf8Tail, utf8LeadValue, hlead]

theorem isReadBack_two (h : 0x7F < c.toNat) (h' : c.toNat ≤ 0x7FF) : IsReadBack c := by
  have hencoded := String.utf8EncodeChar.eq_1 c
  simp only [show c.val.toNat = c.toNat from rfl, if_neg (Nat.not_le.2 h), if_pos h'] at hencoded
  have hlead := toNat_ofNat_of_lt (show c.toNat / 64 % 0x20 + 0xC0 < 256 by omega)
  have hsecond := toNat_ofNat_of_lt (show c.toNat % 0x40 + 0x80 < 256 by omega)
  refine isReadBack_of_tail hencoded (utf8Shape?_two (by omega) (by omega))
    fun bytes position => ?_
  simp only [List.cons_append, List.nil_append, Nat.reduceSub]
  rw [utf8Tail_cons (by omega) (by omega), utf8Tail]
  have hvalue : (c.toNat / 64 % 0x20 + 0xC0) % 32 * 64 + (c.toNat % 0x40 + 0x80) % 64
      = c.toNat := by omega
  simpa [utf8LeadValue, hlead, hsecond] using hvalue

theorem isReadBack_three (h : 0x7FF < c.toNat) (h' : c.toNat ≤ 0xFFFF) : IsReadBack c := by
  have hvalid : c.toNat < 0xD800 ∨ 0xDFFF < c.toNat ∧ c.toNat < 0x110000 := c.valid
  have hencoded := String.utf8EncodeChar.eq_1 c
  simp only [show c.val.toNat = c.toNat from rfl, if_neg (show ¬ c.toNat ≤ 0x7F by omega),
    if_neg (Nat.not_le.2 h), if_pos h'] at hencoded
  have hlead := toNat_ofNat_of_lt (show c.toNat / 4096 % 0x10 + 0xE0 < 256 by omega)
  have hsecond := toNat_ofNat_of_lt (show c.toNat / 64 % 0x40 + 0x80 < 256 by omega)
  have hthird := toNat_ofNat_of_lt (show c.toNat % 0x40 + 0x80 < 256 by omega)
  refine isReadBack_of_tail hencoded (utf8Shape?_three (by omega) (by omega))
    fun bytes position => ?_
  simp only [List.cons_append, List.nil_append, Nat.reduceSub]
  rw [utf8Tail_cons (by split <;> omega) (by split <;> omega),
    utf8Tail_cons (by omega) (by omega), utf8Tail]
  have hvalue : ((c.toNat / 4096 % 0x10 + 0xE0) % 16 * 64 + (c.toNat / 64 % 0x40 + 0x80) % 64) * 64
      + (c.toNat % 0x40 + 0x80) % 64 = c.toNat := by omega
  simpa [utf8LeadValue, hlead, hsecond, hthird] using hvalue

theorem isReadBack_four (h : 0xFFFF < c.toNat) : IsReadBack c := by
  have hvalid : c.toNat < 0xD800 ∨ 0xDFFF < c.toNat ∧ c.toNat < 0x110000 := c.valid
  have hencoded := String.utf8EncodeChar.eq_1 c
  simp only [show c.val.toNat = c.toNat from rfl, if_neg (show ¬ c.toNat ≤ 0x7F by omega),
    if_neg (show ¬ c.toNat ≤ 0x7FF by omega), if_neg (Nat.not_le.2 h)] at hencoded
  have hlead := toNat_ofNat_of_lt (show c.toNat / 262144 % 0x08 + 0xF0 < 256 by omega)
  have hsecond := toNat_ofNat_of_lt (show c.toNat / 4096 % 0x40 + 0x80 < 256 by omega)
  have hthird := toNat_ofNat_of_lt (show c.toNat / 64 % 0x40 + 0x80 < 256 by omega)
  have hfourth := toNat_ofNat_of_lt (show c.toNat % 0x40 + 0x80 < 256 by omega)
  refine isReadBack_of_tail hencoded (utf8Shape?_four (by omega) (by omega))
    fun bytes position => ?_
  simp only [List.cons_append, List.nil_append, Nat.reduceSub]
  rw [utf8Tail_cons (by split <;> omega) (by split <;> omega),
    utf8Tail_cons (by omega) (by omega), utf8Tail_cons (by omega) (by omega), utf8Tail]
  have hvalue : (((c.toNat / 262144 % 0x08 + 0xF0) % 8 * 64 + (c.toNat / 4096 % 0x40 + 0x80) % 64)
      * 64 + (c.toNat / 64 % 0x40 + 0x80) % 64) * 64 + (c.toNat % 0x40 + 0x80) % 64 = c.toNat := by
    omega
  simpa [utf8LeadValue, hlead, hsecond, hthird, hfourth] using hvalue

/-- A character is read back from its bytes, whatever follows. -/
theorem isReadBack (c : Char) : IsReadBack c := by
  rcases Nat.lt_or_ge 0x7F c.toNat with h1 | h1
  · rcases Nat.lt_or_ge 0x7FF c.toNat with h2 | h2
    · rcases Nat.lt_or_ge 0xFFFF c.toNat with h3 | h3
      · exact isReadBack_four h3
      · exact isReadBack_three h2 h3
    · exact isReadBack_two h1 h2
  · exact isReadBack_one h1

theorem decodeUtf8_flatMap (cs : List Char) (position : Nat) :
    decodeUtf8 position (cs.flatMap String.utf8EncodeChar) = .ok cs := by
  induction cs generalizing position with
  | nil => rw [List.flatMap_nil, decodeUtf8]
  | cons c cs ih =>
    obtain ⟨next, hnext⟩ := isReadBack c (cs.flatMap String.utf8EncodeChar) position
    rw [List.flatMap_cons, hnext, ih]
    rfl

theorem toList_loop (bytes : ByteArray) (i : Nat) (before : List UInt8) :
    ByteArray.toList.loop bytes i before = before.reverse ++ bytes.data.toList.drop i := by
  fun_induction ByteArray.toList.loop bytes i before with
  | case1 i before hi ih =>
    have hdata : i < bytes.data.toList.length := hi
    have hget : bytes.get! i = bytes.data.toList[i] := by
      simp [ByteArray.get!, hi]
    rw [ih, List.reverse_cons, List.append_assoc, List.singleton_append,
      List.drop_eq_getElem_cons hdata, hget]
  | case2 i before hi =>
    have hdata : bytes.data.toList.length ≤ i := Nat.le_of_not_lt hi
    rw [List.drop_eq_nil_of_le hdata, List.append_nil]

/-- **What is written as UTF-8 is read back.** -/
theorem decodeUtf8_toUTF8 (s : String) : decodeUtf8 0 s.toUTF8.toList = .ok s.toList := by
  have hbytes : s.toUTF8.toList = s.toList.flatMap String.utf8EncodeChar := by
    rw [ByteArray.toList, toList_loop, String.toUTF8_eq_toByteArray, ← String.utf8Encode_toList,
      List.utf8Encode, List.data_toByteArray]
    rfl
  rw [hbytes, decodeUtf8_flatMap]

end SqlPipeline.Text
