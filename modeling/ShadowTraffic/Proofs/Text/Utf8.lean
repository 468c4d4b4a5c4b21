import Mathlib.Data.List.Basic
import ShadowTraffic.Text.Utf8

/-! # Texts as bytes

The bytes of a text are those of its characters, one character after the other. A character of
ASCII has one byte, and one that begins nothing longer, so text that is ASCII is decoded from its
bytes as it was.
-/

namespace ShadowTraffic

theorem toList_byteArray (bytes : ByteArray) : bytes.toList = bytes.data.toList := by
  suffices h : ∀ i taken, ByteArray.toList.loop bytes i taken =
      taken.reverse ++ bytes.data.toList.drop i from h 0 []
  intro i taken
  fun_induction ByteArray.toList.loop bytes i taken with
  | case1 i taken hlt ih =>
    have hlength : i < bytes.data.toList.length := by simpa using hlt
    rw [ih, List.drop_eq_getElem_cons hlength]
    simp [ByteArray.get!, hlt]
  | case2 i taken hge =>
    have hdrop : bytes.data.toList.drop i = [] :=
      List.drop_eq_nil_of_le (by simpa using Nat.le_of_not_lt hge)
    simp [hdrop]

theorem toUTF8_toList (s : String) : s.toUTF8.toList = s.toList.flatMap String.utf8EncodeChar := by
  rw [toList_byteArray, String.toUTF8, ← String.utf8Encode_toList, List.utf8Encode,
    List.toList_data_toByteArray]

theorem toUTF8_toList_inj {s t : String} (h : s.toUTF8.toList = t.toUTF8.toList) : s = t := by
  rw [toList_byteArray, toList_byteArray] at h
  exact String.toByteArray_inj.1 (ByteArray.ext (Array.toList_inj.1 h))

/-! ## ASCII -/

/-- ASCII has one byte a character. -/
theorem utf8EncodeChar_of_le {c : Char} (h : c.toNat ≤ 0x7F) :
    String.utf8EncodeChar c = [UInt8.ofNat c.toNat] :=
  if_pos h

theorem toNat_byte_of_le {c : Char} (h : c.toNat ≤ 0x7F) : (UInt8.ofNat c.toNat).toNat = c.toNat :=
  UInt8.toNat_ofNat_of_lt (Nat.lt_of_le_of_lt h (by decide))

theorem toUTF8_of_ascii {s : String} (h : ∀ c ∈ s.toList, c.toNat ≤ 0x7F) :
    s.toUTF8.toList = s.toList.map fun c => UInt8.ofNat c.toNat := by
  rw [toUTF8_toList, List.flatMap_congr fun c hc => utf8EncodeChar_of_le (h c hc)]
  exact List.map_eq_flatMap.symm

namespace Text.Utf8

theorem lead_of_ascii {c : Char} (h : c.toNat ≤ 0x7F) :
    lead (UInt8.ofNat c.toNat).toNat = .whole c := by
  rw [toNat_byte_of_le h, lead, if_pos (Nat.lt_succ_of_le h), Char.ofNat_toNat]

theorem decodeFrom_ascii {cs : List Char} (h : ∀ c ∈ cs, c.toNat ≤ 0x7F) :
    decodeFrom none (cs.map fun c => UInt8.ofNat c.toNat) = cs := by
  induction cs with
  | nil => rfl
  | cons c rest ih =>
    rw [List.forall_mem_cons] at h
    rw [List.map_cons, decodeFrom, lead_of_ascii h.1, ih h.2]

theorem decode_toUTF8 {s : String} (h : ∀ c ∈ s.toList, c.toNat ≤ 0x7F) :
    decode s.toUTF8.toList = s := by
  rw [decode, toUTF8_of_ascii h, decodeFrom_ascii h, String.ofList_toList]

end Text.Utf8

end ShadowTraffic
