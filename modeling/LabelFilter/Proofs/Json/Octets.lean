import LabelFilter.Json.Lexeme

/-!
# Texts as octets

JSON text reaches a reader as octets, and a text gets there in UTF-8. The octets of a character are
the character itself if it is ASCII, and lie beyond ASCII otherwise, so no character is mistaken for
a quote, a backslash or a control character.

## Main definitions

* `Json.octets` — the octets of a text

## Main results

* `toList_toUTF8`, `size_toUTF8` — the octets of a text in an array of bytes
* `decodeUtf8?_octets` — the octets of a text are decoded to it
* `utf8EncodeChar_of_ascii`, `le_of_mem_utf8EncodeChar` — the octets of one character
-/

namespace LabelFilter.Json

/-- The octets of a text in UTF-8. -/
def octets (s : String) : List Octet := s.toList.flatMap String.utf8EncodeChar

@[simp] theorem octets_append (s t : String) : octets (s ++ t) = octets s ++ octets t := by
  simp [octets, String.toList_append]

@[simp] theorem octets_ofList (cs : List Char) :
    octets (String.ofList cs) = cs.flatMap String.utf8EncodeChar := by
  rw [octets, String.toList_ofList]

/-! ### Arrays of bytes -/

theorem toUTF8_eq (s : String) : s.toUTF8 = (octets s).toByteArray := by
  show s.toByteArray = _
  rw [← String.utf8Encode_toList]
  rfl

/-- The loop behind `ByteArray.toList` puts the bytes that are left behind those that are read. -/
theorem toList_loop (a : ByteArray) (i : Nat) (r : List UInt8) :
    ByteArray.toList.loop a i r = r.reverse ++ a.data.toList.drop i := by
  induction h : a.size - i generalizing i r with
  | zero =>
    have hsize : a.data.toList.length ≤ i := by
      rw [Array.length_toList]
      show a.size ≤ i
      omega
    rw [ByteArray.toList.loop, if_neg (by omega), List.drop_of_length_le hsize, List.append_nil]
  | succ n ih =>
    have hi : i < a.size := by omega
    have hlen : i < a.data.toList.length := by
      rw [Array.length_toList]
      exact hi
    have hget : a.get! i = a.data.toList[i] := by
      show a.data[i]! = _
      rw [getElem!_pos a.data i hi, Array.getElem_toList]
    rw [ByteArray.toList.loop, if_pos hi, ih (i + 1) _ (by omega), List.drop_eq_getElem_cons hlen,
      hget]
    simp

theorem toList_toUTF8 (s : String) : s.toUTF8.toList = octets s := by
  rw [toUTF8_eq, ByteArray.toList, toList_loop]
  simp

/-- The octets of a text are decoded to it. -/
theorem decodeUtf8?_octets (s : String) : Lexeme.decodeUtf8? (octets s) = some s := by
  have harray : (⟨(octets s).toArray⟩ : ByteArray) = s.toUTF8 := by
    rw [toUTF8_eq]
    apply ByteArray.ext
    apply Array.toList_inj.mp
    rw [List.toList_data_toByteArray]
  have hvalid : s.toUTF8.IsValidUTF8 := s.isValidUTF8
  rw [Lexeme.decodeUtf8?, harray, String.fromUTF8?, dif_pos hvalid]
  rfl

/-! ### Characters -/

theorem utf8EncodeChar_of_ascii {c : Char} (h : c.toNat < 128) :
    String.utf8EncodeChar c = [ascii c] := by
  have hle : c.val.toNat ≤ 0x7f := Nat.le_of_lt_succ h
  rw [String.utf8EncodeChar, if_pos hle]
  rfl

theorem le_of_mem_utf8EncodeChar {c : Char} (h : 128 ≤ c.toNat) {b : Octet}
    (hb : b ∈ String.utf8EncodeChar c) : 0x80 ≤ b := by
  have hgt : ¬ c.val.toNat ≤ 0x7f := by
    show ¬ c.toNat ≤ 0x7f
    omega
  rw [UInt8.le_iff_toNat_le]
  rw [String.utf8EncodeChar, if_neg hgt] at hb
  split at hb
  · simp only [List.mem_cons, List.not_mem_nil, or_false] at hb
    rcases hb with rfl | rfl <;> simp <;> omega
  · split at hb <;> simp only [List.mem_cons, List.not_mem_nil, or_false] at hb
    · rcases hb with rfl | rfl | rfl <;> simp <;> omega
    · rcases hb with rfl | rfl | rfl | rfl <;> simp <;> omega

end LabelFilter.Json
