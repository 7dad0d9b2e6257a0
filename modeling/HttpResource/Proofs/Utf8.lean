/-
# Bytes of texts

A text has one list of bytes, and bytes are those of one text at most (`Text.ofBytes?_eq_some_iff`). A text of
ASCII characters has one byte for each of them. Where any bytes are taken for a text, those of a text give just
this text, and no marks (`Text.lossy_bytesOf`).

Key theorems: `Text.bytesOf_inj`, `Text.ofBytes?_eq_some_iff`, `Text.bytesOf_ascii`, `Text.lossy_bytesOf`.
-/
import HttpResource.Text.Utf8

namespace HttpResource

namespace Text

/-- What is gathered so far stands in reverse. -/
theorem toList_loop_eq (bytes : ByteArray) (i : Nat) (gathered : List UInt8) :
    ByteArray.toList.loop bytes i gathered = gathered.reverse ++ bytes.data.toList.drop i := by
  fun_induction ByteArray.toList.loop bytes i gathered with
  | case1 i gathered hlt ih =>
    have hi : i < bytes.data.toList.length := by simpa using hlt
    have hbyte : bytes.get! i = bytes.data.toList[i] := by
      show bytes.data[i]! = _
      rw [getElem!_pos bytes.data i hlt, Array.getElem_toList]
    rw [ih, List.drop_eq_getElem_cons hi, hbyte, List.reverse_cons, List.append_assoc]
    rfl
  | case2 i gathered hle =>
    have hend : bytes.data.toList.length ≤ i := by simpa using Nat.le_of_not_lt hle
    rw [List.drop_eq_nil_of_le hend, List.append_nil]

theorem toList_eq_data (bytes : ByteArray) : bytes.toList = bytes.data.toList := by
  rw [ByteArray.toList, toList_loop_eq]
  rfl

/-- The bytes of a text are those of its characters. -/
theorem bytesOf_eq (s : String) : bytesOf s = s.toList.flatMap String.utf8EncodeChar := by
  unfold bytesOf
  rw [toList_eq_data, String.toUTF8_eq_toByteArray, ← String.utf8Encode_toList, List.utf8Encode,
    List.toList_data_toByteArray]

theorem ofBytes?_eq_some_iff {bytes : List UInt8} {s : String} :
    ofBytes? bytes = some s ↔ bytes = bytesOf s := by
  have hbytes : bytes = bytesOf s ↔ (⟨bytes.toArray⟩ : ByteArray) = s.toByteArray := by
    rw [ByteArray.ext_iff, ← Array.toList_inj, bytesOf, toList_eq_data, String.toUTF8_eq_toByteArray]
  rw [hbytes, ofBytes?, String.fromUTF8?]
  constructor
  · intro h
    split at h
    · cases h
      rfl
    · cases h
  · intro h
    rw [dif_pos (h ▸ s.isValidUTF8)]
    exact congrArg some (String.toByteArray_inj.mp h)

theorem bytesOf_inj {s t : String} : bytesOf s = bytesOf t ↔ s = t := by
  refine ⟨fun h => ?_, congrArg bytesOf⟩
  have hs : ofBytes? (bytesOf s) = some s := ofBytes?_eq_some_iff.mpr rfl
  have ht : ofBytes? (bytesOf s) = some t := ofBytes?_eq_some_iff.mpr h
  exact Option.some.inj (hs.symm.trans ht)

theorem bytesOf_ascii {s : List Char} (h : ∀ c ∈ s, c.toNat < 128) :
    bytesOf (String.ofList s) = s.map Char.toUInt8 := by
  rw [bytesOf_eq, String.toList_ofList]
  induction s with
  | nil => rfl
  | cons c rest ih =>
    obtain ⟨hc, hrest⟩ := List.forall_mem_cons.mp h
    have hsize : c.utf8Size = 1 := by
      rw [Char.utf8Size_eq_one_iff, UInt32.le_iff_toNat_le]
      exact Nat.le_of_lt_succ hc
    rw [List.flatMap_cons, String.utf8EncodeChar_eq_singleton hsize, ih hrest]
    rfl

/-! ### Marks -/

theorem lossyFrom_length (skipped rest : List UInt8) :
    lossyFrom skipped.length (skipped ++ rest) = lossyFrom 0 rest := by
  induction skipped with
  | nil => rfl
  | cons b skipped ih => exact ih

/-- A character at the start is read as it is. -/
theorem lossyFrom_character (c : Char) (rest : List UInt8) :
    lossyFrom 0 (String.utf8EncodeChar c ++ rest) = c :: lossyFrom 0 rest := by
  have hread : (String.utf8EncodeChar c ++ rest).toByteArray.utf8DecodeChar? 0 = some c := by
    rw [List.toByteArray_append, ← List.utf8Encode_singleton]
    exact List.utf8DecodeChar?_utf8Encode_singleton_append
  have hsize := String.length_utf8EncodeChar c
  cases hbytes : String.utf8EncodeChar c with
  | nil => exact absurd hbytes String.utf8EncodeChar_ne_nil
  | cons b others =>
    rw [hbytes, List.length_cons] at hsize
    rw [hbytes] at hread
    rw [List.cons_append] at hread ⊢
    have hothers : c.utf8Size - 1 = others.length := by omega
    rw [lossyFrom, hread]
    dsimp only
    rw [hothers, lossyFrom_length]

theorem lossy_bytesOf (s : String) : lossy (bytesOf s) = s := by
  have hchars : ∀ cs : List Char, lossyFrom 0 (cs.flatMap String.utf8EncodeChar) = cs := by
    intro cs
    induction cs with
    | nil => rfl
    | cons c rest ih => rw [List.flatMap_cons, lossyFrom_character, ih]
  rw [lossy, bytesOf_eq, hchars, String.ofList_toList]

/-- The first three bytes of a character of four stand for one mark. -/
example : lossy [0x61, 0xf0, 0x90, 0x80, 0x62] = String.ofList ['a', replacement, 'b'] := by decide +kernel

end Text

end HttpResource
