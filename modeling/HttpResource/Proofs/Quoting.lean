/-
# Quoted strings are read back

A string in quotes is written with escapes for the quote, the backslash and the controls. Whatever comes
after it, the search for its end stops at the closing quote, and reading up to there gives the string.

Key definitions: `Json.escaped`, `Json.IsEscape`.
Key theorems: `StringLiteral.read_escaped`, `Predicate.Token.stringLength_escaped`.
-/
import HttpResource.Json.Printer
import HttpResource.Predicate.Token

namespace HttpResource

open StringLiteral (hexDigit? fourDigits unicodeEscape escape readFrom)

namespace Json

/-- The characters of a string as they stand between the quotes. -/
def escaped (s : List Char) : List Char := s.flatMap escapedChar

theorem stringText_toList (s : String) :
    (stringText s).toList = '\x22' :: (escaped s.toList ++ ['\x22']) := by
  rw [stringText, String.toList_ofList]
  rfl

/-! ### Escapes -/

/-- The characters after the backslash of an escape. Only the first of them may be a quote or a
backslash. -/
structure IsEscape (c x : Char) (more : List Char) : Prop where
  read : ∀ offset rest, escape offset (x :: (more ++ rest)) = .ok (c, more.length + 1)
  plain : ∀ d ∈ more, d ≠ '\x22' ∧ d ≠ '\\'

theorem isEscape_of_short {c x : Char} (h : ∀ offset rest, escape offset (x :: rest) = .ok (c, 1)) :
    IsEscape c x [] := ⟨h, nofun⟩

/-- The number of a control is read as four digits. -/
theorem fourDigits_hexByte {n : Nat} (h : n < 256) (offset : Nat) (rest : List Char) :
    fourDigits offset ('0' :: '0' :: (hexByte n ++ rest)) = .ok n := by
  have hdigit : ∀ d < 16, hexDigit? (Nat.digitChar d) = some d := by decide
  have hzero : hexDigit? '0' = some 0 := by decide
  have hvalue : ((0 * 16 + 0) * 16 + n / 16) * 16 + n % 16 = n := by omega
  unfold hexByte
  rw [List.cons_append, List.cons_append, fourDigits]
  rw [hzero, hdigit (n / 16) (by omega), hdigit (n % 16) (by omega)]
  exact congrArg Except.ok hvalue

theorem isEscape_hexByte {c : Char} (h : c.toNat < 0x20) :
    IsEscape c 'u' ('0' :: '0' :: hexByte c.toNat) where
  read offset rest := by
    have hhigh : ¬(0xdc00 ≤ c.toNat && c.toNat ≤ 0xdfff) = true := by simp; omega
    have hlow : (c.toNat < 0xd800 || 0xdbff < c.toNat) = true := by simp; omega
    have hunicode : unicodeEscape (offset + 1) ('0' :: '0' :: (hexByte c.toNat ++ rest)) = .ok (c, 4) := by
      unfold unicodeEscape
      rw [fourDigits_hexByte (by omega)]
      show (if _ then _ else if _ then _ else _) = _
      rw [if_neg hhigh, if_pos hlow, Char.ofNat_toNat]
      rfl
    show (unicodeEscape (offset + 1) ('0' :: '0' :: (hexByte c.toNat ++ rest))).map _ = _
    rw [hunicode]
    rfl
  plain := by
    have hdigit : ∀ d < 16, Nat.digitChar d ≠ '\x22' ∧ Nat.digitChar d ≠ '\\' := by decide
    simp only [hexByte, List.forall_mem_cons]
    exact ⟨by decide, by decide, hdigit _ (by omega), hdigit _ (by omega), nofun⟩

/-- A character is written as it is or as an escape. -/
theorem escapedChar_cases (c : Char) :
    (escapedChar c = [c] ∧ c ≠ '\x22' ∧ c ≠ '\\' ∧ ¬c.toNat < 0x20) ∨
      ∃ x more, escapedChar c = '\\' :: x :: more ∧ IsEscape c x more := by
  unfold escapedChar
  iterate 7
    split
    · rename_i h
      exact .inr ⟨_, [], rfl, isEscape_of_short fun _ _ => by rw [h]; rfl⟩
  split
  · rename_i h
    exact .inr ⟨_, _, rfl, isEscape_hexByte h⟩
  · exact .inl ⟨rfl, by assumption, by assumption, by assumption⟩

end Json

/-! ### Reading -/

namespace StringLiteral

theorem readFrom_skip (s rest : List Char) (offset : Nat) :
    ∃ offset', readFrom offset s.length (s ++ rest) = readFrom offset' 0 rest := by
  induction s generalizing offset with
  | nil => exact ⟨offset, rfl⟩
  | cons c s ih => exact ih (offset + c.utf8Size)

/-- A character is read back from its escape. -/
theorem readFrom_escapedChar (c : Char) (offset : Nat) (rest : List Char) :
    ∃ offset', readFrom offset 0 (Json.escapedChar c ++ rest) =
      (readFrom offset' 0 rest).map fun (cs, r) => (c :: cs, r) := by
  rcases Json.escapedChar_cases c with ⟨h, hquote, hslash, hcontrol⟩ | ⟨x, more, h, hescape⟩
  · rw [h, List.cons_append, readFrom, if_neg hquote, if_neg hslash, if_neg hcontrol]
    exact ⟨_, rfl⟩
  · obtain ⟨offset', hskip⟩ := readFrom_skip (x :: more) rest (offset + 1)
    rw [h, List.cons_append, readFrom, if_neg (by decide), if_pos rfl]
    rw [List.cons_append, hescape.read, ← List.cons_append]
    exact ⟨offset', by rw [← hskip]; rfl⟩

/-- A string is read back up to its closing quote. -/
theorem readFrom_escaped (s rest : List Char) (offset : Nat) :
    readFrom offset 0 (Json.escaped s ++ '\x22' :: rest) = .ok (s, rest) := by
  induction s generalizing offset with
  | nil => rfl
  | cons c s ih =>
    obtain ⟨offset', hfirst⟩ := readFrom_escapedChar c offset (Json.escaped s ++ '\x22' :: rest)
    rw [Json.escaped, List.flatMap_cons, List.append_assoc]
    rw [← Json.escaped, hfirst, ih]
    rfl

theorem value?_escaped (s : String) :
    value? ('\x22' :: (Json.escaped s.toList ++ ['\x22'])) = .ok s := by
  unfold value? read
  rw [List.tail_cons, readFrom_escaped]
  exact congrArg Except.ok String.ofList_toList

end StringLiteral

namespace Predicate.Token

theorem stringLength_plain {s : List Char} (h : ∀ c ∈ s, c ≠ '\x22' ∧ c ≠ '\\') (rest : List Char) :
    stringLength false (s ++ rest) = (stringLength false rest).map (· + s.length) := by
  induction s with
  | nil => exact Option.map_id'.symm
  | cons c s ih =>
    obtain ⟨⟨hquote, hslash⟩, hs⟩ := List.forall_mem_cons.mp h
    rw [List.cons_append, stringLength, if_neg (by simp [hslash]), if_neg (by simp [hquote]), ih hs,
      Option.map_map]
    rfl

theorem stringLength_escapedChar (c : Char) (rest : List Char) :
    stringLength false (Json.escapedChar c ++ rest) =
      (stringLength false rest).map (· + (Json.escapedChar c).length) := by
  rcases Json.escapedChar_cases c with ⟨h, hquote, hslash, -⟩ | ⟨x, more, h, hescape⟩
  · rw [h]
    exact stringLength_plain (List.forall_mem_singleton.mpr ⟨hquote, hslash⟩) rest
  · rw [h, List.cons_append, stringLength, if_pos (by decide)]
    rw [List.cons_append, stringLength, if_neg (by simp), if_neg (by simp)]
    rw [stringLength_plain hescape.plain, Option.map_map, Option.map_map]
    rfl

/-- The end of a string is found at its closing quote. -/
theorem stringLength_escaped (s rest : List Char) :
    stringLength false (Json.escaped s ++ '\x22' :: rest) = some ((Json.escaped s).length + 1) := by
  induction s with
  | nil => rfl
  | cons c s ih =>
    rw [Json.escaped, List.flatMap_cons, List.append_assoc]
    rw [stringLength_escapedChar, ← Json.escaped, ih, Option.map_some, List.length_append]
    congr 1
    omega

end Predicate.Token

end HttpResource
