/-
# White space

The characters with the Unicode property White_Space, and what it means to trim a text.

* `isBlank`: the property.
* `trimStart`, `trimEnd`, `trim`: the text without the blanks at its ends.
* `dropLineBreak`: the text without the line break at its end.
-/
import HttpResource.Text.Ranges

namespace HttpResource

namespace Text

/-- The ranges of the property White_Space. -/
def blankRanges : Ranges := [
  (0x9, 0xd), (0x20, 0x20), (0x85, 0x85), (0xa0, 0xa0), (0x1680, 0x1680), (0x2000, 0x200a),
  (0x2028, 0x2029), (0x202f, 0x202f), (0x205f, 0x205f), (0x3000, 0x3000)]

def isBlank (c : Char) : Bool := blankRanges.holds c

def trimStart (s : List Char) : List Char := s.dropWhile isBlank

def trimEnd (s : List Char) : List Char := (s.reverse.dropWhile isBlank).reverse

def trim (s : List Char) : List Char := trimEnd (trimStart s)

theorem trimStart_eq_self {s : List Char} (h : ∀ c ∈ s, isBlank c = false) : trimStart s = s := by
  cases s with
  | nil => rfl
  | cons c rest => exact List.dropWhile_cons_of_neg (Bool.eq_false_iff.mp (h c List.mem_cons_self))

theorem trim_eq_self {s : List Char} (h : ∀ c ∈ s, isBlank c = false) : trim s = s := by
  have hreverse : trimStart s.reverse = s.reverse :=
    trimStart_eq_self fun c hc => h c (List.mem_reverse.mp hc)
  rw [trim, trimStart_eq_self h]
  exact (congrArg List.reverse hreverse).trans s.reverse_reverse

/-- A string without the blanks at its ends. -/
def trimmed (s : String) : String := String.ofList (trim s.toList)

/-! ### Line breaks -/

/-- The text without a character at its end, if it is there. -/
def dropAtEnd (c : Char) (s : List Char) : List Char :=
  if s.getLast? = some c then s.dropLast else s

theorem dropAtEnd_prefix_self (c : Char) (s : List Char) : dropAtEnd c s <+: s := by
  unfold dropAtEnd
  split
  · exact List.dropLast_prefix s
  · exact List.prefix_rfl

theorem dropAtEnd_eq_self_iff {c : Char} {s : List Char} :
    dropAtEnd c s = s ↔ s.getLast? ≠ some c := by
  unfold dropAtEnd
  by_cases hlast : s.getLast? = some c
  · rw [if_pos hlast]
    refine iff_of_false (fun hdrop => ?_) fun h => h hlast
    have hempty : s ≠ [] := by
      rintro rfl
      cases hlast
    have hpositive := List.length_pos_iff.mpr hempty
    have hlength := congrArg List.length hdrop
    rw [List.length_dropLast] at hlength
    omega
  · rw [if_neg hlast]
    exact iff_of_true rfl hlast

/-- The text without one line break at its end. -/
def dropLineBreak (s : List Char) : List Char := dropAtEnd '\r' (dropAtEnd '\n' s)

theorem dropLineBreak_prefix_self (s : List Char) : dropLineBreak s <+: s :=
  (dropAtEnd_prefix_self '\r' _).trans (dropAtEnd_prefix_self '\n' s)

theorem dropLineBreak_eq_self_iff {s : List Char} :
    dropLineBreak s = s ↔ s.getLast? ≠ some '\n' ∧ s.getLast? ≠ some '\r' := by
  unfold dropLineBreak
  constructor
  · intro h
    have hprefix : s <+: dropAtEnd '\n' s := by
      have hdrop := dropAtEnd_prefix_self '\r' (dropAtEnd '\n' s)
      rwa [h] at hdrop
    have hnewline : dropAtEnd '\n' s = s :=
      (dropAtEnd_prefix_self '\n' s).eq_of_length_le hprefix.length_le
    rw [hnewline] at h
    exact ⟨dropAtEnd_eq_self_iff.mp hnewline, dropAtEnd_eq_self_iff.mp h⟩
  · rintro ⟨hnewline, hreturn⟩
    rw [dropAtEnd_eq_self_iff.mpr hnewline, dropAtEnd_eq_self_iff.mpr hreturn]

end Text

end HttpResource
