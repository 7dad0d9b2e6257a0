/-
# Splitting

* `splitOnce`: the text around the first occurrence of a character.
* `splitAll`: the parts between all occurrences.
-/
namespace HttpResource

namespace Text

/-- The text before the first occurrence of a character and the text after it. -/
def splitOnce (c : Char) : List Char → Option (List Char × List Char)
  | [] => none
  | x :: rest =>
    if x = c then some ([], rest) else (splitOnce c rest).map fun (a, b) => (x :: a, b)

theorem splitOnce_append {c : Char} {a : List Char} (h : c ∉ a) (b : List Char) :
    splitOnce c (a ++ c :: b) = some (a, b) := by
  induction a with
  | nil => exact if_pos rfl
  | cons x a ih =>
    have hx : x ≠ c := fun hx => h (hx ▸ List.mem_cons_self)
    have ha : c ∉ a := fun ha => h (List.mem_cons_of_mem x ha)
    rw [List.cons_append, splitOnce, if_neg hx, ih ha]
    rfl

/-- A text is split at the first occurrence. -/
theorem splitOnce_eq_some_iff {c : Char} {s a b : List Char} :
    splitOnce c s = some (a, b) ↔ s = a ++ c :: b ∧ c ∉ a := by
  constructor
  · intro h
    induction s generalizing a with
    | nil => cases h
    | cons x rest ih =>
      rw [splitOnce] at h
      split at h
      · rename_i hx
        cases h
        exact ⟨by rw [hx]; rfl, List.not_mem_nil⟩
      · rename_i hx
        obtain ⟨⟨a', b'⟩, hrest, heq⟩ := Option.map_eq_some_iff.mp h
        cases heq
        obtain ⟨rfl, ha'⟩ := ih hrest
        exact ⟨rfl, fun h => (List.mem_cons.mp h).elim (fun he => hx he.symm) ha'⟩
  · rintro ⟨rfl, h⟩
    exact splitOnce_append h b

theorem splitOnce_eq_none_iff {c : Char} {s : List Char} : splitOnce c s = none ↔ c ∉ s := by
  induction s with
  | nil => simp [splitOnce]
  | cons x rest ih =>
    by_cases hx : x = c
    · simp [splitOnce, hx]
    · simp [splitOnce, hx, Ne.symm hx, ih]

/-- The parts of a text between occurrences of a character. -/
def splitAll (c : Char) : List Char → List (List Char)
  | [] => [[]]
  | x :: rest =>
    if x = c then [] :: splitAll c rest
    else
      match splitAll c rest with
      | part :: parts => (x :: part) :: parts
      | [] => [[x]]

end Text

end HttpResource
