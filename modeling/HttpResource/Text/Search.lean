/-
# Finding and replacing text

* `holds`: whether a text has another one in it.
* `replace`: every occurrence of a pattern, from left to right and not overlapping, replaced.
* `occurrence_induction`: a text, from one occurrence to the next.
-/
namespace HttpResource

namespace Text

/-- Whether the pattern occurs in the text. -/
def holds (pattern : List Char) : List Char → Bool
  | [] => pattern.isEmpty
  | c :: rest => pattern.isPrefixOf (c :: rest) || holds pattern rest

/-- Replaces a nonempty pattern; `skip` characters belong to an occurrence that has been replaced. -/
def replaceFrom (pattern replacement : List Char) : Nat → List Char → List Char
  | _, [] => []
  | skip + 1, _ :: rest => replaceFrom pattern replacement skip rest
  | 0, c :: rest =>
    if pattern.isPrefixOf (c :: rest) then
      replacement ++ replaceFrom pattern replacement (pattern.length - 1) rest
    else c :: replaceFrom pattern replacement 0 rest

/-- Replaces every occurrence. The empty pattern occurs at both ends and between all characters. -/
def replace (pattern replacement s : List Char) : List Char :=
  if pattern.isEmpty then replacement ++ s.flatMap (· :: replacement)
  else replaceFrom pattern replacement 0 s

/-! ### Occurrences -/

theorem pair_prefix_iff {a b c : Char} {s : List Char} : [a, b] <+: c :: s ↔ c = a ∧ s.head? = some b := by
  cases s with
  | nil => simp
  | cons d s => simp [List.cons_prefix_cons, eq_comm]

theorem holds_iff {pattern s : List Char} : holds pattern s = true ↔ pattern <:+: s := by
  induction s with
  | nil => rw [holds, List.isEmpty_iff, List.infix_nil]
  | cons c rest ih =>
    rw [holds, Bool.or_eq_true, List.isPrefixOf_iff_prefix, ih, List.infix_cons_iff]

section

variable {pattern replacement : List Char}

theorem replaceFrom_skip (skipped rest : List Char) :
    replaceFrom pattern replacement skipped.length (skipped ++ rest) =
      replaceFrom pattern replacement 0 rest := by
  induction skipped with
  | nil => rfl
  | cons c skipped ih => exact ih

theorem replace_eq_replaceFrom (hpattern : pattern ≠ []) (s : List Char) :
    replace pattern replacement s = replaceFrom pattern replacement 0 s := by
  unfold replace
  rw [if_neg (by simpa using hpattern)]

theorem replace_nil (hpattern : pattern ≠ []) : replace pattern replacement [] = [] := by
  rw [replace_eq_replaceFrom hpattern, replaceFrom]

/-- An occurrence at the front is replaced. -/
theorem replace_append (hpattern : pattern ≠ []) (rest : List Char) :
    replace pattern replacement (pattern ++ rest) =
      replacement ++ replace pattern replacement rest := by
  obtain ⟨c, more, rfl⟩ := List.exists_cons_of_ne_nil hpattern
  have hfront : (c :: more).isPrefixOf (c :: (more ++ rest)) = true :=
    List.isPrefixOf_iff_prefix.mpr (List.prefix_append (c :: more) rest)
  rw [replace_eq_replaceFrom hpattern, replace_eq_replaceFrom hpattern, List.cons_append, replaceFrom,
    if_pos hfront]
  exact congrArg (replacement ++ ·) (replaceFrom_skip more rest)

/-- A character stays where no occurrence starts. -/
theorem replace_cons {c : Char} {rest : List Char} (h : ¬pattern <+: c :: rest) :
    replace pattern replacement (c :: rest) = c :: replace pattern replacement rest := by
  have hpattern : pattern ≠ [] := fun he => h (he ▸ List.nil_prefix)
  have hfront : ¬pattern.isPrefixOf (c :: rest) = true := fun hp => h (List.isPrefixOf_iff_prefix.mp hp)
  rw [replace_eq_replaceFrom hpattern, replace_eq_replaceFrom hpattern, replaceFrom, if_neg hfront]

/-- A text is empty, or starts with an occurrence, or with a character where none starts. -/
theorem occurrence_induction {P : List Char → Prop} (hpattern : pattern ≠ []) (nil : P [])
    (occurrence : ∀ rest, P rest → P (pattern ++ rest))
    (cons : ∀ c rest, ¬pattern <+: c :: rest → P rest → P (c :: rest)) (s : List Char) : P s := by
  by_cases hfront : pattern <+: s
  · obtain ⟨rest, hrest⟩ := hfront
    have hlength : rest.length < s.length := by
      have hpositive : 0 < pattern.length := List.length_pos_iff.mpr hpattern
      rw [← hrest, List.length_append]
      omega
    exact hrest ▸ occurrence rest (occurrence_induction hpattern nil occurrence cons rest)
  · match s with
    | [] => exact nil
    | c :: rest => exact cons c rest hfront (occurrence_induction hpattern nil occurrence cons rest)
termination_by s.length

/-- A text without the pattern stays as it is. -/
theorem replace_eq_self {s : List Char} (h : ¬pattern <:+: s) : replace pattern replacement s = s := by
  have hpattern : pattern ≠ [] := fun he => h (he ▸ List.nil_infix)
  induction s with
  | nil => exact replace_nil hpattern
  | cons c rest ih =>
    have hfront : ¬pattern <+: c :: rest := fun hp => h hp.isInfix
    have hrest : ¬pattern <:+: rest := fun hi => h (List.infix_cons hi)
    rw [replace_cons hfront, ih hrest]

/-- The replacement occurs where the pattern does. -/
theorem infix_replace (hpattern : pattern ≠ []) {s : List Char} (h : pattern <:+: s) :
    replacement <:+: replace pattern replacement s := by
  induction s using occurrence_induction hpattern with
  | nil => exact absurd (List.infix_nil.mp h) hpattern
  | occurrence rest ih =>
    rw [replace_append hpattern]
    exact (List.prefix_append _ _).isInfix
  | cons c rest hfront ih =>
    rw [replace_cons hfront]
    exact List.infix_cons (ih ((List.infix_cons_iff.mp h).resolve_left hfront))

/-- The text that starts with no occurrence keeps its first character. -/
theorem head?_replace {s : List Char} (h : ¬pattern <+: s) :
    (replace pattern replacement s).head? = s.head? := by
  have hpattern : pattern ≠ [] := fun he => h (he ▸ List.nil_prefix)
  match s with
  | [] => rw [replace_nil hpattern]
  | c :: rest =>
    rw [replace_cons h]
    rfl

theorem replace_ne_nil (hpattern : pattern ≠ []) (hreplacement : replacement ≠ []) {s : List Char}
    (hs : s ≠ []) : replace pattern replacement s ≠ [] := by
  by_cases hfront : pattern <+: s
  · obtain ⟨rest, rfl⟩ := hfront
    rw [replace_append hpattern]
    exact List.append_ne_nil_of_left_ne_nil hreplacement _
  · obtain ⟨c, rest, rfl⟩ := List.exists_cons_of_ne_nil hs
    rw [replace_cons hfront]
    exact List.cons_ne_nil _ _

/-- The last character is that of the text or that of the replacement. -/
theorem getLast?_replace (hpattern : pattern ≠ []) (hreplacement : replacement ≠ []) {c : Char}
    {s : List Char} (h : (replace pattern replacement s).getLast? = some c) :
    s.getLast? = some c ∨ replacement.getLast? = some c := by
  induction s using occurrence_induction hpattern with
  | nil =>
    rw [replace_nil hpattern] at h
    exact .inl h
  | occurrence rest ih =>
    rw [replace_append hpattern, List.getLast?_append] at h
    rcases Option.or_eq_some_iff.mp h with h | ⟨-, h⟩
    · rw [List.getLast?_append]
      exact (ih h).imp_left fun hlast => by rw [hlast]; rfl
    · exact .inr h
  | cons x rest hfront ih =>
    rw [replace_cons hfront] at h
    by_cases hrest : rest = []
    · rw [hrest, replace_nil hpattern] at h
      exact .inl (hrest ▸ h)
    · have hreplaced : replace pattern replacement rest ≠ [] := replace_ne_nil hpattern hreplacement hrest
      rw [List.getLast?_cons_of_ne_nil hreplaced] at h
      rw [List.getLast?_cons_of_ne_nil hrest]
      exact ih h

theorem length_replace_le (h : replacement.length ≤ pattern.length) (hpattern : pattern ≠ [])
    (s : List Char) : (replace pattern replacement s).length ≤ s.length := by
  induction s using occurrence_induction hpattern with
  | nil => exact Nat.le_of_eq (congrArg List.length (replace_nil hpattern))
  | occurrence rest ih =>
    rw [replace_append hpattern, List.length_append, List.length_append]
    omega
  | cons c rest hfront ih =>
    rw [replace_cons hfront]
    exact Nat.succ_le_succ ih

/-- A shorter replacement makes a text with the pattern shorter. -/
theorem length_replace_lt (h : replacement.length < pattern.length) {s : List Char}
    (hs : pattern <:+: s) : (replace pattern replacement s).length < s.length := by
  have hpattern : pattern ≠ [] := by
    rintro rfl
    exact Nat.not_lt_zero _ h
  induction s using occurrence_induction hpattern with
  | nil => exact absurd (List.infix_nil.mp hs) hpattern
  | occurrence rest ih =>
    have hrest := length_replace_le (Nat.le_of_lt h) hpattern rest
    rw [replace_append hpattern, List.length_append, List.length_append]
    omega
  | cons c rest hfront ih =>
    rw [replace_cons hfront]
    exact Nat.succ_lt_succ (ih ((List.infix_cons_iff.mp hs).resolve_left hfront))

/-- With a shorter replacement just the texts without the pattern stay as they are. -/
theorem replace_eq_self_iff (h : replacement.length < pattern.length) {s : List Char} :
    replace pattern replacement s = s ↔ ¬pattern <:+: s := by
  refine ⟨fun heq hs => ?_, replace_eq_self⟩
  have hlt := length_replace_lt h hs
  rw [heq] at hlt
  exact Nat.lt_irrefl _ hlt

end

end Text

end HttpResource
