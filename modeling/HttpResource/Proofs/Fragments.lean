/-
# Fragments of a template

A template is cut at each opening and at the next closing brace after it. Nothing is lost by this, and
where a fragment ends depends on the text up to its end only, so other text may stand after it.

Rewriting takes one fragment after another. A reference gives way to the look-up of an alias, whose index
is that of the secret among all that are found; as more are found at the end only, the index can be
read off the list of all of them as well. A malformed reference ends it, and no other can.

Key definitions: `Fragment.reference?`, `Fragment.resolved`, `SecretRef.Rewrites`.
Key theorems: `Fragment.split_induction`, `Fragment.flatMap_text_split`, `SecretRef.rewriteFragment_eq_ok`,
`SecretRef.rewrites_of_rewriteAll`, `SecretRef.rewriteAll_eq_error_iff`.
-/
import HttpResource.SecretRef
import HttpResource.Text.Search
import Mathlib.Data.List.Infix
import Mathlib.Data.List.Nodup

namespace HttpResource

namespace Fragment

/-! ### Splitting -/

theorem opening_prefix_iff {c : Char} {s : List Char} :
    opening <+: c :: s ↔ c = '$' ∧ s.head? = some '\x7b' := Text.pair_prefix_iff

theorem splitOpening_cons {c : Char} {rest : List Char} (h : ¬opening <+: c :: rest) :
    splitOpening (c :: rest) = (splitOpening rest).map fun (a, b) => (c :: a, b) := by
  rw [splitOpening]
  rintro tail rfl rfl
  exact h (List.prefix_append opening tail)

theorem splitOpening_eq_none_iff {s : List Char} : splitOpening s = none ↔ ¬opening <:+: s := by
  have hopening : opening ≠ [] := by decide
  induction s using Text.occurrence_induction hopening with
  | nil => exact iff_of_true rfl (by decide)
  | occurrence rest => exact iff_of_false nofun fun h => h (List.prefix_append opening rest).isInfix
  | cons c rest hfront ih =>
    rw [splitOpening_cons hfront, Option.map_eq_none_iff, List.infix_cons_iff, or_iff_right hfront]
    exact ih

/-- A text is split at its first opening, whatever comes after that. -/
theorem splitOpening_eq_some_iff {s before after : List Char} :
    splitOpening s = some (before, after) ↔
      s = before ++ opening ++ after ∧
        ∀ rest, splitOpening (before ++ opening ++ rest) = some (before, rest) := by
  constructor
  · intro h
    have hopening : opening ≠ [] := by decide
    induction s using Text.occurrence_induction hopening generalizing before with
    | nil => cases h
    | occurrence tail =>
      cases h
      exact ⟨rfl, fun _ => rfl⟩
    | cons c tail hfront ih =>
      rw [splitOpening_cons hfront] at h
      obtain ⟨⟨b, a⟩, htail, heq⟩ := Option.map_eq_some_iff.mp h
      cases heq
      obtain ⟨rfl, hrest⟩ := ih htail
      refine ⟨rfl, fun rest => ?_⟩
      have hhead : (b ++ opening ++ rest).head? = (b ++ opening ++ after).head? := by
        cases b <;> rfl
      have hfront' : ¬opening <+: c :: (b ++ opening ++ rest) := by
        rwa [opening_prefix_iff, hhead, ← opening_prefix_iff]
      show splitOpening (c :: (b ++ opening ++ rest)) = _
      rw [splitOpening_cons hfront', hrest]
      rfl
  · rintro ⟨rfl, h⟩
    exact h after

section

variable {s before after inner rest : List Char}

theorem length_lt_of_split (hopening : splitOpening s = some (before, after))
    (hclosing : Text.splitOnce '\x7d' after = some (inner, rest)) : rest.length < s.length := by
  have hs := (splitOpening_eq_some_iff.mp hopening).1
  have hafter := (Text.splitOnce_eq_some_iff.mp hclosing).1
  rw [hs, hafter]
  simp only [List.length_append, List.length_cons]
  omega

/-- As many steps as the text has characters are enough. -/
theorem splitFrom_congr {n m : Nat} (hn : s.length ≤ n) (hm : s.length ≤ m) :
    splitFrom n s = splitFrom m s := by
  induction n generalizing s m with
  | zero =>
    obtain rfl := List.length_eq_zero_iff.mp (Nat.le_zero.mp hn)
    cases m <;> rfl
  | succ n ih =>
    cases m with
    | zero =>
      obtain rfl := List.length_eq_zero_iff.mp (Nat.le_zero.mp hm)
      rfl
    | succ m =>
      rw [splitFrom, splitFrom]
      cases hopening : splitOpening s with
      | none => rfl
      | some parts =>
        obtain ⟨before, after⟩ := parts
        cases hclosing : Text.splitOnce '\x7d' after with
        | none => simp only [hclosing]
        | some parts =>
          obtain ⟨inner, rest⟩ := parts
          have hlt := length_lt_of_split hopening hclosing
          have hrest : rest.length ≤ m := by omega
          simp only [hclosing]
          rw [ih (by omega) hrest]

theorem split_plain (h : splitOpening s = none) : split s = [.plain s] := by
  unfold split
  cases s with
  | nil => rfl
  | cons c s => rw [List.length_cons, splitFrom, h]

theorem split_unclosed (hopening : splitOpening s = some (before, after)) (h : '\x7d' ∉ after) :
    split s = [.unclosed before after] := by
  unfold split
  cases s with
  | nil => cases hopening
  | cons c s =>
    rw [List.length_cons, splitFrom, hopening]
    simp only [Text.splitOnce_eq_none_iff.mpr h]

theorem split_expression (hopening : splitOpening s = some (before, inner ++ '\x7d' :: rest))
    (h : '\x7d' ∉ inner) : split s = .expression before inner :: split rest := by
  have hclosing := Text.splitOnce_append h rest
  have hlt := length_lt_of_split hopening hclosing
  unfold split
  cases s with
  | nil => cases hopening
  | cons c s =>
    rw [List.length_cons, splitFrom, hopening]
    simp only [hclosing]
    rw [splitFrom_congr (Nat.le_of_lt_succ hlt) (Nat.le_refl _)]

/-- A text is plain, or has an expression that is not closed, or one that is closed and more text. -/
theorem split_induction {P : List Char → Prop}
    (plain : ∀ s, splitOpening s = none → P s)
    (unclosed : ∀ s before after, splitOpening s = some (before, after) → '\x7d' ∉ after → P s)
    (expression : ∀ s before inner rest, splitOpening s = some (before, inner ++ '\x7d' :: rest) →
      '\x7d' ∉ inner → P rest → P s)
    (s : List Char) : P s := by
  cases hopening : splitOpening s with
  | none => exact plain s hopening
  | some parts =>
    obtain ⟨before, after⟩ := parts
    cases hclosing : Text.splitOnce '\x7d' after with
    | none => exact unclosed s before after hopening (Text.splitOnce_eq_none_iff.mp hclosing)
    | some parts =>
      obtain ⟨inner, rest⟩ := parts
      obtain ⟨rfl, hinner⟩ := Text.splitOnce_eq_some_iff.mp hclosing
      have hlt := length_lt_of_split hopening hclosing
      have hrest := split_induction plain unclosed expression rest
      exact expression s before inner rest hopening hinner hrest
termination_by s.length

/-- Splitting loses nothing. -/
theorem flatMap_text_split (s : List Char) : (split s).flatMap text = s := by
  induction s using split_induction with
  | plain s hopening =>
    rw [split_plain hopening, List.flatMap_singleton]
    rfl
  | unclosed s before after hopening hclosing =>
    rw [split_unclosed hopening hclosing, List.flatMap_singleton]
    exact (splitOpening_eq_some_iff.mp hopening).1.symm
  | expression s before inner rest hopening hinner ih =>
    rw [split_expression hopening hinner, List.flatMap_cons, ih]
    rw [(splitOpening_eq_some_iff.mp hopening).1, text]
    simp

end

/-! ### What a fragment refers to -/

/-- A dollar sign before a brace escapes nothing after it. -/
theorem isEscaped_past_brace (inside before : List Char) :
    SecretRef.isEscaped (inside ++ '\x7d' :: before) = SecretRef.isEscaped before := by
  unfold SecretRef.isEscaped
  rw [List.getLast?_append, List.getLast?_cons]
  cases before.getLast? <;> rfl

/-- The token and the filters of an expression that is a reference. -/
def reference? : Fragment → Option (List Char × List Char)
  | expression before inner => if SecretRef.isEscaped before then none else SecretRef.tokenOf? inner
  | _ => none

/-- The secret that a fragment refers to. -/
def secret? (f : Fragment) : Option SecretRef :=
  f.reference?.bind fun (token, _) => SecretRef.parse? token

/-- The token of a malformed reference. -/
def malformed? (f : Fragment) : Option (List Char) :=
  f.reference?.bind fun (token, _) => if (SecretRef.parse? token).isNone then some token else none

/-- An expression with something else between its delimiters. -/
def withInner (inner : List Char) : Fragment → Fragment
  | expression before _ => expression before inner
  | f => f

/-- The fragment with its reference replaced by the look-up of an alias. -/
def resolved (refs : List SecretRef) (f : Fragment) : Fragment :=
  match f.reference?, f.secret? with
  | some (_, filters), some r => f.withInner (SecretRef.lookupText (refs.idxOf r) filters)
  | _, _ => f

section

variable {f : Fragment} {token filters : List Char}

theorem secret?_of_none (h : f.reference? = none) : f.secret? = none := by
  rw [secret?, h]
  rfl

theorem secret?_of_some (h : f.reference? = some (token, filters)) :
    f.secret? = SecretRef.parse? token := by
  rw [secret?, h]
  rfl

theorem malformed?_of_none (h : f.reference? = none) : f.malformed? = none := by
  rw [malformed?, h]
  rfl

theorem malformed?_of_some (h : f.reference? = some (token, filters)) :
    f.malformed? = if (SecretRef.parse? token).isNone then some token else none := by
  rw [malformed?, h]
  rfl

theorem resolved_of_none (h : f.secret? = none) (refs : List SecretRef) : f.resolved refs = f := by
  rw [resolved, h]
  cases f.reference? <;> rfl

theorem resolved_of_some {r : SecretRef} (h : f.reference? = some (token, filters))
    (hparse : SecretRef.parse? token = some r) (refs : List SecretRef) :
    f.resolved refs = f.withInner (SecretRef.lookupText (refs.idxOf r) filters) := by
  rw [resolved, secret?_of_some h, h, hparse]

/-- A reference stands in an expression that is not escaped. -/
theorem exists_of_reference? (h : f.reference? = some (token, filters)) :
    ∃ before inner, f = .expression before inner ∧ SecretRef.isEscaped before = false ∧
      SecretRef.tokenOf? inner = some (token, filters) := by
  cases f with
  | unclosed before inner => cases h
  | plain s => cases h
  | expression before inner =>
    rw [reference?] at h
    split at h
    · cases h
    · rename_i hescaped
      exact ⟨before, inner, rfl, eq_false_of_ne_true hescaped, h⟩

end

end Fragment

namespace SecretRef

open Fragment

/-! ### Indices -/

/-- The index is that of the reference among those found, which are as before but for a new one at the
end. -/
theorem indexIn_eq (refs : List SecretRef) (r : SecretRef) :
    ∃ found, indexIn refs r = (found.idxOf r, found) ∧ refs <+: found ∧ (refs.Nodup → found.Nodup) ∧
      ∀ q, q ∈ found ↔ q ∈ refs ∨ q = r := by
  unfold indexIn
  cases hindex : refs.idxOf? r with
  | some i =>
    have hr : r ∈ refs := List.isSome_idxOf?.mp (by rw [hindex]; rfl)
    refine ⟨refs, ?_, List.prefix_rfl, id, fun q => ⟨.inl, fun hq => hq.elim id fun hq => hq ▸ hr⟩⟩
    rw [List.idxOf_eq_getD_idxOf?, hindex]
    rfl
  | none =>
    have hr : r ∉ refs := List.idxOf?_eq_none_iff.mp hindex
    refine ⟨refs ++ [r], ?_, List.prefix_append refs [r], fun hrefs => ?_, fun q => ?_⟩
    · rw [List.idxOf_append_of_notMem hr, List.idxOf_cons_self]
      rfl
    · have hdisjoint : refs.Disjoint [r] := List.disjoint_singleton.mpr hr
      exact hrefs.append (List.nodup_singleton r) hdisjoint
    · rw [List.mem_append, List.mem_singleton]

theorem idxOf_of_prefix {refs more : List SecretRef} (h : refs <+: more) {r : SecretRef} (hr : r ∈ refs) :
    more.idxOf r = refs.idxOf r := by
  obtain ⟨new, rfl⟩ := h
  exact List.idxOf_append_of_mem hr

/-! ### One fragment -/

section

variable {refs found : List SecretRef} {f : Fragment} {s token filters : List Char}

/-- What is no reference stays as it is. -/
theorem rewriteFragment_of_none (h : f.reference? = none) :
    rewriteFragment refs f = .ok (f.text, refs) := by
  cases f with
  | unclosed before inner => rfl
  | plain s => rfl
  | expression before inner =>
    simp only [rewriteFragment]
    by_cases hescaped : isEscaped before = true
    · rw [if_pos hescaped]
    · rw [reference?, if_neg hescaped] at h
      rw [if_neg hescaped, h]

/-- A reference gives way to the look-up of its alias, unless it is malformed. -/
theorem rewriteFragment_of_some (h : f.reference? = some (token, filters)) :
    rewriteFragment refs f =
      match parse? token with
      | none => .error (invalidText token)
      | some r =>
        .ok ((f.withInner (lookupText (indexIn refs r).1 filters)).text, (indexIn refs r).2) := by
  obtain ⟨before, inner, rfl, hescaped, htoken⟩ := exists_of_reference? h
  simp only [rewriteFragment]
  rw [if_neg (by rw [hescaped]; decide), htoken]
  cases hparse : parse? token <;> simp only [hparse, withInner, text]

/-- What the rewriting of a fragment does. Its text is the same however many references are found after
it. -/
theorem rewriteFragment_eq_ok (h : rewriteFragment refs f = .ok (s, found)) :
    refs <+: found ∧ (refs.Nodup → found.Nodup) ∧ (∀ r, r ∈ found ↔ r ∈ refs ∨ f.secret? = some r) ∧
      f.malformed? = none ∧ ∀ more, found <+: more → s = (f.resolved more).text := by
  cases hread : f.reference? with
  | none =>
    rw [rewriteFragment_of_none hread] at h
    cases h
    have hsecret := secret?_of_none hread
    refine ⟨List.prefix_rfl, id, fun r => ?_, malformed?_of_none hread, fun more _ => ?_⟩
    · simp [hsecret]
    · rw [resolved_of_none hsecret]
  | some parts =>
    obtain ⟨token, filters⟩ := parts
    rw [rewriteFragment_of_some hread] at h
    cases hparse : parse? token with
    | none =>
      rw [hparse] at h
      cases h
    | some r =>
      obtain ⟨found', hindex, hkeeps, hdistinct, hmem⟩ := indexIn_eq refs r
      simp only [hparse, hindex] at h
      cases h
      refine ⟨hkeeps, hdistinct, fun q => ?_, ?_, fun more hmore => ?_⟩
      · rw [hmem, secret?_of_some hread, hparse, Option.some_inj, eq_comm (a := q)]
      · rw [malformed?_of_some hread, hparse]
        rfl
      · have hr : r ∈ found := (hmem r).mpr (.inr rfl)
        rw [resolved_of_some hread hparse, idxOf_of_prefix hmore hr]

end

/-! ### All fragments -/

section

variable {refs found : List SecretRef} {f : Fragment} {fs : List Fragment} {t : List Char}

theorem rewriteAll_cons_eq_ok_iff :
    rewriteAll refs (f :: fs) = .ok (t, found) ↔
      ∃ s next rest, rewriteFragment refs f = .ok (s, next) ∧ rewriteAll next fs = .ok (rest, found) ∧
        s ++ rest = t := by
  rw [rewriteAll]
  cases rewriteFragment refs f with
  | error e => simp
  | ok result =>
    obtain ⟨s, next⟩ := result
    cases hrest : rewriteAll next fs with
    | error e => simp [hrest, Except.map]
    | ok result =>
      obtain ⟨rest, found'⟩ := result
      simp [hrest, Except.map, and_comm]

/-- What the rewriting of fragments comes to if some references have been found before. -/
structure Rewrites (refs : List SecretRef) (fs : List Fragment) (t : List Char) (found : List SecretRef) :
    Prop where
  keeps : refs <+: found
  distinct : refs.Nodup → found.Nodup
  named : ∀ r, r ∈ found ↔ r ∈ refs ∨ ∃ f ∈ fs, f.secret? = some r
  wellFormed : ∀ f ∈ fs, f.malformed? = none
  text_eq : t = (fs.map (resolved found)).flatMap text

theorem rewrites_of_rewriteAll (h : rewriteAll refs fs = .ok (t, found)) : Rewrites refs fs t found := by
  induction fs generalizing refs t with
  | nil =>
    cases h
    exact ⟨List.prefix_rfl, id, by simp, by simp, rfl⟩
  | cons f fs ih =>
    obtain ⟨s, next, rest, hfirst, hrest, rfl⟩ := rewriteAll_cons_eq_ok_iff.mp h
    obtain ⟨hkeeps, hdistinct, hnamed, hformed, htext⟩ := rewriteFragment_eq_ok hfirst
    have hfs := ih hrest
    refine ⟨hkeeps.trans hfs.keeps, fun hrefs => hfs.distinct (hdistinct hrefs), fun r => ?_, ?_, ?_⟩
    · simp only [hfs.named, hnamed, List.exists_mem_cons_iff, or_assoc]
    · exact List.forall_mem_cons.mpr ⟨hformed, hfs.wellFormed⟩
    · rw [htext found hfs.keeps, hfs.text_eq, List.map_cons, List.flatMap_cons]

/-- The first malformed reference is named, whatever has been found before. -/
theorem rewriteAll_eq_error_iff {e : String} :
    rewriteAll refs fs = .error e ↔ (fs.findSome? malformed?).map invalidText = some e := by
  induction fs generalizing refs with
  | nil => simp [rewriteAll]
  | cons f fs ih =>
    have hrest : ∀ found : List SecretRef, ∀ g : List Char × List SecretRef → List Char × List SecretRef,
        (rewriteAll found fs).map g = .error e ↔ (fs.findSome? malformed?).map invalidText = some e := by
      intro found g
      rw [← ih]
      cases rewriteAll found fs <;> simp [Except.map]
    rw [rewriteAll, List.findSome?_cons]
    cases hread : f.reference? with
    | none =>
      rw [rewriteFragment_of_none hread, malformed?_of_none hread]
      exact hrest refs _
    | some parts =>
      obtain ⟨token, filters⟩ := parts
      rw [rewriteFragment_of_some hread, malformed?_of_some hread]
      cases hparse : parse? token with
      | none => simp
      | some r => exact hrest (indexIn refs r).2 _

/-- Fragments without references stay as they are. -/
theorem rewriteAll_of_none (h : ∀ f ∈ fs, f.reference? = none) :
    rewriteAll refs fs = .ok (fs.flatMap text, refs) := by
  induction fs with
  | nil => rfl
  | cons f fs ih =>
    obtain ⟨hf, hfs⟩ := List.forall_mem_cons.mp h
    refine rewriteAll_cons_eq_ok_iff.mpr ⟨f.text, refs, fs.flatMap text, ?_, ih hfs, ?_⟩
    · exact rewriteFragment_of_none hf
    · exact List.flatMap_cons.symm

end

/-! ### Templates -/

theorem extract_eq_ok_iff {template t : String} {refs : List SecretRef} :
    extract template = .ok (t, refs) ↔
      rewriteAll [] (Fragment.split template.toList) = .ok (t.toList, refs) := by
  unfold extract
  cases rewriteAll [] (Fragment.split template.toList) with
  | error e => simp [Except.map]
  | ok result =>
    obtain ⟨s, found⟩ := result
    simp [Except.map, ← String.toList_inj]

theorem extract_eq_error_iff {template e : String} :
    extract template = .error e ↔ rewriteAll [] (Fragment.split template.toList) = .error e := by
  unfold extract
  cases rewriteAll [] (Fragment.split template.toList) <;> simp [Except.map]

/-- A template without references is its own rewriting. -/
theorem extract_of_none {template : String}
    (h : ∀ f ∈ Fragment.split template.toList, f.reference? = none) :
    extract template = .ok (template, []) := by
  rw [extract_eq_ok_iff, rewriteAll_of_none h, flatMap_text_split]

end SecretRef

end HttpResource
