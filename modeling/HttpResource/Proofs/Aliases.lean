/-
# References looked up by alias

Extracting the references of a template leaves all its text as it is but for the references themselves.
Each gives way to the look-up of an alias that is numbered by its place among the references, where
every secret key has one place only. The look-ups are no references, and a rewritten expression ends at
the same brace as before, so the result is cut as the template was and there is nothing left to extract
(`SecretRef.extract_rewritten`).

Key definitions: `Fragment.LooksUp`, `SecretRef.Rewritten`.
Key theorems: `Fragment.split_flatMap_resolved`, `Fragment.reference?_resolved`,
`SecretRef.extract_rewritten`.
-/
import HttpResource.Proofs.Fragments
import HttpResource.Proofs.Trace

namespace HttpResource

namespace SecretRef

/-! ### Look-ups -/

/-- The filters are the end of the expression, and a blank or a bar starts them. -/
theorem filters_of_tokenOf? {inner token filters : List Char}
    (h : tokenOf? inner = some (token, filters)) :
    filters <:+ inner ∧ ∀ c ∈ filters.head?, Text.isBlank c = true ∨ c = '|' := by
  unfold tokenOf? at h
  simp only at h
  split at h
  · rw [List.span_eq_takeWhile_dropWhile] at h
    cases h
    constructor
    · have htrimmed : Text.trimStart inner <:+ inner := List.dropWhile_suffix _
      exact (List.dropWhile_suffix _).trans ((List.drop_suffix _ _).trans htrimmed)
    · intro c hc
      have hstops := List.head?_dropWhile_not (fun c => !(Text.isBlank c || c = '|'))
        ((Text.trimStart inner).drop marker.length)
      rw [hc] at hstops
      cases hblank : Text.isBlank c with
      | true => exact .inl rfl
      | false => exact .inr (by simpa [hblank] using hstops)
  · cases h

/-- The look-up of an alias is no reference: its word has one more letter. -/
theorem tokenOf?_lookupText (i : Nat) (filters : List Char) : tokenOf? (lookupText i filters) = none := rfl

/-- A look-up is closed by the brace after it. -/
theorem not_mem_lookupText {filters : List Char} (h : '\x7d' ∉ filters) (i : Nat) :
    '\x7d' ∉ lookupText i filters := by
  have halias : '\x7d' ∉ (aliasOf i).toList := by
    have hdigits : (toString i).toList = Nat.toDigits 10 i := Nat.toList_repr
    unfold aliasOf
    rw [String.toList_append, List.mem_append, hdigits]
    rintro (hword | hdigit)
    · exact absurd hword (by decide)
    · exact absurd (Nat.isDigit_of_mem_toDigits (by decide) (by decide) hdigit) (by decide)
  unfold lookupText
  simp only [List.mem_append, not_or]
  refine ⟨⟨⟨by decide, halias⟩, h⟩, ?_⟩
  split
  · split
    · exact List.not_mem_nil
    · decide
  · decide

/-- After the alias comes a blank, or the bar of a filter. -/
theorem exists_lookupText {filters : List Char}
    (h : ∀ c ∈ filters.head?, Text.isBlank c = true ∨ c = '|') (i : Nat) :
    ∃ c rest, lookupText i filters = " secrets.".toList ++ (aliasOf i).toList ++ c :: rest ∧
      (Text.isBlank c = true ∨ c = '|') := by
  unfold lookupText
  cases filters with
  | nil => exact ⟨' ', [], by rw [List.append_nil]; rfl, .inl rfl⟩
  | cons c more => exact ⟨c, _, by rw [List.append_assoc, List.cons_append], h c rfl⟩

end SecretRef

namespace Fragment

/-- The expression looks up an alias and nothing longer: a blank comes next, or the bar of a filter. -/
def LooksUp (name : String) (f : Fragment) : Prop :=
  ∃ before c rest, SecretRef.isEscaped before = false ∧ (Text.isBlank c = true ∨ c = '|') ∧
    f = .expression before (" secrets.".toList ++ name.toList ++ c :: rest)

/-- A reference is resolved by looking up the alias of its index. -/
theorem looksUp_resolved {f : Fragment} {r : SecretRef} (h : f.secret? = some r) (refs : List SecretRef) :
    (f.resolved refs).LooksUp (SecretRef.aliasOf (refs.idxOf r)) := by
  cases hread : f.reference? with
  | none =>
    rw [secret?_of_none hread] at h
    cases h
  | some parts =>
    obtain ⟨token, filters⟩ := parts
    rw [secret?_of_some hread] at h
    rw [resolved_of_some hread h]
    obtain ⟨before, inner, rfl, hescaped, htoken⟩ := exists_of_reference? hread
    obtain ⟨c, rest, hlookup, hc⟩ :=
      SecretRef.exists_lookupText (SecretRef.filters_of_tokenOf? htoken).2 (refs.idxOf r)
    exact ⟨before, c, rest, hescaped, hc, by rw [withInner, hlookup]⟩

section

variable (refs : List SecretRef)

/-- What stands before an expression is kept, and the brace after it is still the first one. -/
theorem resolved_expression {inner : List Char} (h : '\x7d' ∉ inner) (before : List Char) :
    ∃ inner', resolved refs (.expression before inner) = .expression before inner' ∧ '\x7d' ∉ inner' := by
  cases hsecret : (expression before inner).secret? with
  | none => exact ⟨inner, resolved_of_none hsecret refs, h⟩
  | some r =>
    cases hread : (expression before inner).reference? with
    | none =>
      rw [secret?_of_none hread] at hsecret
      cases hsecret
    | some parts =>
      obtain ⟨token, filters⟩ := parts
      rw [secret?_of_some hread] at hsecret
      obtain ⟨_, _, heq, -, htoken⟩ := exists_of_reference? hread
      cases heq
      have hsuffix := (SecretRef.filters_of_tokenOf? htoken).1
      have hfilters : '\x7d' ∉ filters := fun hm => h (hsuffix.subset hm)
      refine ⟨_, resolved_of_some hread hsecret refs, ?_⟩
      exact SecretRef.not_mem_lookupText hfilters _

/-- The text of rewritten fragments is cut into these fragments. -/
theorem split_flatMap_resolved (s : List Char) :
    split (((split s).map (resolved refs)).flatMap text) = (split s).map (resolved refs) := by
  induction s using split_induction with
  | plain s hopening =>
    rw [split_plain hopening, List.map_singleton, List.flatMap_singleton]
    exact split_plain hopening
  | unclosed s before after hopening hclosing =>
    rw [split_unclosed hopening hclosing, List.map_singleton, List.flatMap_singleton]
    exact split_unclosed ((splitOpening_eq_some_iff.mp hopening).2 after) hclosing
  | expression s before inner rest hopening hinner ih =>
    obtain ⟨inner', hresolved, hinner'⟩ := resolved_expression refs hinner before
    rw [split_expression hopening hinner, List.map_cons, List.flatMap_cons, hresolved]
    have htext : (expression before inner').text ++ ((split rest).map (resolved refs)).flatMap text =
        before ++ opening ++
          (inner' ++ '\x7d' :: ((split rest).map (resolved refs)).flatMap text) := by
      simp [text]
    have hopening' := (splitOpening_eq_some_iff.mp hopening).2
    rw [htext, split_expression (hopening' _) hinner', ih]

variable {refs}

/-- No reference is left in a fragment that has been rewritten. -/
theorem reference?_resolved {f : Fragment} (h : f.malformed? = none) :
    (f.resolved refs).reference? = none := by
  cases hread : f.reference? with
  | none => rw [resolved_of_none (secret?_of_none hread), hread]
  | some parts =>
    obtain ⟨token, filters⟩ := parts
    rw [malformed?_of_some hread] at h
    cases hparse : SecretRef.parse? token with
    | none =>
      rw [hparse] at h
      cases h
    | some r =>
      rw [resolved_of_some hread hparse]
      obtain ⟨before, inner, rfl, -, -⟩ := exists_of_reference? hread
      rw [withInner, reference?, SecretRef.tokenOf?_lookupText]
      exact ite_self none

end

end Fragment

namespace SecretRef

open Fragment

/-! ### The rewritten template -/

/-- What becomes of a template and its references. -/
structure Rewritten (template rewritten : String) (refs : List SecretRef) : Prop where
  /-- No two references are of the same key of the same secret. -/
  distinct : refs.Nodup
  /-- They are the references of the template. -/
  named : ∀ r, r ∈ refs ↔ ∃ f ∈ split template.toList, f.secret? = some r
  /-- Nothing but the references is rewritten. -/
  fragments : split rewritten.toList = (split template.toList).map (resolved refs)
  /-- A reference gives way to the look-up of the alias with its number. -/
  aliased : ∀ (i : Nat) (r : SecretRef), refs[i]? = some r →
    ∀ f ∈ split template.toList, f.secret? = some r → (f.resolved refs).LooksUp ("secret_" ++ toString i)
  /-- When the references are resolved, the value of each gets the alias with its number. -/
  values : ∀ spec, Rendering.Gives
    (fun values => values.map (·.1) = (List.range refs.length).map fun i => "secret_" ++ toString i)
    (Rendering.resolveAll spec 0 refs)
  /-- Each of the aliases is looked up. -/
  lookedUp : ∀ i < refs.length, ∃ f ∈ split rewritten.toList, f.LooksUp ("secret_" ++ toString i)
  /-- There is nothing left to rewrite. -/
  settled : extract rewritten = .ok (rewritten, [])

/-- **Extraction replaces each reference by the look-up of its own alias**, and a second extraction changes
nothing and finds nothing. -/
theorem extract_rewritten {template rewritten : String} {refs : List SecretRef}
    (h : extract template = .ok (rewritten, refs)) : Rewritten template rewritten refs := by
  have hrewrites := rewrites_of_rewriteAll (extract_eq_ok_iff.mp h)
  have hdistinct : refs.Nodup := hrewrites.distinct List.nodup_nil
  have hnamed : ∀ r, r ∈ refs ↔ ∃ f ∈ split template.toList, f.secret? = some r := by
    intro r
    rw [hrewrites.named]
    exact or_iff_right List.not_mem_nil
  have hfragments : split rewritten.toList = (split template.toList).map (resolved refs) := by
    rw [hrewrites.text_eq, split_flatMap_resolved]
  have haliased : ∀ (i : Nat) (r : SecretRef), refs[i]? = some r →
      ∀ f ∈ split template.toList, f.secret? = some r →
        (f.resolved refs).LooksUp ("secret_" ++ toString i) := by
    intro i r hr f hf hsecret
    obtain ⟨hi, rfl⟩ := List.getElem?_eq_some_iff.mp hr
    have hindex : refs.idxOf refs[i] = i := hdistinct.idxOf_getElem i hi
    have hlooksUp := looksUp_resolved hsecret refs
    rwa [hindex] at hlooksUp
  refine ⟨hdistinct, hnamed, hfragments, haliased, fun spec => ?_, ?_, ?_⟩
  · rw [List.range_eq_range']
    exact Rendering.resolveAll_names spec 0 refs
  · intro i hi
    obtain ⟨f, hf, hsecret⟩ := (hnamed refs[i]).mp (List.getElem_mem hi)
    rw [hfragments]
    refine ⟨f.resolved refs, List.mem_map_of_mem hf, ?_⟩
    exact haliased i refs[i] (List.getElem?_eq_getElem hi) f hf hsecret
  · refine extract_of_none ?_
    rw [hfragments]
    intro f hf
    obtain ⟨g, hg, rfl⟩ := List.mem_map.mp hf
    exact reference?_resolved (hrewrites.wellFormed g hg)

/-- The address of a database, with an escaped opening in front and one key twice. -/
def databaseTemplate : String :=
  "$$\x7b a \x7d $\x7bsecret.db.user\x7d $\x7bsecret.db.pass\x7d:$\x7b secret.infra/db.user|upper \x7d" ++
    "@$\x7bsecret.db.pass\x7d"

/-- The address with the look-ups of its three secrets. -/
def databaseLookups : String :=
  "$$\x7b a \x7d $\x7b secrets.secret_0 \x7d $\x7b secrets.secret_1 \x7d:$\x7b secrets.secret_2|upper \x7d" ++
    "@$\x7b secrets.secret_1 \x7d"

theorem databaseTemplate_rewritten :
    extract databaseTemplate =
        .ok (databaseLookups, [⟨none, "db", "user"⟩, ⟨none, "db", "pass"⟩, ⟨some "infra", "db", "user"⟩]) ∧
      Rewritten databaseTemplate databaseLookups
        [⟨none, "db", "user"⟩, ⟨none, "db", "pass"⟩, ⟨some "infra", "db", "user"⟩] := by
  have h : extract databaseTemplate =
      .ok (databaseLookups, [⟨none, "db", "user"⟩, ⟨none, "db", "pass"⟩, ⟨some "infra", "db", "user"⟩]) := by
    decide +kernel
  exact ⟨h, extract_rewritten h⟩

end SecretRef

end HttpResource
