/-
# What an escape hides

The opening of an expression is plain text if one more dollar sign stands before it, and a text may have
such an escape in front. The text is cut at its first closing brace in any case: what opens before that
brace would be an expression without the escape, and is nothing with it, while all after the brace is
cut as before. So an escape hides a reference that shares its brace, as the default of a shell variable
does, and nothing else (`SecretRef.keepsAfterEscape_iff`).

Key definitions: `SecretRef.KeepsAfterEscape`, `SecretRef.sharing?`.
Key theorems: `SecretRef.rewriteAll_past_brace`, `SecretRef.rewriteAll_escaped`,
`SecretRef.keepsAfterEscape_iff`.
-/
import HttpResource.Proofs.Aliases
import HttpResource.Template.Engine
import Mathlib.Data.Prod.Basic

namespace HttpResource

namespace SecretRef

open Fragment
open Template (escapedOpening)

/-- A rewritten text and its references, with more text in front. -/
def inFront (front : List Char) : List Char × List SecretRef → List Char × List SecretRef :=
  Prod.map (front ++ ·) id

theorem inFront_comp_inFront (a b : List Char) : inFront a ∘ inFront b = inFront (a ++ b) := by
  funext r
  simp only [inFront, Function.comp_apply, Prod.map_apply']
  rw [List.append_assoc]
  rfl

theorem inFront_injective (front : List Char) : Function.Injective (inFront front) :=
  Function.Injective.prodMap (List.append_right_injective front) Function.injective_id

theorem toOption_map {α β : Type} (x : Except String α) (f : α → β) :
    (x.map f).toOption = x.toOption.map f := by
  cases x <;> rfl

/-! ### Text before a closing brace -/

section

variable {refs : List SecretRef} {inside s : List Char}

theorem rewriteAll_cons_of_none {f : Fragment} (h : f.reference? = none) (fs : List Fragment) :
    rewriteAll refs (f :: fs) = (rewriteAll refs fs).map (inFront f.text) := by
  rw [rewriteAll, rewriteFragment_of_none h]
  rfl

/-- Nothing is rewritten where no expression is closed. -/
theorem rewriteAll_of_not_mem (h : '\x7d' ∉ s) : rewriteAll refs (split s) = .ok (s, refs) := by
  have hnone : ∀ f ∈ split s, f.reference? = none := by
    cases hopening : splitOpening s with
    | none =>
      rw [split_plain hopening]
      exact List.forall_mem_singleton.mpr rfl
    | some parts =>
      obtain ⟨before, after⟩ := parts
      have hafter : '\x7d' ∉ after := by
        rw [(splitOpening_eq_some_iff.mp hopening).1] at h
        exact fun hm => h (List.mem_append_right _ hm)
      rw [split_unclosed hopening hafter]
      exact List.forall_mem_singleton.mpr rfl
  rw [rewriteAll_of_none hnone, flatMap_text_split]

/-- The first opening after a brace is not before it. -/
theorem splitOpening_past_brace (h : splitOpening inside = none) (rest : List Char) :
    splitOpening (inside ++ '\x7d' :: rest) =
      (splitOpening rest).map fun (before, after) => (inside ++ '\x7d' :: before, after) := by
  induction inside with
  | nil =>
    have hfront : ¬opening <+: '\x7d' :: rest := by
      rw [opening_prefix_iff]
      exact fun h => absurd h.1 (by decide)
    exact splitOpening_cons hfront
  | cons c inside ih =>
    rw [splitOpening_eq_none_iff, List.infix_cons_iff, not_or, opening_prefix_iff] at h
    have hhead : (inside ++ '\x7d' :: rest).head? = some '\x7b' → inside.head? = some '\x7b' := by
      cases inside with
      | nil => exact nofun
      | cons d inside => exact id
    have hfront : ¬opening <+: c :: (inside ++ '\x7d' :: rest) := by
      rw [opening_prefix_iff]
      exact fun hc => h.1 ⟨hc.1, hhead hc.2⟩
    rw [List.cons_append, splitOpening_cons hfront, ih (splitOpening_eq_none_iff.mpr h.2), Option.map_map]
    rfl

theorem rewriteFragment_past_brace (inside before inner : List Char) :
    rewriteFragment refs (.expression (inside ++ '\x7d' :: before) inner) =
      (rewriteFragment refs (.expression before inner)).map (inFront (inside ++ ['\x7d'])) := by
  have hsame : (expression (inside ++ '\x7d' :: before) inner).reference? =
      (expression before inner).reference? := by
    rw [reference?, reference?, isEscaped_past_brace]
  cases hread : (expression before inner).reference? with
  | none =>
    rw [rewriteFragment_of_none (hsame.trans hread), rewriteFragment_of_none hread]
    simp [text, inFront, Except.map]
  | some parts =>
    obtain ⟨token, filters⟩ := parts
    rw [rewriteFragment_of_some (hsame.trans hread), rewriteFragment_of_some hread]
    cases parse? token <;> simp [withInner, text, inFront, Except.map]

/-- Text without an opening stays as it is up to a brace, and the text after the brace is rewritten on its
own. -/
theorem rewriteAll_past_brace (h : splitOpening inside = none) (rest : List Char) :
    rewriteAll refs (split (inside ++ '\x7d' :: rest)) =
      (rewriteAll refs (split rest)).map (inFront (inside ++ ['\x7d'])) := by
  have hpast := splitOpening_past_brace h rest
  induction rest using split_induction with
  | plain rest hopening =>
    rw [hopening] at hpast
    rw [split_plain hopening, split_plain hpast]
    simp [rewriteAll, rewriteFragment, text, inFront, Except.map]
  | unclosed rest before after hopening hclosing =>
    rw [hopening] at hpast
    rw [split_unclosed hopening hclosing, split_unclosed hpast hclosing]
    simp [rewriteAll, rewriteFragment, text, inFront, Except.map]
  | expression rest before inner more hopening hinner _ =>
    rw [hopening] at hpast
    rw [split_expression hopening hinner, split_expression hpast hinner]
    rw [rewriteAll, rewriteAll, rewriteFragment_past_brace]
    cases rewriteFragment refs (.expression before inner) with
    | error e => rfl
    | ok result =>
      obtain ⟨s, found⟩ := result
      simp only [Except.map, inFront, Prod.map_apply, id_eq]
      cases rewriteAll found (split more) <;> simp

end

/-! ### An escape in front of a text -/

/-- An escaped opening in front of a text changes nothing in the text: it is rewritten as before and has the
same references, or it is malformed as before. -/
def KeepsAfterEscape (s : String) : Prop :=
  (extract ("$$\x7b" ++ s)).toOption = (extract s).toOption.map (Prod.map ("$$\x7b" ++ ·) id)

/-- The expression that opens before the first closing brace, and the text after that brace. -/
def sharing? (s : List Char) : Option (Fragment × List Char) :=
  (Text.splitOnce '\x7d' s).bind fun (inside, rest) =>
    (splitOpening inside).map fun (before, inner) => (.expression before inner, rest)

section

variable {refs : List SecretRef} {inside before inner token filters : List Char}

/-- Up to the first closing brace an escape hides all. -/
theorem rewriteAll_escaped (h : '\x7d' ∉ inside) (rest : List Char) :
    rewriteAll refs (split (escapedOpening ++ (inside ++ '\x7d' :: rest))) =
      (rewriteAll refs (split rest)).map (inFront (escapedOpening ++ (inside ++ ['\x7d']))) := by
  have hopening : splitOpening (escapedOpening ++ (inside ++ '\x7d' :: rest)) =
      some (['$'], inside ++ '\x7d' :: rest) := rfl
  have htext : (expression ['$'] inside).text = escapedOpening ++ (inside ++ ['\x7d']) := rfl
  rw [split_expression hopening h, rewriteAll_cons_of_none rfl, htext]

/-- Which references have been found before does not matter to whether there is a malformed one. -/
theorem error_of_error (refs' : List SecretRef) {fs : List Fragment} {e : String}
    (h : rewriteAll refs fs = .error e) : rewriteAll refs' fs = .error e :=
  rewriteAll_eq_error_iff.mpr (rewriteAll_eq_error_iff.mp h)

/-- A reference that gives way to a look-up changes the text. -/
theorem text_ne_of_reference {rest rest' : List Char} (i : Nat) (h : '\x7d' ∉ inner)
    (htoken : tokenOf? inner = some (token, filters)) :
    (expression before (lookupText i filters)).text ++ rest ≠ (expression before inner).text ++ rest' := by
  intro heq
  have hfilters : '\x7d' ∉ filters := fun hm => h ((filters_of_tokenOf? htoken).1.subset hm)
  have hlookup := not_mem_lookupText hfilters i
  have hinner : lookupText i filters ++ '\x7d' :: rest = inner ++ '\x7d' :: rest' := by
    simpa [text] using heq
  have hsplit := congrArg (Text.splitOnce '\x7d') hinner
  rw [Text.splitOnce_append hlookup, Text.splitOnce_append h] at hsplit
  cases hsplit
  rw [tokenOf?_lookupText] at htoken
  cases htoken

/-- No reference is left in front. -/
theorem rewriteAll_cons_ne_ok {found : List SecretRef} {fs : List Fragment} (h : '\x7d' ∉ inner)
    (hread : (expression before inner).reference? = some (token, filters)) (t : List Char) :
    rewriteAll refs (.expression before inner :: fs) ≠ .ok ((expression before inner).text ++ t, found) := by
  intro heq
  obtain ⟨s, next, rest, hfirst, -, htext⟩ := rewriteAll_cons_eq_ok_iff.mp heq
  obtain ⟨_, _, hsame, -, htoken⟩ := exists_of_reference? hread
  cases hsame
  rw [rewriteFragment_of_some hread] at hfirst
  cases hparse : parse? token with
  | none =>
    rw [hparse] at hfirst
    cases hfirst
  | some r =>
    rw [hparse] at hfirst
    cases hfirst
    exact text_ne_of_reference _ h htoken htext

/-- An expression is left alone exactly if it is no reference, or nothing is rewritten because of a
malformed one after it. -/
theorem rewriteAll_cons_eq_iff (h : '\x7d' ∉ inner) (before rest : List Char) :
    (rewriteAll [] (.expression before inner :: split rest)).toOption =
        (rewriteAll [] (split rest)).toOption.map (inFront (expression before inner).text) ↔
      (expression before inner).reference? = none ∨ ∃ e, rewriteAll [] (split rest) = .error e := by
  cases hread : (expression before inner).reference? with
  | none =>
    rw [rewriteAll_cons_of_none hread, toOption_map]
    exact iff_of_true rfl (.inl rfl)
  | some parts =>
    cases hall : rewriteAll [] (.expression before inner :: split rest) with
    | error e =>
      cases hrest : rewriteAll [] (split rest) with
      | error e' => exact iff_of_true rfl (.inr ⟨e', rfl⟩)
      | ok result => exact iff_of_false (fun heq => by cases heq) (by simp)
    | ok all =>
      obtain ⟨s, next, t, -, hlater, -⟩ := rewriteAll_cons_eq_ok_iff.mp hall
      cases hrest : rewriteAll [] (split rest) with
      | error e =>
        rw [error_of_error next hrest] at hlater
        cases hlater
      | ok result =>
        refine iff_of_false (fun heq => ?_) (by simp)
        obtain rfl := Option.some.inj heq
        exact rewriteAll_cons_ne_ok h hread result.1 hall

end

/-- The same of lists of characters. -/
theorem keepsAfterEscape_iff_rewriteAll {s : String} :
    KeepsAfterEscape s ↔
      (rewriteAll [] (split (escapedOpening ++ s.toList))).toOption =
        (rewriteAll [] (split s.toList)).toOption.map (inFront escapedOpening) := by
  have hescaped : ("$$\x7b" ++ s).toList = escapedOpening ++ s.toList := by
    rw [String.toList_append]
    rfl
  have hinjective : Function.Injective (Prod.map String.ofList id : _ → String × List SecretRef) :=
    Function.Injective.prodMap (fun _ _ => String.ofList_inj.mp) Function.injective_id
  have hfront : Prod.map ("$$\x7b" ++ ·) id ∘ Prod.map String.ofList id =
      (Prod.map String.ofList id : _ → String × List SecretRef) ∘ inFront escapedOpening := by
    funext r
    have htext : "$$\x7b" ++ String.ofList r.1 = String.ofList (escapedOpening ++ r.1) := by
      simp [← String.toList_inj, escapedOpening]
    exact congrArg (·, r.2) htext
  have hextract : ∀ t : String, (extract t).toOption =
      (rewriteAll [] (split t.toList)).toOption.map (Prod.map String.ofList id) :=
    fun t => toOption_map _ _
  unfold KeepsAfterEscape
  rw [hextract, hextract, hescaped, Option.map_map, hfront, ← Option.map_map,
    (Option.map_injective hinjective).eq_iff]

/-- **What an escaped opening hides.** It hides only itself, unless an expression that opens before the first
closing brace is a reference: the reference is left in the text then, and would show but for a
malformed one after it. -/
theorem keepsAfterEscape_iff (s : String) :
    KeepsAfterEscape s ↔
      ∀ f rest, sharing? s.toList = some (f, rest) →
        f.reference? = none ∨ ∃ e, extract (String.ofList rest) = .error e := by
  rw [keepsAfterEscape_iff_rewriteAll]
  cases hclosing : Text.splitOnce '\x7d' s.toList with
  | none =>
    have hs := Text.splitOnce_eq_none_iff.mp hclosing
    have hs' : '\x7d' ∉ escapedOpening ++ s.toList := by
      rw [List.mem_append, not_or]
      exact ⟨by decide, hs⟩
    -- without a brace neither text has an expression
    rw [rewriteAll_of_not_mem hs, rewriteAll_of_not_mem hs', sharing?, hclosing]
    exact iff_of_true rfl nofun
  | some parts =>
    obtain ⟨inside, rest⟩ := parts
    obtain ⟨hs, hinside⟩ := Text.splitOnce_eq_some_iff.mp hclosing
    have hsharing : sharing? s.toList =
        (splitOpening inside).map fun (before, inner) => (.expression before inner, rest) := by
      rw [sharing?, hclosing]
      rfl
    -- the escape ends at the brace; what matters is how the text itself is cut up to there
    rw [hsharing, hs, rewriteAll_escaped hinside, toOption_map, ← inFront_comp_inFront, ← Option.map_map,
      (Option.map_injective (inFront_injective _)).eq_iff]
    cases hopening : splitOpening inside with
    | none =>
      rw [rewriteAll_past_brace hopening, toOption_map]
      exact iff_of_true rfl nofun
    | some parts =>
      obtain ⟨before, inner⟩ := parts
      obtain ⟨rfl, hopening'⟩ := splitOpening_eq_some_iff.mp hopening
      have hinner : '\x7d' ∉ inner := fun hm => hinside (List.mem_append_right _ hm)
      have hsplit : split (before ++ opening ++ inner ++ '\x7d' :: rest) =
          .expression before inner :: split rest := by
        rw [List.append_assoc]
        exact split_expression (hopening' _) hinner
      rw [hsplit, eq_comm, ← text, rewriteAll_cons_eq_iff hinner]
      simp [extract_eq_error_iff]

/-- The default of a shell variable, taken from a secret. -/
def defaultPassword : String := "PASS:-$\x7bsecret.db.pass\x7d\x7d"

/-- The reference is live in the default and hidden with the variable escaped around it. -/
theorem defaultPassword_hidden :
    extract defaultPassword = .ok ("PASS:-$\x7b secrets.secret_0 \x7d\x7d", [⟨none, "db", "pass"⟩]) ∧
      extract ("$$\x7b" ++ defaultPassword) = .ok ("$$\x7b" ++ defaultPassword, []) ∧
      ¬KeepsAfterEscape defaultPassword := by
  have hlive : extract defaultPassword =
      .ok ("PASS:-$\x7b secrets.secret_0 \x7d\x7d", [⟨none, "db", "pass"⟩]) := by
    decide +kernel
  have hhidden : extract ("$$\x7b" ++ defaultPassword) = .ok ("$$\x7b" ++ defaultPassword, []) := by
    decide +kernel
  refine ⟨hlive, hhidden, ?_⟩
  unfold KeepsAfterEscape
  rw [hlive, hhidden]
  decide

/-- A shell variable with another one for its default, and a reference after it. -/
def loginCommand : String := "USER:-$\x7bNAME\x7d\x7d:$\x7bsecret.db.pass\x7d"

/-- With the variable escaped the reference is still live: what shares the brace of the escape is none. -/
theorem loginCommand_kept :
    extract loginCommand =
        .ok ("USER:-$\x7bNAME\x7d\x7d:$\x7b secrets.secret_0 \x7d", [⟨none, "db", "pass"⟩]) ∧
      sharing? loginCommand.toList =
        some (.expression "USER:-".toList "NAME".toList, "\x7d:$\x7bsecret.db.pass\x7d".toList) ∧
      KeepsAfterEscape loginCommand := by
  have hsharing : sharing? loginCommand.toList =
      some (.expression "USER:-".toList "NAME".toList, "\x7d:$\x7bsecret.db.pass\x7d".toList) := by
    decide +kernel
  refine ⟨by decide +kernel, hsharing, (keepsAfterEscape_iff loginCommand).mpr fun f rest h => .inl ?_⟩
  cases hsharing.symm.trans h
  decide +kernel

end SecretRef

end HttpResource
