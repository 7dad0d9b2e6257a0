/-
# Escaping as a round trip

A text is escaped by one more dollar sign before each opening of an expression in it. Three scans have
to agree on the escaped text for it to come out as it was: no opening of it is live for the
extraction of references, since each has the added sign in front; the renderer hides each behind a
stand-in, which leaves literal text if the text had no statement and no comment; and putting the
openings back finds the stand-ins only, if the text has no null character
(`Template.render_escape`).

Key definitions: `Template.escape`, `Template.Escapable`, `Fragment.AllEscaped`.
Key theorems: `Fragment.AllEscaped.reference?_eq_none`, `Template.allEscaped_addDollar`,
`Template.isLiteral_hide`, `Template.restore_hide`, `Template.render_escape`.
-/
import HttpResource.Proofs.Fragments
import HttpResource.Proofs.Literal
import HttpResource.Rendering

namespace HttpResource

namespace Fragment

/-! ### Texts without a live opening -/

/-- Each opening in the text has one more dollar sign before it. -/
def AllEscaped (s : List Char) : Prop :=
  ∀ before after, s = before ++ opening ++ after → SecretRef.isEscaped before = true

section

variable {s : List Char}

theorem isEscaped_cons {before : List Char} (h : SecretRef.isEscaped before = true) (c : Char) :
    SecretRef.isEscaped (c :: before) = true := by
  unfold SecretRef.isEscaped at h ⊢
  cases before with
  | nil => cases h
  | cons d before => rwa [List.getLast?_cons_cons]

theorem allEscaped_nil : AllEscaped [] := by
  intro before after heq
  simp [opening] at heq

theorem AllEscaped.cons {c : Char} (h : AllEscaped s) (hfront : ¬opening <+: c :: s) :
    AllEscaped (c :: s) := by
  intro before after heq
  cases before with
  | nil => exact absurd ⟨after, heq.symm⟩ hfront
  | cons d before =>
    obtain ⟨rfl, hs⟩ := List.cons.inj heq
    exact isEscaped_cons (h before after hs) c

/-- An escaped opening may stand in front. -/
theorem AllEscaped.escaped_append (h : AllEscaped s) : AllEscaped (Template.escapedOpening ++ s) := by
  intro before after heq
  have hbrace : AllEscaped ('\x7b' :: s) := by
    refine h.cons ?_
    rw [opening_prefix_iff]
    exact fun hp => absurd hp.1 (by decide)
  match before with
  | [] => exact absurd (List.cons.inj (List.cons.inj heq).2).1 (by decide)
  | [c] =>
    obtain ⟨rfl, -⟩ := List.cons.inj heq
    rfl
  | c :: d :: before =>
    have htail : '\x7b' :: s = before ++ opening ++ after := (List.cons.inj (List.cons.inj heq).2).2
    exact isEscaped_cons (isEscaped_cons (hbrace before after htail) d) c

/-- A text whose openings are all escaped has no references. -/
theorem AllEscaped.reference?_eq_none (h : AllEscaped s) : ∀ f ∈ split s, f.reference? = none := by
  induction s using split_induction with
  | plain s hopening =>
    rw [split_plain hopening]
    exact List.forall_mem_singleton.mpr rfl
  | unclosed s before after hopening hclosing =>
    rw [split_unclosed hopening hclosing]
    exact List.forall_mem_singleton.mpr rfl
  | expression s before inner rest hopening hinner ih =>
    have hs := (splitOpening_eq_some_iff.mp hopening).1
    rw [split_expression hopening hinner]
    refine List.forall_mem_cons.mpr ⟨?_, ih ?_⟩
    · rw [reference?, if_pos (h before _ hs)]
    · intro more after hrest
      -- the brace before the rest keeps what is before it from escaping anything
      have hpast : s = (before ++ opening ++ inner ++ '\x7d' :: more) ++ opening ++ after := by
        rw [hs, hrest]
        simp
      rw [← isEscaped_past_brace (before ++ opening ++ inner)]
      exact h _ _ hpast

end

end Fragment

namespace Template

/-! ### The three changes of a text -/

/-- The text with one more dollar sign before each opening. -/
def addDollar (s : List Char) : List Char := Text.replace plainOpening escapedOpening s

/-- The text with the stand-in for each opening. -/
def hide (s : List Char) : List Char := Text.replace plainOpening standIn s

/-- The template that stands for a text. -/
def escape (s : String) : String := String.ofList (addDollar s.toList)

section

variable {s : List Char}

theorem plainOpening_ne_nil : plainOpening ≠ [] := by decide

theorem plainOpening_prefix_iff {c : Char} : plainOpening <+: c :: s ↔ c = '$' ∧ s.head? = some '\x7b' :=
  Text.pair_prefix_iff

theorem addDollar_append (s : List Char) :
    addDollar (plainOpening ++ s) = escapedOpening ++ addDollar s :=
  Text.replace_append plainOpening_ne_nil s

theorem addDollar_cons {c : Char} (h : ¬plainOpening <+: c :: s) :
    addDollar (c :: s) = c :: addDollar s := Text.replace_cons h

theorem hide_append (s : List Char) : hide (plainOpening ++ s) = standIn ++ hide s :=
  Text.replace_append plainOpening_ne_nil s

theorem hide_cons {c : Char} (h : ¬plainOpening <+: c :: s) : hide (c :: s) = c :: hide s :=
  Text.replace_cons h

/-- The first character of an escaped text is that of the text. -/
theorem head?_addDollar (s : List Char) : (addDollar s).head? = s.head? := by
  by_cases hfront : plainOpening <+: s
  · obtain ⟨rest, rfl⟩ := hfront
    rw [addDollar_append]
    rfl
  · exact Text.head?_replace hfront

theorem not_prefix_cons_addDollar {c : Char} (h : ¬plainOpening <+: c :: s) :
    ¬plainOpening <+: c :: addDollar s := by
  rwa [plainOpening_prefix_iff, head?_addDollar, ← plainOpening_prefix_iff]

theorem not_prefix_addDollar (s : List Char) : ¬plainOpening <+: addDollar s := by
  by_cases hfront : plainOpening <+: s
  · obtain ⟨rest, rfl⟩ := hfront
    rw [addDollar_append]
    exact fun hp => absurd (List.cons.inj hp.choose_spec).2 nofun
  · cases s with
    | nil => exact hfront
    | cons c rest =>
      rw [addDollar_cons hfront]
      exact not_prefix_cons_addDollar hfront

/-- Every opening of an escaped text is escaped. -/
theorem allEscaped_addDollar (s : List Char) : Fragment.AllEscaped (addDollar s) := by
  induction s using Text.occurrence_induction plainOpening_ne_nil with
  | nil => exact Fragment.allEscaped_nil
  | occurrence rest ih =>
    rw [addDollar_append]
    exact ih.escaped_append
  | cons c rest hfront ih =>
    rw [addDollar_cons hfront]
    exact ih.cons (not_prefix_cons_addDollar hfront)

/-- The stand-in takes the place of each escape, and so of each opening of the text. -/
theorem replace_addDollar (s : List Char) : Text.replace escapedOpening standIn (addDollar s) = hide s := by
  have hescaped : escapedOpening ≠ [] := by decide
  induction s using Text.occurrence_induction plainOpening_ne_nil with
  | nil => rfl
  | occurrence rest ih =>
    rw [addDollar_append, hide_append, Text.replace_append hescaped, ih]
  | cons c rest hfront ih =>
    have hfront' : ¬escapedOpening <+: c :: addDollar rest := fun hp =>
      not_prefix_addDollar rest (List.cons_prefix_cons.mp hp).2
    rw [addDollar_cons hfront, hide_cons hfront, Text.replace_cons hfront', ih]

/-- A text without the null character is restored. -/
theorem restore_hide (h : '\x00' ∉ s) : Text.replace standIn plainOpening (hide s) = s := by
  have hstandIn : standIn ≠ [] := by decide
  induction s using Text.occurrence_induction plainOpening_ne_nil with
  | nil => rfl
  | occurrence rest ih =>
    have hrest : '\x00' ∉ rest := fun hm => h (List.mem_append_right _ hm)
    rw [hide_append, Text.replace_append hstandIn, ih hrest]
  | cons c rest hfront ih =>
    obtain ⟨hc, hrest⟩ := not_or.mp fun ho => h (List.mem_cons.mpr ho)
    have hfront' : ¬standIn <+: c :: hide rest := fun hp => hc (List.cons_prefix_cons.mp hp).1
    rw [hide_cons hfront, Text.replace_cons hfront', ih hrest]

end

/-! ### The hidden text is literal -/

section

variable {s : List Char}

/-- Characters that start no delimiter may stand in front. -/
theorem IsLiteral.append {front : List Char} (hfront : '$' ∉ front ∧ '\x7b' ∉ front) (h : IsLiteral s) :
    IsLiteral (front ++ s) := by
  induction front with
  | nil => exact h
  | cons c front ih =>
    simp only [List.mem_cons, not_or] at hfront
    obtain ⟨⟨hdollar, hdollars⟩, hbrace, hbraces⟩ := hfront
    refine isLiteral_cons_iff.mpr ⟨fun hc => ?_, fun hc => ?_, ih ⟨hdollars, hbraces⟩⟩
    · exact absurd hc.symm hdollar
    · exact absurd hc.symm hbrace

theorem head?_hide (s : List Char) : (hide s).head? = s.head? ∨ (hide s).head? = some '\x00' := by
  by_cases hfront : plainOpening <+: s
  · obtain ⟨rest, rfl⟩ := hfront
    rw [hide_append]
    exact .inr rfl
  · exact .inl (Text.head?_replace hfront)

/-- What is left of the delimiters of a text without statements and comments is hidden. -/
theorem isLiteral_hide (hstatement : ¬['\x7b', '%'] <:+: s) (hcomment : ¬['\x7b', '#'] <:+: s) :
    IsLiteral (hide s) := by
  induction s using Text.occurrence_induction plainOpening_ne_nil with
  | nil => exact isLiteral_nil
  | occurrence rest ih =>
    have hrest : rest <:+: plainOpening ++ rest := (List.suffix_append _ rest).isInfix
    have hliteral := ih (fun hi => hstatement (hi.trans hrest)) (fun hi => hcomment (hi.trans hrest))
    rw [hide_append]
    exact hliteral.append (by decide)
  | cons c rest hfront ih =>
    rw [List.infix_cons_iff, not_or, Text.pair_prefix_iff] at hstatement hcomment
    rw [hide_cons hfront]
    refine isLiteral_cons_iff.mpr ⟨fun hc => ?_, fun hc => ?_, ih hstatement.2 hcomment.2⟩
    · rcases head?_hide rest with hhead | hhead
      · exact fun hbrace => hfront (plainOpening_prefix_iff.mpr ⟨hc, hhead.symm.trans hbrace⟩)
      · exact fun hbrace => absurd (hhead.symm.trans hbrace) (by decide)
    · rcases head?_hide rest with hhead | hhead
      · exact ⟨fun hp => hstatement.1 ⟨hc, hhead.symm.trans hp⟩,
          fun hp => hcomment.1 ⟨hc, hhead.symm.trans hp⟩⟩
      · exact ⟨fun hp => absurd (hhead.symm.trans hp) (by decide),
          fun hp => absurd (hhead.symm.trans hp) (by decide)⟩

/-- The last character is that of the text, or the end of a stand-in. -/
theorem getLast?_hide {c : Char} (h : (hide s).getLast? = some c) (hc : c ≠ '\x00') :
    s.getLast? = some c := by
  have hstandIn : standIn ≠ [] := by decide
  rcases Text.getLast?_replace plainOpening_ne_nil hstandIn h with hlast | hlast
  · exact hlast
  · have hend : standIn.getLast? = some '\x00' := by decide
    exact absurd (Option.some.inj (hlast.symm.trans hend)) hc

theorem dropLineBreak_hide (hnewline : s.getLast? ≠ some '\n') (hreturn : s.getLast? ≠ some '\r') :
    Text.dropLineBreak (hide s) = hide s :=
  Text.dropLineBreak_eq_self_iff.mpr
    ⟨fun h => hnewline (getLast?_hide h (by decide)), fun h => hreturn (getLast?_hide h (by decide))⟩

end

/-! ### The round trip -/

/-- The texts that may be escaped: no statement and no comment starts in them, no character is the one that
bounds a stand-in, and no line break is at the end. -/
structure Escapable (s : List Char) : Prop where
  statement : ¬['\x7b', '%'] <:+: s
  comment : ¬['\x7b', '#'] <:+: s
  noNull : '\x00' ∉ s
  newline : s.getLast? ≠ some '\n'
  carriageReturn : s.getLast? ≠ some '\r'

theorem extract_escape (s : String) : SecretRef.extract (escape s) = .ok (escape s, []) := by
  refine SecretRef.extract_of_none ?_
  rw [escape, String.toList_ofList]
  exact (allEscaped_addDollar s.toList).reference?_eq_none

/-- A text needs no escape if there is no delimiter in it with the escapes. -/
theorem escape_eq_self {s : String} (h : IsLiteral (escape s).toList) : escape s = s := by
  rw [escape, String.toList_ofList] at h
  have hopening : ¬plainOpening <:+: s.toList := by
    intro hi
    have hescaped : escapedOpening <:+: addDollar s.toList := Text.infix_replace plainOpening_ne_nil hi
    exact h.expression ((List.suffix_cons '$' plainOpening).isInfix.trans hescaped)
  rw [escape, addDollar, Text.replace_eq_self hopening, String.ofList_toList]

section

variable [Engine] [Engine.Lawful]

theorem renderEscaped_escape (context : Json) {s : String} (h : Escapable s.toList) :
    renderEscaped context (escape s) = .ok s := by
  unfold renderEscaped
  rw [escape, String.toList_ofList, replace_addDollar,
    Engine.Lawful.render_literal _ context (isLiteral_hide h.statement h.comment),
    dropLineBreak_hide h.newline h.carriageReturn]
  show Except.ok _ = _
  rw [String.toList_ofList, restore_hide h.noNull, String.ofList_toList]

theorem render_escape_eq_ok (context : Json) {s : String} (h : Escapable s.toList) :
    render context (escape s) = .ok s := by
  unfold render
  cases hdelimited : isTemplate (escape s) with
  | true => exact renderEscaped_escape context h
  | false => exact congrArg Except.ok (escape_eq_self (isTemplate_eq_false_iff.mp hdelimited))

/-- **Escaping is a round trip**: an escaped text has no references, it is rendered to the text in every
context, and no secret is read for it. -/
theorem render_escape {s : String} (h : Escapable s.toList) :
    SecretRef.extract (escape s) = .ok (escape s, []) ∧
      (∀ context, render context (escape s) = .ok s) ∧
      ∀ spec status, Rendering.renderText spec status (escape s) = pure s := by
  refine ⟨extract_escape s, fun context => render_escape_eq_ok context h, fun spec status => ?_⟩
  unfold Rendering.renderText
  cases hdelimited : isTemplate (escape s) with
  | true =>
    rw [extract_escape]
    simp [Rendering.resolveAll, render_escape_eq_ok _ h]
  | false =>
    rw [escape_eq_self (isTemplate_eq_false_iff.mp hdelimited)]
    rfl

end

/-- A script with runs of dollar signs, openings next to each other and braces without a partner. -/
def scriptText : String := "\x7d $$$\x7bHOME\x7d $\x7b$\x7bsecret.db.pass\x7d \x7b $\x7d \\n $$\x7b"

theorem scriptText_escaped :
    Escapable scriptText.toList ∧
      escape scriptText =
        "\x7d $$$$\x7bHOME\x7d $$\x7b$$\x7bsecret.db.pass\x7d \x7b $\x7d \\n $$$\x7b" ∧
      (∀ context, render context (escape scriptText) = .ok scriptText) := by
  have h : Escapable scriptText.toList :=
    ⟨by decide, by decide, by decide, by decide, by decide⟩
  exact ⟨h, by decide +kernel, (render_escape h).2.1⟩

end Template

end HttpResource
