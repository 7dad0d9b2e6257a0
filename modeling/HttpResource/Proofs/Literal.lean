/-
# Literal text in a template

A text without delimiters is returned as it is, and the engine never sees it. Had it been rendered, a line
break at its end would have been dropped, and the stand-in for escapes would have been taken for an
escape. So the two ways agree on just the texts that end in no line break and do not hold the stand-in
(`Template.renderEscaped_eq_render_iff`).

Key theorems: `Template.render_literal`, `Template.renderEscaped_literal`,
`Template.renderEscaped_eq_render_iff`.
-/
import HttpResource.Proofs.BuiltinEngine

namespace HttpResource

namespace Template

/-- There is no escape in literal text. -/
theorem replace_escapedOpening {s : List Char} (h : IsLiteral s) :
    Text.replace escapedOpening standIn s = s := by
  refine Text.replace_eq_self fun hescaped => h.expression ?_
  exact (List.suffix_cons '$' plainOpening).isInfix.trans hescaped

section

variable [Engine]

theorem render_literal (context : Json) {template : String} (h : IsLiteral template.toList) :
    render context template = .ok template := by
  unfold render
  rw [isTemplate_eq_false_iff.mpr h]
  rfl

variable [Engine.Lawful]

theorem renderEscaped_literal (context : Json) {template : String} (h : IsLiteral template.toList) :
    renderEscaped context template =
      .ok (String.ofList (Text.replace standIn plainOpening (Text.dropLineBreak template.toList))) := by
  unfold renderEscaped
  rw [replace_escapedOpening h, Engine.Lawful.render_literal _ context h]
  show Except.ok _ = _
  rw [String.toList_ofList]

end

/-! ### The two ways -/

/-- The renderer shortens a text that it changes, so that no two of its changes make up for each other. -/
theorem replace_dropLineBreak_eq_self_iff {s : List Char} :
    Text.replace standIn plainOpening (Text.dropLineBreak s) = s ↔
      ¬standIn <:+: s ∧ s.getLast? ≠ some '\n' ∧ s.getLast? ≠ some '\r' := by
  have hshorter : plainOpening.length < standIn.length := by decide
  have hstandIn : standIn ≠ [] := by decide
  constructor
  · intro h
    have hle := Text.length_replace_le (Nat.le_of_lt hshorter) hstandIn (Text.dropLineBreak s)
    rw [h] at hle
    have hdrop : Text.dropLineBreak s = s := (Text.dropLineBreak_prefix_self s).eq_of_length_le hle
    rw [hdrop] at h
    exact ⟨(Text.replace_eq_self_iff hshorter).mp h, Text.dropLineBreak_eq_self_iff.mp hdrop⟩
  · rintro ⟨hholds, hend⟩
    rw [Text.dropLineBreak_eq_self_iff.mpr hend]
    exact Text.replace_eq_self hholds

/-- **Literal text is returned unchanged, and the renderer would have returned the same** exactly if the text
does not hold the stand-in and ends in no line break. -/
theorem renderEscaped_eq_render_iff [Engine] [Engine.Lawful] (context : Json) {template : String}
    (h : IsLiteral template.toList) :
    render context template = .ok template ∧
      renderEscaped context template =
        .ok (String.ofList (Text.replace standIn plainOpening (Text.dropLineBreak template.toList))) ∧
      (renderEscaped context template = render context template ↔
        ¬standIn <:+: template.toList ∧
          template.toList.getLast? ≠ some '\n' ∧ template.toList.getLast? ≠ some '\r') := by
  have hrender := render_literal context h
  have hescaped := renderEscaped_literal context h
  refine ⟨hrender, hescaped, ?_⟩
  rw [hrender, hescaped, Except.ok.injEq, ← replace_dropLineBreak_eq_self_iff, ← String.toList_inj,
    String.toList_ofList]

/-- A script of one line. -/
def script : String := "echo ready\n"

/-- The renderer would have taken the end of its line. -/
theorem script_shortened :
    IsLiteral script.toList ∧
      render (context {} {} .empty) script = .ok "echo ready\n" ∧
      renderEscaped (context {} {} .empty) script = .ok "echo ready" ∧
      renderEscaped (context {} {} .empty) script ≠ render (context {} {} .empty) script := by
  have hliteral : IsLiteral script.toList := by decide
  have hrender := render_literal (context {} {} .empty) hliteral
  have hescaped : renderEscaped (context {} {} .empty) script = .ok "echo ready" :=
    renderEscaped_literal (context {} {} .empty) hliteral
  refine ⟨hliteral, hrender, hescaped, ?_⟩
  rw [hrender, hescaped]
  intro h
  exact absurd (Except.ok.inj h) (by decide)

/-- A function of a script, with each sign of a delimiter but none of them. -/
def shellFunction : String := "ready() \x7b\n  echo $1 # \x7b $\n\x7d"

theorem shellFunction_unchanged :
    IsLiteral shellFunction.toList ∧
      renderEscaped (context {} {} .empty) shellFunction = render (context {} {} .empty) shellFunction := by
  have hliteral : IsLiteral shellFunction.toList := by decide
  refine ⟨hliteral, ?_⟩
  exact (renderEscaped_eq_render_iff (context {} {} .empty) hliteral).2.2.mpr (by decide)

end Template

end HttpResource
