/-
# What is known of template engines

Of the engine that renders templates two things are used. Text in which nothing opens is rendered as it is,
but for one line break at its end; and an expression that is a field of a name gives way to the field's
value, if that is a string. Neither depends on the filters that are registered.

Key definitions: `Template.IsLiteral`, `Template.Surrounds`, `Template.IsName`, `Template.Engine.Lawful`.
Key theorems: `Template.isTemplate_eq_false_iff`.
-/
import HttpResource.Template.Engine
import Mathlib.Data.List.Infix

namespace HttpResource

namespace Template

/-! ### Texts without delimiters -/

/-- No expression, no statement and no comment starts in the text. -/
structure IsLiteral (s : List Char) : Prop where
  expression : ¬['$', '\x7b'] <:+: s
  statement : ¬['\x7b', '%'] <:+: s
  comment : ¬['\x7b', '#'] <:+: s

instance (s : List Char) : Decidable (IsLiteral s) :=
  decidable_of_iff (¬['$', '\x7b'] <:+: s ∧ ¬['\x7b', '%'] <:+: s ∧ ¬['\x7b', '#'] <:+: s)
    ⟨fun h => ⟨h.1, h.2.1, h.2.2⟩, fun h => ⟨h.expression, h.statement, h.comment⟩⟩

theorem IsLiteral.mono {s t : List Char} (h : IsLiteral s) (ht : t <:+: s) : IsLiteral t where
  expression he := h.expression (he.trans ht)
  statement hs := h.statement (hs.trans ht)
  comment hc := h.comment (hc.trans ht)

theorem isLiteral_nil : IsLiteral [] := by decide

/-- A text is literal if no delimiter starts at its first character and the rest is literal. -/
theorem isLiteral_cons_iff {c : Char} {s : List Char} :
    IsLiteral (c :: s) ↔
      (c = '$' → s.head? ≠ some '\x7b') ∧ (c = '\x7b' → s.head? ≠ some '%' ∧ s.head? ≠ some '#') ∧
        IsLiteral s := by
  constructor
  · intro h
    refine ⟨fun hc hs => ?_, fun hc => ⟨fun hs => ?_, fun hs => ?_⟩, h.mono ?_⟩
    · exact h.expression (Text.pair_prefix_iff.mpr ⟨hc, hs⟩).isInfix
    · exact h.statement (Text.pair_prefix_iff.mpr ⟨hc, hs⟩).isInfix
    · exact h.comment (Text.pair_prefix_iff.mpr ⟨hc, hs⟩).isInfix
    · exact (List.suffix_cons c s).isInfix
  · rintro ⟨hexpression, hbrace, h⟩
    refine ⟨fun hi => ?_, fun hi => ?_, fun hi => ?_⟩
    · rcases List.infix_cons_iff.mp hi with hp | hi
      · obtain ⟨hc, hs⟩ := Text.pair_prefix_iff.mp hp
        exact hexpression hc hs
      · exact h.expression hi
    · rcases List.infix_cons_iff.mp hi with hp | hi
      · obtain ⟨hc, hs⟩ := Text.pair_prefix_iff.mp hp
        exact (hbrace hc).1 hs
      · exact h.statement hi
    · rcases List.infix_cons_iff.mp hi with hp | hi
      · obtain ⟨hc, hs⟩ := Text.pair_prefix_iff.mp hp
        exact (hbrace hc).2 hs
      · exact h.comment hi

theorem isTemplate_eq_false_iff {template : String} :
    isTemplate template = false ↔ IsLiteral template.toList := by
  have hdelimiters : isTemplate template = false ↔
      ∀ d ∈ delimiters, ¬d <:+: template.toList := by
    simp only [isTemplate, List.any_eq_false, Text.holds_iff]
  rw [hdelimiters]
  simp only [delimiters, List.forall_mem_cons]
  exact ⟨fun h => ⟨h.1, h.2.1, h.2.2.1⟩, fun h => ⟨h.expression, h.statement, h.comment, nofun⟩⟩

theorem isTemplate_eq_true_iff {template : String} :
    isTemplate template = true ↔ ¬IsLiteral template.toList := by
  rw [← isTemplate_eq_false_iff, Bool.not_eq_false]

/-! ### Expressions between texts -/

/-- Two literal texts with room for an expression between them. The first one does not end in a dollar sign,
which would escape the expression, and the second one not in a line break, which is not rendered. -/
structure Surrounds (before after : List Char) : Prop where
  literalBefore : IsLiteral before
  literalAfter : IsLiteral after
  dollar : before.getLast? ≠ some '$'
  newline : after.getLast? ≠ some '\n'
  carriageReturn : after.getLast? ≠ some '\r'

/-- Characters of names. -/
def isNameChar (c : Char) : Bool := c.isAlphanum || c = '_'

/-- A word that can be a name: letters, digits and low lines, without a digit in front. -/
structure IsName (w : String) : Prop where
  first : w.toList.head?.any (!·.isDigit) = true
  all : w.toList.all isNameChar = true

instance (w : String) : Decidable (IsName w) :=
  decidable_of_iff (w.toList.head?.any (!·.isDigit) = true ∧ w.toList.all isNameChar = true)
    ⟨fun h => ⟨h.1, h.2⟩, fun h => ⟨h.first, h.all⟩⟩

/-- Words that have a meaning of their own. -/
def keywords : List String :=
  ["true", "True", "false", "False", "none", "None", "not", "and", "or", "in", "is", "if", "else", "loop",
    "self", "super"]

/-- The field of a name as an expression, after its opening delimiter and with its closing one. -/
def fieldText (name field : String) : List Char :=
  ' ' :: name.toList ++ '.' :: field.toList ++ [' ', '\x7d']

/-! ### Laws -/

/-- An engine does what is used of it. -/
class Engine.Lawful [Engine] : Prop where
  /-- Literal text comes out without the line break at its end. -/
  render_literal (filters : List (String × Filter)) (context : Json) {s : List Char} (h : IsLiteral s) :
    Engine.render filters context s = .ok (String.ofList (Text.dropLineBreak s))
  /-- A field that is a string is printed as it is, between the texts around it. -/
  render_field (filters : List (String × Filter)) {context : Json} {name field value : String}
    {before after : List Char} (h : Surrounds before after) (hname : IsName name)
    (hkeyword : name ∉ keywords) (hfield : IsName field)
    (hvalue : (context.field? name).bind (·.field? field) = some (.string value)) :
    Engine.render filters context (before ++ (plainOpening ++ (fieldText name field ++ after))) =
      .ok (String.ofList before ++ (value ++ String.ofList after))

end Template

end HttpResource
