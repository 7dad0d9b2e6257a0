/-
# Spellings of header names

A header of a mapping wins over the default header whose name is spelled as its own is. Peers do not tell
upper from lower case in a name, so a default header that the mapping has in another spelling is sent
beside it, with its own values (`renderRequest_spellings`). There is one spelling only where all names
are canonical, as those of received headers are.

Key definitions: `Header.IsCanonical`, `Mapping.ReplacesSpellings`.
Key theorems: `Header.IsCanonical.eq_of_equalIgnoringCase`, `renderRequest_spellings`.
-/
import HttpResource.Header
import HttpResource.Proofs.Overrides
import Mathlib

namespace HttpResource

namespace Header

/-- A name of letters, digits and hyphens with a capital letter at the start of each word. -/
def IsCanonical (name : String) : Prop := name.toList.all isPlain = true ∧ canonicalName name = name

instance (name : String) : Decidable (IsCanonical name) := inferInstanceAs (Decidable (_ ∧ _))

theorem toLower_eq_hyphen_iff {c : Char} : c.toLower = '-' ↔ c = '-' := by
  constructor
  · intro h
    by_cases hupper : c.isUpper = true
    · have halpha : c.toLower.isAlpha = true := by
        rw [Char.isAlpha_toLower_eq_isAlpha, Char.isAlpha, hupper, Bool.true_or]
      rw [h] at halpha
      exact absurd halpha (by decide)
    · rwa [Char.toLower_eq_of_not_isUpper hupper] at h
  · rintro rfl
    rfl

theorem capitalize_congr : ∀ {s t : List Char} (first : Bool), s.map Char.toLower = t.map Char.toLower →
    capitalize first s = capitalize first t
  | [], [], _, _ => rfl
  | c :: s, d :: t, first, h => by
    obtain ⟨hchar, hrest⟩ := List.cons_eq_cons.mp h
    have hupper : c.toUpper = d.toUpper := by
      rw [← Char.toUpper_toLower_eq_toUpper c, hchar, Char.toUpper_toLower_eq_toUpper]
    have hhyphen : (c = '-') = (d = '-') := by
      rw [← toLower_eq_hyphen_iff, hchar, toLower_eq_hyphen_iff]
    unfold capitalize
    rw [hchar, hupper]
    simp only [hhyphen]
    rw [capitalize_congr _ hrest]

/-- Two spellings of a name are brought to the same one. -/
theorem IsCanonical.eq_of_equalIgnoringCase {a b : String} (ha : IsCanonical a) (hb : IsCanonical b)
    (h : Status.equalIgnoringCase a b = true) : a = b := by
  have hchars : a.toList.map Char.toLower = b.toList.map Char.toLower := by
    rw [← String.toList_map, ← String.toList_map, beq_iff_eq.mp h]
  rw [← ha.2, ← hb.2]
  unfold canonicalName
  rw [if_pos ha.1, if_pos hb.1, capitalize_congr true hchars]

end Header

/-- No name that a mapping has is sent in another spelling as well, which only the default headers have. -/
def Mapping.ReplacesSpellings (defaults : Headers) (m : Mapping) (sent : Headers) : Prop :=
  ∀ a ∈ sent.names, ∀ b ∈ sent.names, a ∈ m.headers.names →
    b ∈ defaults.names → b ∉ m.headers.names → Status.equalIgnoringCase a b = false

/-- **A default header of which the mapping has another spelling is sent as well**, with its own values. So
a mapping replaces all spellings of its names exactly if it has itself all spellings of them that the
default headers have. It does if both spell their names in the canonical way. -/
theorem renderRequest_spellings [Template.Engine] [Url.Reader] {spec : Spec} {status : Status}
    {action : Action} {m : Mapping} {w : World} {q : RequestDetails}
    (h : (renderRequest spec status action m w).1 = .ok q) :
    (m.ReplacesSpellings spec.headers q.headers ↔
      ∀ a ∈ m.headers.names, ∀ b ∈ spec.headers.names, Status.equalIgnoringCase a b = true →
        b ∈ m.headers.names) ∧
    (∀ name templates, name ∉ m.headers.names → spec.headers.get? name = some templates →
      ∃ values, q.headers.get? name = some values ∧
        List.Forall₂ (Rendering.Yields w.secrets spec status) templates values) ∧
    ((∀ name, name ∈ m.headers.names ∨ name ∈ spec.headers.names → Header.IsCanonical name) →
      m.ReplacesSpellings spec.headers q.headers) := by
  rw [renderRequest_result] at h
  have hreplaces : m.ReplacesSpellings spec.headers q.headers ↔
      ∀ a ∈ m.headers.names, ∀ b ∈ spec.headers.names, Status.equalIgnoringCase a b = true →
        b ∈ m.headers.names := by
    constructor
    · intro hsent a ha b hb hsame
      by_contra hnot
      have hfirst : a ∈ q.headers.names := (Rendering.mem_names_of_request h).mpr (.inr ha)
      have hsecond : b ∈ q.headers.names := (Rendering.mem_names_of_request h).mpr (.inl hb)
      have hother := hsent a hfirst b hsecond ha hb hnot
      exact Bool.false_ne_true (hother.symm.trans hsame)
    · intro hall a _ b _ ha hb hnot
      exact Bool.eq_false_iff.mpr fun hsame => hnot (hall a ha b hb hsame)
  refine ⟨hreplaces, fun name templates hname htemplates => ?_, fun hcanonical => ?_⟩
  · refine Rendering.values_of_request h ?_
    rw [Mapping.header?, Table.get?_eq_none_iff.mpr hname, Option.none_or, htemplates]
  · refine hreplaces.mpr fun a ha b hb hsame => ?_
    rwa [← (hcanonical a (.inl ha)).eq_of_equalIgnoringCase (hcanonical b (.inr hb)) hsame]

/-- Specification and mapping of the login both spell the name of its header in the canonical way. -/
theorem login_replaces :
    (renderRequest loginSpec {} .create login {}).1 = .ok loginRequest ∧
      login.ReplacesSpellings loginSpec.headers loginRequest.headers := by
  refine ⟨login_rendered, (renderRequest_spellings login_rendered).2.2 fun name hname => ?_⟩
  have hall : ∀ name ∈ login.headers.names ++ loginSpec.headers.names, Header.IsCanonical name := by
    decide +kernel
  exact hall name (List.mem_append.mpr hname)

/-- A login that has the name of its header in small letters. -/
def lowercaseLogin : Mapping := { login with headers := .ofList [("authorization", ["Basic bWU6bXk="])] }

/-- A specification with credentials of its own. -/
def bearerSpec : Spec := { loginSpec with headers := .ofList [("Authorization", ["Bearer default"])] }

/-- The request has the credentials of both. -/
theorem lowercaseLogin_sendsBoth :
    ∃ q, (renderRequest bearerSpec {} .create lowercaseLogin {}).1 = .ok q ∧
      q.headers.get? "authorization" = some ["Basic bWU6bXk="] ∧
      q.headers.get? "Authorization" = some ["Bearer default"] ∧
      ¬lowercaseLogin.ReplacesSpellings bearerSpec.headers q.headers := by
  refine ⟨{ loginRequest with headers := bearerSpec.headers.union lowercaseLogin.headers },
    Except.toOption_eq_some_iff.mp (by decide +kernel), by decide +kernel, by decide +kernel,
    fun h => ?_⟩
  have hsame := h "authorization" (by decide +kernel) "Authorization" (by decide +kernel)
    (by decide +kernel) (by decide +kernel) (by decide +kernel)
  exact absurd hsame (by decide +kernel)

end HttpResource
