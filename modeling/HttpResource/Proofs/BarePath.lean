/-
# Bare paths

A response field is named by a bare path where it is copied, and by an expression where it is checked. The
two are read apart: one reading wants a dot first and nothing after the path, the other reads an expression
and looks whether it is a path. They take the same tokens. A phrase of the grammar that starts with a dot
and is a path has no operator and no parentheses, so from a leading dot on a text is a bare path exactly if
it is an expression that is a path, with the same steps, and a copy and a check see the same field.

Key theorems: `Predicate.pathTokens_of_derives`, `Predicate.pathOfTokens_eq_ok_iff`,
`Predicate.ofTokens_path_iff`, `Predicate.parsePath_agrees`.
-/
import HttpResource.Proofs.Evaluation
import HttpResource.Proofs.Grammar
import Mathlib.Control.Monad.Basic

namespace HttpResource

namespace Predicate

/-! ### Tokens -/

/-- A path that starts with a dot is no part of a greater phrase. With parentheses around it, it would not
start with a dot. -/
theorem pathTokens_of_derives {phrase : Phrase} {s r : List Token} {path : Path}
    (h : Derives phrase (.dot :: s) (.path path) r) : PathTokens (.dot :: s) path r := by
  -- By induction on the phrase. An operator would make another tree, and a group another first token.
  generalize htokens : Token.dot :: s = tokens at h ⊢
  generalize he : Expr.path path = e at h
  induction h with
  | pipe _ ih | disjunction _ ih | conjunction _ ih | comparison _ ih => exact ih htokens he
  | path h =>
    cases he
    exact h
  | group => cases htokens
  | _ => cases he

/-- Tokens are read as a bare path exactly if they are one. -/
theorem pathOfTokens_eq_ok_iff {tokens : List Token} {path : Path} :
    pathOfTokens tokens = .ok path ↔ PathTokens tokens path [] := by
  constructor
  · intro h
    unfold pathOfTokens at h
    split at h
    · rename_i s
      cases hread : pathAfterDot s with
      | error why =>
        rw [hread] at h
        cases h
      | ok result =>
        obtain ⟨path', r⟩ := result
        rw [hread] at h
        cases r with
        | nil =>
          cases h
          exact pathAfterDot_sound hread
        | cons t r => cases h
    · cases h
  · intro h
    obtain ⟨s, rfl⟩ := exists_of_pathTokens h
    show complete (pathAfterDot s) = .ok path
    rw [pathAfterDot_complete h rfl]
    rfl

/-- From a dot on, the two readings give the same path. -/
theorem ofTokens_path_iff {s : List Token} {path : Path} :
    Expr.ofTokens (.dot :: s) = .ok (.path path) ↔ pathOfTokens (.dot :: s) = .ok path := by
  rw [ofTokens_eq_ok_iff, pathOfTokens_eq_ok_iff]
  exact ⟨pathTokens_of_derives, fun h => .of_primary (.path h)⟩

/-! ### Texts -/

theorem parsePath_eq_ok_iff {source : String} {path : Path} :
    parsePath source = .ok path ↔
      ∃ tokens, Token.scan source = .ok tokens ∧ pathOfTokens tokens = .ok path := by
  unfold parsePath tokens
  cases Token.scan source with
  | error why => exact ⟨nofun, fun ⟨_, hscan, _⟩ => nomatch hscan⟩
  | ok tokens =>
    constructor
    · intro h
      exact ⟨tokens, rfl, h⟩
    · rintro ⟨_, ⟨⟩, h⟩
      exact h

/-- The first token is a dot. A text with a fault that leaves it without tokens counts as well. -/
def StartsWithDot (source : String) : Prop :=
  ∀ tokens, Token.scan source = .ok tokens → tokens.head? = some .dot

theorem startsWithDot_of_scan {source : String}
    (h : (Token.scan source).toOption.bind List.head? = some .dot) : StartsWithDot source := by
  intro tokens hscan
  rw [hscan] at h
  exact h

theorem exprParse_path_iff {source : String} (hdot : StartsWithDot source) {path : Path} :
    Expr.parse source = .ok (.path path) ↔ parsePath source = .ok path := by
  rw [exprParse_eq_ok_iff, parsePath_eq_ok_iff]
  refine exists_congr fun tokens => and_congr_right fun hscan => ?_
  obtain ⟨s, rfl⟩ := List.head?_eq_some_iff.mp (hdot tokens hscan)
  exact ofTokens_path_iff

theorem parse_eq_ok_iff {source : String} {p : Predicate} :
    parse source = .ok p ↔ p.source = source ∧ Expr.parse source = .ok p.expr := by
  unfold parse
  cases Expr.parse source with
  | error why => exact ⟨nofun, fun h => nomatch h.2⟩
  | ok e =>
    constructor
    · rintro ⟨⟩
      exact ⟨rfl, rfl⟩
    · rintro ⟨rfl, ⟨⟩⟩
      rfl

/-! ### Fields -/

/-- What is extracted is what the path leads to. -/
theorem extract_of_parsePath {source : String} {path : Path} (h : parsePath source = .ok path)
    (context : Json) : extract source context = .ok (path.lookup context) := by
  unfold extract
  rw [h]

/-- **A copy and a check see the same field.** A text that starts with a dot is a bare path exactly if the
expression it is read as is that path. What is extracted then is the value of that expression, and nothing
is extracted exactly where the expression fails for want of a path, which is this one. A text that is no
bare path is malformed as an expression, or it is an expression of another form. -/
theorem parsePath_agrees {source : String} (hdot : StartsWithDot source) (context : Json) :
    (∀ path, parsePath source = .ok path ↔ parse source = .ok ⟨source, .path path⟩) ∧
      (∀ path, parsePath source = .ok path →
        (∀ v, extract source context = .ok (some v) ↔ (Expr.path path).evaluate context = .ok v) ∧
        ∀ missing, (Expr.path path).evaluate context = .error (.missingPath missing) ↔
          missing = path ∧ extract source context = .ok none) ∧
      ∀ why, parsePath source = .error why →
        (∃ why', parse source = .error (.malformed source why')) ∨
          ∃ p, parse source = .ok p ∧ ∀ path, p.expr ≠ .path path := by
  refine ⟨fun path => ?_, fun path hpath => ?_, fun why hwhy => ?_⟩
  · rw [parse_eq_ok_iff, exprParse_path_iff hdot]
    exact ⟨fun h => ⟨rfl, h⟩, And.right⟩
  · rw [extract_of_parsePath hpath context]
    refine ⟨fun v => ?_, fun missing => ?_⟩
    · rw [evaluate_path_eq_ok_iff, Except.ok.injEq]
    · rw [evaluate_path_eq_missing_iff, Except.ok.injEq]
  · rcases (parse_iff_derives source).2 with ⟨p, hp⟩ | hmalformed
    · refine .inr ⟨p, hp, fun path hexpr => ?_⟩
      have hparse := (parse_eq_ok_iff.mp hp).2
      rw [hexpr, exprParse_path_iff hdot, hwhy] at hparse
      cases hparse
    · exact .inl hmalformed

/-- Words that join operands elsewhere are names after a dot, an index may count from the end, and a
negation ends a bare path. -/
theorem wordsAsNames_agree :
    (StartsWithDot ". not . or[-1]" ∧ parsePath ". not . or[-1]" = .ok [.key "not", .key "or", .index (-1)] ∧
      parse ". not . or[-1]" = .ok ⟨". not . or[-1]", .path [.key "not", .key "or", .index (-1)]⟩ ∧
      extract ". not . or[-1]" (.object [("not", .object [("or", .array [])])]) = .ok none) ∧
    StartsWithDot ".not | not" ∧ parsePath ".not | not" = .error (.trailing .pipe) ∧
      ((∃ why, parse ".not | not" = .error (.malformed ".not | not" why)) ∨
        ∃ p, parse ".not | not" = .ok p ∧ ∀ path, p.expr ≠ .path path) := by
  have hdot : StartsWithDot ". not . or[-1]" := startsWithDot_of_scan (by decide +kernel)
  have hpath : parsePath ". not . or[-1]" = .ok [.key "not", .key "or", .index (-1)] := by decide +kernel
  have hagrees := parsePath_agrees hdot (.object [("not", .object [("or", .array [])])])
  have hdot' : StartsWithDot ".not | not" := startsWithDot_of_scan (by decide +kernel)
  have hwhy : parsePath ".not | not" = .error (.trailing .pipe) := by decide +kernel
  exact ⟨⟨hdot, hpath, (hagrees.1 _).mp hpath, (((hagrees.2.1 _ hpath).2 _).mp rfl).2⟩,
    hdot', hwhy, (parsePath_agrees hdot' .null).2.2 _ hwhy⟩

end Predicate

end HttpResource
