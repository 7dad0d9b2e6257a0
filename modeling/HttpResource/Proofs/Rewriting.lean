/-
# Rewriting checks

The operators `and`, `or` and `not` work on three outcomes: true, false and an error. Operands are taken in
order, and a left one that settles the result hides what the right one would have been, so operands cannot
be exchanged. The laws that keep their order do hold: both operators are associative, `not` exchanges
them, and `and` distributes over an `or` on its right. On the truths of the operands they hold exactly,
errors included (`sequel_assoc`, `map_not_sequel`, `sequel_distrib`). An operator takes the truth of an
operand and names itself where that is no boolean, so where a law exchanges operators the results agree
up to the message of a type error. Agreement goes through every operator, and a check may be rewritten at any
depth without an error becoming a verdict or a verdict an error (`Predicate.evaluate_rewritten`).

Key definitions: `Predicate.Agree`, `Predicate.sequel`, `Predicate.Rewrites`.
Key theorems: `Predicate.agree_negating_joining`, `Predicate.agree_joining_joining`,
`Predicate.agree_of_rewrites`, `Predicate.evaluate_rewritten`.
-/
import HttpResource.Proofs.Footprint

namespace HttpResource

namespace Predicate

/-! ### Truths -/

/-- `and` with `stop` false and `or` with `stop` true, on the truths of the operands. -/
def sequel (stop : Bool) (left right : Except Error Bool) : Except Error Bool :=
  match left with
  | .error e => .error e
  | .ok a => if a = stop then .ok stop else right

section

variable (stop : Bool) (x y z : Except Error Bool)

theorem sequel_assoc : sequel stop (sequel stop x y) z = sequel stop x (sequel stop y z) := by
  cases x with
  | error e => rfl
  | ok a =>
    by_cases ha : a = stop
    · simp [sequel, ha]
    · simp [sequel, ha]

theorem map_not_sequel :
    (sequel stop x y).map not = sequel (!stop) (x.map not) (y.map not) := by
  cases x with
  | error e => rfl
  | ok a =>
    by_cases ha : a = stop
    · simp [sequel, ha, Except.map]
    · have hnot : (!a) ≠ (!stop) := by simpa using ha
      simp [sequel, ha, hnot, Except.map]

/-- Where the left operand settles the result, both copies of it do. -/
theorem sequel_distrib :
    sequel stop x (sequel (!stop) y z) = sequel (!stop) (sequel stop x y) (sequel stop x z) := by
  cases x with
  | error e => rfl
  | ok a =>
    by_cases ha : a = stop
    · simp [sequel, ha]
    · simp [sequel, ha]

end

section

variable {operator : String}

theorem truth_map_bool (x : Except Error Bool) : truth operator (x.map .bool) = x := by
  cases x <;> rfl

theorem joining_eq (stop : Bool) (left right : Result) : joining operator stop left right =
    (sequel stop (truth operator left) (truth operator right)).map .bool := by
  unfold joining sequel
  cases truth operator left with
  | error e => rfl
  | ok a =>
    by_cases ha : a = stop
    · simp [ha, Except.map]
    · simp [ha]

theorem negating_eq (inner : Result) : negating inner = ((truth "not" inner).map not).map .bool := by
  unfold negating
  cases truth "not" inner <;> rfl

end

/-! ### Agreement -/

/-- Equal outcomes, and any two type errors. -/
inductive Agree {α : Type} : Except Error α → Except Error α → Prop
  | same (x : Except Error α) : Agree x x
  | mismatch (e e' : TypeError) : Agree (.error (.typeMismatch e)) (.error (.typeMismatch e'))

namespace Agree

section

variable {α β : Type} {x x' x'' : Except Error α}

theorem symm (h : Agree x x') : Agree x' x := by
  cases h with
  | same => exact .same _
  | mismatch e e' => exact .mismatch e' e

theorem trans (h : Agree x x') (h' : Agree x' x'') : Agree x x'' := by
  cases h with
  | same => exact h'
  | mismatch e e' =>
    cases h' with
    | same => exact .mismatch e e'
    | mismatch _ e'' => exact .mismatch e e''

theorem map (h : Agree x x') (f : α → β) : Agree (x.map f) (x'.map f) := by
  cases h with
  | same => exact .same _
  | mismatch e e' => exact .mismatch e e'

/-- Outcomes that agree give the same values. -/
theorem ok_iff (h : Agree x x') (a : α) : x = .ok a ↔ x' = .ok a := by
  cases h with
  | same => exact Iff.rfl
  | mismatch e e' => exact ⟨nofun, nofun⟩

end

section

variable {left left' right right' inner inner' : Result}

/-- An operator names itself in a type error, and that is all that is seen of it. -/
theorem truth (h : Agree inner inner') (operator operator' : String) :
    Agree (truth operator inner) (truth operator' inner') := by
  cases h with
  | same =>
    cases inner with
    | error e => exact .same _
    | ok v =>
      cases v with
      | bool b => exact .same _
      | _ => exact .mismatch _ _
  | mismatch e e' => exact .mismatch e e'

theorem sequel {x x' y y' : Except Error Bool} (hx : Agree x x') (hy : Agree y y') (stop : Bool) :
    Agree (sequel stop x y) (sequel stop x' y') := by
  cases hx with
  | same =>
    cases x with
    | error e => exact .same _
    | ok a =>
      by_cases ha : a = stop
      · simp only [Predicate.sequel, ha, if_true]
        exact .same _
      · simp only [Predicate.sequel, ha, if_false]
        exact hy
  | mismatch e e' => exact .mismatch e e'

theorem joining (hleft : Agree left left') (hright : Agree right right') (operator : String)
    (stop : Bool) : Agree (joining operator stop left right) (joining operator stop left' right') := by
  rw [joining_eq, joining_eq]
  exact ((hleft.truth _ _).sequel (hright.truth _ _) stop).map _

theorem negating (h : Agree inner inner') : Agree (negating inner) (negating inner') :=
  (h.truth _ _).map _

theorem comparing (hleft : Agree left left') (hright : Agree right right') (op : Comparison) :
    Agree (comparing op left right) (comparing op left' right') := by
  cases hleft with
  | same =>
    cases left with
    | error e => exact .same _
    | ok a =>
      cases hright with
      | same => exact .same _
      | mismatch e e' => exact .mismatch e e'
  | mismatch e e' => exact .mismatch e e'

end

end Agree

/-! ### Laws on results -/

section

variable (operator operator' : String) (stop : Bool) (left right third : Result)

theorem joining_assoc : joining operator stop (joining operator stop left right) third =
    joining operator stop left (joining operator stop right third) := by
  simp only [joining_eq, truth_map_bool]
  rw [sequel_assoc]

/-- `not` exchanges the operators. -/
theorem agree_negating_joining : Agree (negating (joining operator stop left right))
    (joining operator' (!stop) (negating left) (negating right)) := by
  have htruths : Agree (sequel (!stop) ((truth operator left).map not) ((truth operator right).map not))
      (sequel (!stop) ((truth "not" left).map not) ((truth "not" right).map not)) :=
    Agree.sequel (((Agree.same left).truth _ _).map not) (((Agree.same right).truth _ _).map not) _
  simp only [negating_eq, joining_eq, truth_map_bool]
  rw [map_not_sequel]
  exact htruths.map _

/-- An operator distributes over the other one on its right. -/
theorem agree_joining_joining :
    Agree (joining operator stop left (joining operator' (!stop) right third))
      (joining operator' (!stop) (joining operator stop left right) (joining operator stop left third)) := by
  have htruths : Agree
      (sequel stop (truth operator left)
        (sequel (!stop) (truth operator' right) (truth operator' third)))
      (sequel stop (truth operator left)
        (sequel (!stop) (truth operator right) (truth operator third))) :=
    (Agree.same _).sequel
      (Agree.sequel ((Agree.same right).truth _ _) ((Agree.same third).truth _ _) _) _
  simp only [joining_eq, truth_map_bool]
  rw [← sequel_distrib]
  exact htruths.map _

end

/-! ### Checks -/

/-- One check is got from another by the laws, used in either direction and at any depth. -/
inductive Rewrites : Expr → Expr → Prop
  | and_assoc (a b c : Expr) : Rewrites ((a.and b).and c) (a.and (b.and c))
  | or_assoc (a b c : Expr) : Rewrites ((a.or b).or c) (a.or (b.or c))
  | not_and (a b : Expr) : Rewrites (a.and b).not (a.not.or b.not)
  | not_or (a b : Expr) : Rewrites (a.or b).not (a.not.and b.not)
  | and_or (a b c : Expr) : Rewrites (a.and (b.or c)) ((a.and b).or (a.and c))
  | refl (e : Expr) : Rewrites e e
  | symm {e e' : Expr} (h : Rewrites e e') : Rewrites e' e
  | trans {e e' e'' : Expr} (h : Rewrites e e') (h' : Rewrites e' e'') : Rewrites e e''
  | compare {a a' b b' : Expr} (ha : Rewrites a a') (op : Comparison) (hb : Rewrites b b') :
      Rewrites (.compare a op b) (.compare a' op b')
  | and {a a' b b' : Expr} (ha : Rewrites a a') (hb : Rewrites b b') : Rewrites (a.and b) (a'.and b')
  | or {a a' b b' : Expr} (ha : Rewrites a a') (hb : Rewrites b b') : Rewrites (a.or b) (a'.or b')
  | not {a a' : Expr} (h : Rewrites a a') : Rewrites a.not a'.not

section

variable (a b c : Expr) (context : Json)

theorem evaluate_and_assoc :
    ((a.and b).and c).evaluate context = (a.and (b.and c)).evaluate context := by
  simp only [evaluate_and, joining_assoc]

theorem evaluate_or_assoc :
    ((a.or b).or c).evaluate context = (a.or (b.or c)).evaluate context := by
  simp only [evaluate_or, joining_assoc]

theorem agree_not_and :
    Agree ((a.and b).not.evaluate context) ((a.not.or b.not).evaluate context) := by
  simp only [evaluate_and, evaluate_or, evaluate_not]
  exact agree_negating_joining "and" "or" false _ _

theorem agree_not_or :
    Agree ((a.or b).not.evaluate context) ((a.not.and b.not).evaluate context) := by
  simp only [evaluate_and, evaluate_or, evaluate_not]
  exact agree_negating_joining "or" "and" true _ _

theorem agree_and_or :
    Agree ((a.and (b.or c)).evaluate context) (((a.and b).or (a.and c)).evaluate context) := by
  simp only [evaluate_and, evaluate_or]
  exact agree_joining_joining "and" "or" false _ _ _

end

/-- Rewriting keeps the result up to the message of a type error. -/
theorem agree_of_rewrites {e e' : Expr} (h : Rewrites e e') (context : Json) :
    Agree (e.evaluate context) (e'.evaluate context) := by
  induction h with
  | and_assoc a b c =>
    rw [evaluate_and_assoc]
    exact .same _
  | or_assoc a b c =>
    rw [evaluate_or_assoc]
    exact .same _
  | not_and a b => exact agree_not_and a b context
  | not_or a b => exact agree_not_or a b context
  | and_or a b c => exact agree_and_or a b c context
  | refl e => exact .same _
  | symm _ ih => exact ih.symm
  | trans _ _ ih ih' => exact ih.trans ih'
  | compare _ op _ iha ihb =>
    rw [evaluate_compare, evaluate_compare]
    exact iha.comparing ihb op
  | and _ _ iha ihb =>
    rw [evaluate_and, evaluate_and]
    exact iha.joining ihb _ _
  | or _ _ iha ihb =>
    rw [evaluate_or, evaluate_or]
    exact iha.joining ihb _ _
  | not _ ih =>
    rw [evaluate_not, evaluate_not]
    exact ih.negating

/-- **The boolean laws hold, errors included.** Both operators are associative; the laws that exchange
operators hold up to the message of a type error; and whatever is rewritten by them, wherever it stands in
a check, the check gives the same verdicts. -/
theorem evaluate_rewritten (context : Json) :
    (∀ a b c : Expr,
      ((a.and b).and c).evaluate context = (a.and (b.and c)).evaluate context ∧
      ((a.or b).or c).evaluate context = (a.or (b.or c)).evaluate context ∧
      Agree ((a.and b).not.evaluate context) ((a.not.or b.not).evaluate context) ∧
      Agree ((a.or b).not.evaluate context) ((a.not.and b.not).evaluate context) ∧
      Agree ((a.and (b.or c)).evaluate context) (((a.and b).or (a.and c)).evaluate context)) ∧
    ∀ e e' : Expr, Rewrites e e' →
      Agree (e.evaluate context) (e'.evaluate context) ∧
      ∀ (source source' : String) (verdict : Bool),
        (⟨source, e⟩ : Predicate).evaluate context = .ok verdict ↔
          (⟨source', e'⟩ : Predicate).evaluate context = .ok verdict := by
  refine ⟨fun a b c => ?_, fun e e' h => ?_⟩
  · exact ⟨evaluate_and_assoc a b c context, evaluate_or_assoc a b c context, agree_not_and a b context,
      agree_not_or a b context, agree_and_or a b c context⟩
  · have hagree := agree_of_rewrites h context
    refine ⟨hagree, fun source source' verdict => ?_⟩
    rw [evaluate_eq_ok_iff, evaluate_eq_ok_iff]
    exact hagree.ok_iff _

/-- A check that an answer is not ready, or has no owner. -/
def idleCheck : Expr :=
  .not (.and (.path [.key "ready"]) (.and (.path [.key "owner"]) (.path [.key "open"])))

/-- The same check with `not` at each of the paths. -/
def idleCheckSplit : Expr :=
  .or (.not (.path [.key "ready"])) (.or (.not (.path [.key "owner"])) (.not (.path [.key "open"])))

/-- The owner is a name and no boolean, and each check complains in its own words. -/
theorem idleCheck_rewritten :
    idleCheck.evaluate (.object [("owner", .string "ops"), ("ready", .bool true)]) =
        .error (.typeMismatch (.notBooleans "and" .string)) ∧
      idleCheckSplit.evaluate (.object [("owner", .string "ops"), ("ready", .bool true)]) =
        .error (.typeMismatch (.notBooleans "not" .string)) ∧
      Rewrites idleCheck idleCheckSplit ∧
      Agree (idleCheck.evaluate (.object [("owner", .string "ops"), ("ready", .bool true)]))
        (idleCheckSplit.evaluate (.object [("owner", .string "ops"), ("ready", .bool true)])) := by
  have hrewrites : Rewrites idleCheck idleCheckSplit :=
    (Rewrites.not_and _ _).trans ((Rewrites.refl _).or (.not_and _ _))
  exact ⟨rfl, rfl, hrewrites, ((evaluate_rewritten _).2 idleCheck idleCheckSplit hrewrites).1⟩

end Predicate

end HttpResource
