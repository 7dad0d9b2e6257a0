/-
# Results of operators

An operator works on the results of its operands, each a value or an error. A comparison needs both. `and`
and `or` are one operator with the two truth values exchanged: a left operand that is `stop` settles the
result, and only otherwise the right one counts. Errors come out in the order of evaluation, and no operator
reports a missing path of its own.

Key definitions: `Predicate.comparing`, `Predicate.joining`, `Predicate.negating`.
Key theorems: `Predicate.comparing_eq_missing_iff`, `Predicate.joining_eq_missing_iff`,
`Predicate.negating_eq_missing_iff`.
-/
import HttpResource.Predicate

namespace HttpResource

namespace Predicate

/-- What evaluation gives. -/
abbrev Result := Except Error Json

/-- A result as an operand of a boolean operator. -/
def truth (operator : String) : Result → Except Error Bool
  | .ok v => asBool operator v
  | .error e => .error e

@[simp] theorem truth_bool (operator : String) (b : Bool) : truth operator (.ok (.bool b)) = .ok b := rfl

def comparing (op : Comparison) : Result → Result → Result
  | .error e, _ => .error e
  | .ok _, .error e => .error e
  | .ok a, .ok b => ((holds op a b).mapError .typeMismatch).map .bool

/-- `and` with `stop` false, `or` with `stop` true. -/
def joining (operator : String) (stop : Bool) (left right : Result) : Result :=
  match truth operator left with
  | .error e => .error e
  | .ok a => if a = stop then .ok (.bool stop) else (truth operator right).map .bool

def negating (inner : Result) : Result := (truth "not" inner).map fun b => .bool !b

/-- Whether a left operand of `and` or `or` leaves the result to the right one. -/
def goesRight (stop : Bool) : Result → Bool
  | .ok (.bool b) => b != stop
  | _ => false

/-! ### Expressions -/

section

variable (context : Json)

theorem evaluate_literal (v : Json) : (Expr.literal v).evaluate context = .ok v := rfl

theorem evaluate_path_eq_ok_iff {path : Path} {v : Json} :
    (Expr.path path).evaluate context = .ok v ↔ path.lookup context = some v := by
  unfold Expr.evaluate
  cases path.lookup context <;> simp

theorem evaluate_path_eq_missing_iff {path missing : Path} :
    (Expr.path path).evaluate context = .error (.missingPath missing) ↔
      missing = path ∧ path.lookup context = none := by
  unfold Expr.evaluate
  cases path.lookup context <;> simp [eq_comm]

theorem evaluate_compare (left : Expr) (op : Comparison) (right : Expr) :
    (Expr.compare left op right).evaluate context =
      comparing op (left.evaluate context) (right.evaluate context) := by
  rw [Expr.evaluate]
  cases left.evaluate context with
  | error e => rfl
  | ok a => cases right.evaluate context <;> rfl

theorem evaluate_and (left right : Expr) : (Expr.and left right).evaluate context =
    joining "and" false (left.evaluate context) (right.evaluate context) := by
  rw [Expr.evaluate]
  cases left.evaluate context with
  | error e => rfl
  | ok v =>
    cases v with
    | bool b => cases b <;> cases right.evaluate context <;> rfl
    | _ => rfl

theorem evaluate_or (left right : Expr) : (Expr.or left right).evaluate context =
    joining "or" true (left.evaluate context) (right.evaluate context) := by
  rw [Expr.evaluate]
  cases left.evaluate context with
  | error e => rfl
  | ok v =>
    cases v with
    | bool b => cases b <;> cases right.evaluate context <;> rfl
    | _ => rfl

theorem evaluate_not (inner : Expr) :
    (Expr.not inner).evaluate context = negating (inner.evaluate context) := by
  rw [Expr.evaluate]
  cases inner.evaluate context <;> rfl

end

section

variable {op : Comparison} {operator : String} {stop : Bool} {left right right' inner : Result} {v : Json}

/-! ### Values -/

theorem ok_of_comparing (h : comparing op left right = .ok v) :
    (∃ a, left = .ok a) ∧ ∃ b, right = .ok b := by
  cases left with
  | error e => cases h
  | ok a =>
    cases right with
    | error e => cases h
    | ok b => exact ⟨⟨a, rfl⟩, b, rfl⟩

theorem ok_of_joining (h : joining operator stop left right = .ok v) : ∃ a, left = .ok a := by
  cases left with
  | error e => cases h
  | ok a => exact ⟨a, rfl⟩

theorem ok_of_negating (h : negating inner = .ok v) : ∃ a, inner = .ok a := by
  cases inner with
  | error e => cases h
  | ok a => exact ⟨a, rfl⟩

/-- The right operand of a comparison does not count where the left one fails. -/
theorem comparing_congr (h : left.isOk = true → right = right') :
    comparing op left right = comparing op left right' := by
  cases left with
  | error e => rfl
  | ok a => rw [h rfl]

/-- The right operand of `and` or `or` does not count where the left one settles the result or fails. -/
theorem joining_congr (h : goesRight stop left = true → right = right') :
    joining operator stop left right = joining operator stop left right' := by
  cases hright : goesRight stop left with
  | true => rw [h hright]
  | false =>
    cases left with
    | error e => rfl
    | ok a =>
      cases a with
      | bool b =>
        have hb : b = stop := by simpa [goesRight] using hright
        simp only [joining, truth_bool, hb, if_true]
      | _ => rfl

/-! ### Missing paths -/

variable {path : Path}

theorem truth_eq_missing_iff :
    truth operator inner = .error (.missingPath path) ↔ inner = .error (.missingPath path) := by
  cases inner with
  | error e => simp [truth]
  | ok v => cases v <;> simp [truth, asBool]

/-- A result is mapped to one with the same error. -/
theorem map_eq_error_iff {ε α β : Type} {x : Except ε α} {f : α → β} {e : ε} :
    x.map f = .error e ↔ x = .error e := by
  cases x <;> simp [Except.map]

theorem comparing_eq_missing_iff : comparing op left right = .error (.missingPath path) ↔
    left = .error (.missingPath path) ∨ left.isOk = true ∧ right = .error (.missingPath path) := by
  cases left with
  | error e => simp [comparing, Except.isOk, Except.toBool]
  | ok a =>
    cases right with
    | error e => simp [comparing, Except.isOk, Except.toBool]
    | ok b =>
      rw [comparing, map_eq_error_iff]
      have hright : ¬(Except.ok a = Except.error (Error.missingPath path) ∨
          (Except.ok a : Result).isOk = true ∧ Except.ok b = Except.error (Error.missingPath path)) := by simp
      cases holds op a b with
      | error e => exact iff_of_false nofun hright
      | ok x => exact iff_of_false nofun hright

theorem joining_eq_missing_iff : joining operator stop left right = .error (.missingPath path) ↔
    left = .error (.missingPath path) ∨
      goesRight stop left = true ∧ right = .error (.missingPath path) := by
  cases left with
  | error e => simp [joining, truth, goesRight]
  | ok a =>
    cases a with
    | bool b =>
      by_cases hb : b = stop
      · simp [joining, goesRight, hb]
      · simp [joining, goesRight, hb, map_eq_error_iff, truth_eq_missing_iff]
    | _ => simp [joining, truth, asBool, goesRight]

theorem negating_eq_missing_iff :
    negating inner = .error (.missingPath path) ↔ inner = .error (.missingPath path) := by
  rw [negating, map_eq_error_iff, truth_eq_missing_iff]

end

end Predicate

end HttpResource
