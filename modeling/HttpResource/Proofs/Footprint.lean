/-
# What a predicate reads

Evaluation reads a context at the paths of the expression and nowhere else, and not at all of them: a left
operand of `and` or `or` may settle the result. The paths that are read, in their order, are the footprint
of the evaluation. Contexts that agree there give the same result, and the evaluation fails for want of a
path exactly if one of them is missing. So a predicate depends on the paths that it names alone, and one
that gives a verdict has found every path that no operand can spare it.

Key definitions: `Predicate.Expr.paths`, `Predicate.Expr.reads`, `Predicate.Expr.unconditional`.
Key theorems: `Predicate.evaluate_congr_of_reads`, `Predicate.evaluate_eq_missing_iff`,
`Predicate.evaluate_of_agreeing`, `Predicate.evaluate_finds`.
-/
import HttpResource.Proofs.Evaluation

namespace HttpResource

namespace Predicate

/-! ### Paths of an expression -/

namespace Expr

/-- All paths, as they stand in the expression. -/
def paths : Expr → List Path
  | .path p => [p]
  | .literal _ => []
  | .compare left _ right => left.paths ++ right.paths
  | .and left right => left.paths ++ right.paths
  | .or left right => left.paths ++ right.paths
  | .not inner => inner.paths

/-- The paths that are reached from the root through either side of a comparison, the operand of `not` and
the left operands of `and` and `or` alone. -/
def unconditional : Expr → List Path
  | .path p => [p]
  | .literal _ => []
  | .compare left _ right => left.unconditional ++ right.unconditional
  | .and left _ => left.unconditional
  | .or left _ => left.unconditional
  | .not inner => inner.unconditional

/-- Whether there is an `and` or an `or`. -/
def joins : Expr → Bool
  | .path _ => false
  | .literal _ => false
  | .compare left _ right => left.joins || right.joins
  | .and _ _ => true
  | .or _ _ => true
  | .not inner => inner.joins

/-- The paths that evaluation reads a context at, in order. -/
def reads (context : Json) : Expr → List Path
  | .path p => [p]
  | .literal _ => []
  | .compare left _ right =>
    left.reads context ++ if (left.evaluate context).isOk then right.reads context else []
  | .and left right =>
    left.reads context ++ if goesRight false (left.evaluate context) then right.reads context else []
  | .or left right =>
    left.reads context ++ if goesRight true (left.evaluate context) then right.reads context else []
  | .not inner => inner.reads context

/-- Without `and` and `or`, no path can be spared. -/
theorem unconditional_of_not_joins {e : Expr} (h : e.joins = false) : e.unconditional = e.paths := by
  induction e with
  | path p => rfl
  | literal v => rfl
  | compare left op right ihleft ihright =>
    obtain ⟨hleft, hright⟩ := Bool.or_eq_false_iff.mp h
    rw [unconditional, paths, ihleft hleft, ihright hright]
  | and => cases h
  | or => cases h
  | not inner ih => exact ih h

/-- A path of the right operand is read if the left one leaves the result to it. -/
theorem mem_reads_append {p : Path} {first rest : List Path} {more : Bool} :
    p ∈ first ++ (if more then rest else []) ↔ p ∈ first ∨ more = true ∧ p ∈ rest := by
  cases more <;> simp

theorem forall_mem_reads_append {first rest : List Path} {more : Bool} {P : Path → Prop} :
    (∀ p ∈ first ++ (if more then rest else []), P p) ↔
      (∀ p ∈ first, P p) ∧ (more = true → ∀ p ∈ rest, P p) := by
  cases more <;> simp [or_imp, forall_and]

theorem reads_subset (context : Json) (e : Expr) : e.reads context ⊆ e.paths := by
  intro p hp
  induction e with
  | path q => exact hp
  | literal v => exact hp
  | compare left op right ihleft ihright | and left right ihleft ihright | or left right ihleft ihright =>
    rcases mem_reads_append.mp hp with hp | ⟨-, hp⟩
    · exact List.mem_append_left _ (ihleft hp)
    · exact List.mem_append_right _ (ihright hp)
  | not inner ih => exact ih hp

end Expr

/-! ### The footprint -/

/-- Contexts that agree wherever one of them is read give the same result. -/
theorem evaluate_congr_of_reads {e : Expr} {context context' : Json}
    (h : ∀ p ∈ e.reads context, p.lookup context = p.lookup context') :
    e.evaluate context = e.evaluate context' := by
  -- Where a left operand ends the evaluation, the contexts may differ at the paths of the right one.
  induction e with
  | path p => rw [Expr.evaluate, Expr.evaluate, h p List.mem_cons_self]
  | literal v => rfl
  | compare left op right ihleft ihright =>
    obtain ⟨hleft, hright⟩ := Expr.forall_mem_reads_append.mp h
    rw [evaluate_compare, evaluate_compare, ← ihleft hleft]
    exact comparing_congr fun hmore => ihright (hright hmore)
  | and left right ihleft ihright =>
    obtain ⟨hleft, hright⟩ := Expr.forall_mem_reads_append.mp h
    rw [evaluate_and, evaluate_and, ← ihleft hleft]
    exact joining_congr fun hmore => ihright (hright hmore)
  | or left right ihleft ihright =>
    obtain ⟨hleft, hright⟩ := Expr.forall_mem_reads_append.mp h
    rw [evaluate_or, evaluate_or, ← ihleft hleft]
    exact joining_congr fun hmore => ihright (hright hmore)
  | not inner ih => rw [evaluate_not, evaluate_not, ih h]

/-- Evaluation fails for want of a path exactly if it reads the path and the path is missing. -/
theorem evaluate_eq_missing_iff {e : Expr} {context : Json} {p : Path} :
    e.evaluate context = .error (.missingPath p) ↔ p ∈ e.reads context ∧ p.lookup context = none := by
  induction e with
  | path q =>
    rw [evaluate_path_eq_missing_iff, Expr.reads, List.mem_singleton]
    exact and_congr_right fun h => by rw [h]
  | literal v => simp [evaluate_literal, Expr.reads]
  | compare left op right ihleft ihright =>
    rw [evaluate_compare, comparing_eq_missing_iff, ihleft, ihright, Expr.reads, Expr.mem_reads_append,
      or_and_right, and_assoc]
  | and left right ihleft ihright =>
    rw [evaluate_and, joining_eq_missing_iff, ihleft, ihright, Expr.reads, Expr.mem_reads_append,
      or_and_right, and_assoc]
  | or left right ihleft ihright =>
    rw [evaluate_or, joining_eq_missing_iff, ihleft, ihright, Expr.reads, Expr.mem_reads_append,
      or_and_right, and_assoc]
  | not inner ih => rw [evaluate_not, negating_eq_missing_iff, ih, Expr.reads]

/-- An evaluation that gives a value has read every unconditional path. -/
theorem unconditional_subset_reads {e : Expr} {context v : Json} (h : e.evaluate context = .ok v) :
    e.unconditional ⊆ e.reads context := by
  intro p hp
  induction e generalizing v with
  | path q => exact hp
  | literal w => exact hp
  | compare left op right ihleft ihright =>
    rw [evaluate_compare] at h
    obtain ⟨⟨a, hleft⟩, b, hright⟩ := ok_of_comparing h
    rcases List.mem_append.mp hp with hp | hp
    · exact Expr.mem_reads_append.mpr (.inl (ihleft hleft hp))
    · exact Expr.mem_reads_append.mpr (.inr ⟨by rw [hleft]; rfl, ihright hright hp⟩)
  | and left right ihleft _ =>
    rw [evaluate_and] at h
    obtain ⟨a, hleft⟩ := ok_of_joining h
    exact Expr.mem_reads_append.mpr (.inl (ihleft hleft hp))
  | or left right ihleft _ =>
    rw [evaluate_or] at h
    obtain ⟨a, hleft⟩ := ok_of_joining h
    exact Expr.mem_reads_append.mpr (.inl (ihleft hleft hp))
  | not inner ih =>
    rw [evaluate_not] at h
    obtain ⟨a, hinner⟩ := ok_of_negating h
    exact ih hinner hp

/-- Whatever an evaluation that gives a value has read was there. -/
theorem lookup_isSome_of_reads {e : Expr} {context v : Json} (h : e.evaluate context = .ok v) {p : Path}
    (hp : p ∈ e.reads context) : (p.lookup context).isSome = true := by
  cases hlookup : p.lookup context with
  | some w => rfl
  | none =>
    rw [evaluate_eq_missing_iff.mpr ⟨hp, hlookup⟩] at h
    cases h

/-! ### Verdicts -/

/-- A verdict is the value of the expression. -/
theorem evaluate_eq_ok_iff {p : Predicate} {context : Json} {verdict : Bool} :
    p.evaluate context = .ok verdict ↔ p.expr.evaluate context = .ok (.bool verdict) := by
  unfold evaluate
  cases p.expr.evaluate context with
  | error e => exact ⟨nofun, nofun⟩
  | ok v => cases v <;> simp [bind, Except.bind, pure, Except.pure, throw, throwThe, MonadExceptOf.throw]

/-- Where the expression fails, there is no verdict for the same reason. -/
theorem evaluate_eq_error {p : Predicate} {context : Json} {why : Error}
    (h : p.expr.evaluate context = .error why) : p.evaluate context = .error why := by
  unfold evaluate
  rw [h]
  rfl

/-- **A predicate depends on the paths that it names and on nothing else.** Contexts that have the same at
each of them, a value or nothing, give the same verdict or the same error. -/
theorem evaluate_of_agreeing {p : Predicate} {context context' : Json}
    (h : ∀ path ∈ p.expr.paths, path.lookup context = path.lookup context') :
    p.evaluate context = p.evaluate context' := by
  have hexpr : p.expr.evaluate context = p.expr.evaluate context' :=
    evaluate_congr_of_reads fun path hpath => h path (p.expr.reads_subset context hpath)
  unfold evaluate
  rw [hexpr]

/-- Looks at the result of a job. -/
def resultCheck : Predicate where
  source := ".result == .wanted"
  expr := .compare (.path [.key "result"]) .eq (.path [.key "wanted"])

/-- Looks at the result of a job once the job is done. -/
def doneCheck : Predicate where
  source := ".done and .result == .wanted"
  expr := .and (.path [.key "done"]) resultCheck.expr

/-- A field that the check does not name has no say, not even where the check fails. -/
theorem doneCheck_ignores_log :
    doneCheck.evaluate (.object [("done", .bool true), ("log", .string "ok"), ("result", .string "ok")]) =
      doneCheck.evaluate (.object [("done", .bool true), ("result", .string "ok")]) := by
  refine evaluate_of_agreeing fun path hpath => ?_
  simp only [doneCheck, resultCheck, Expr.paths, List.cons_append, List.nil_append, List.mem_cons, List.not_mem_nil,
    or_false] at hpath
  rcases hpath with rfl | rfl | rfl <;> rfl

/-- **A missing field that must be read is an error.** Where the expression has a value, and so where there
is a verdict, every unconditional path exists. Without `and` and `or` that is every path: one that is missing
is an error, whatever is found at the others. -/
theorem evaluate_finds (p : Predicate) (context : Json) :
    (∀ v, p.expr.evaluate context = .ok v →
        ∀ path ∈ p.expr.unconditional, (path.lookup context).isSome = true) ∧
      (∀ verdict, p.evaluate context = .ok verdict →
        ∀ path ∈ p.expr.unconditional, (path.lookup context).isSome = true) ∧
      (p.expr.joins = false → ∀ path ∈ p.expr.paths, path.lookup context = none →
        ∃ why, p.expr.evaluate context = .error why ∧ p.evaluate context = .error why) := by
  have hfound : ∀ v, p.expr.evaluate context = .ok v →
      ∀ path ∈ p.expr.unconditional, (path.lookup context).isSome = true :=
    fun v hv path hpath => lookup_isSome_of_reads hv (unconditional_subset_reads hv hpath)
  refine ⟨hfound, fun verdict hverdict => hfound _ (evaluate_eq_ok_iff.mp hverdict),
    fun hplain path hpath hmissing => ?_⟩
  cases hresult : p.expr.evaluate context with
  | error why => exact ⟨why, rfl, evaluate_eq_error hresult⟩
  | ok v =>
    rw [← Expr.unconditional_of_not_joins hplain] at hpath
    have hsome := hfound v hresult path hpath
    rw [hmissing] at hsome
    cases hsome

/-- A job that is not done has a verdict without a result, but a result cannot be compared with nothing. -/
theorem doneCheck_finds :
    (doneCheck.evaluate (.object [("done", .bool false)]) = .ok false ∧
      (Path.lookup [.key "done"] (.object [("done", .bool false)])).isSome = true) ∧
    ∃ why, resultCheck.evaluate (.object [("result", .null)]) = .error why := by
  have hverdict : doneCheck.evaluate (.object [("done", .bool false)]) = .ok false := rfl
  refine ⟨⟨hverdict, (evaluate_finds _ _).2.1 _ hverdict _ List.mem_cons_self⟩, ?_⟩
  obtain ⟨why, -, hwhy⟩ := (evaluate_finds resultCheck (.object [("result", .null)])).2.2 rfl
    [.key "wanted"] (by decide) rfl
  exact ⟨why, hwhy⟩

end Predicate

end HttpResource
