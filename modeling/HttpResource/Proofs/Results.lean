/-
# Results of steps that may fail

* `Except.bind_eq_ok_iff`, `Except.toOption_eq_some_iff`: when there is a result.
* `Except.bind_fails_iff`, `Except.map_fails_iff`, `Except.mapError_fails_iff`: when there is none.
-/
namespace HttpResource

variable {ε δ α β : Type} {x : Except ε α}

/-- Steps that may fail give a result if each of them does. -/
theorem Except.bind_eq_ok_iff {f : α → Except ε β} {b : β} :
    x >>= f = .ok b ↔ ∃ a, x = .ok a ∧ f a = .ok b := by
  constructor
  · intro h
    cases x with
    | error e => cases h
    | ok a => exact ⟨a, rfl, h⟩
  · rintro ⟨a, rfl, h⟩
    exact h

theorem Except.toOption_eq_some_iff {a : α} : x.toOption = some a ↔ x = .ok a := by
  cases x with
  | error e => exact iff_of_false nofun nofun
  | ok b => rw [Except.toOption, Option.some.injEq, Except.ok.injEq]

/-- Where the failure of a second step does not hang on the result of the first, two steps fail exactly if one
of them does. -/
theorem Except.bind_fails_iff {f : α → Except ε β} {p : Prop} (h : ∀ a, (∃ e, f a = .error e) ↔ p) :
    (∃ e, x >>= f = .error e) ↔ (∃ e, x = .error e) ∨ p := by
  cases x with
  | error e => exact ⟨fun _ => .inl ⟨e, rfl⟩, fun _ => ⟨e, rfl⟩⟩
  | ok a =>
    refine (h a).trans ⟨.inr, ?_⟩
    rintro (⟨e, he⟩ | hp)
    · cases he
    · exact hp

theorem Except.map_fails_iff {f : α → β} : (∃ e, x.map f = .error e) ↔ ∃ e, x = .error e := by
  cases x with
  | error e => exact iff_of_true ⟨e, rfl⟩ ⟨e, rfl⟩
  | ok a => exact iff_of_false nofun nofun

theorem Except.mapError_fails_iff {f : ε → δ} : (∃ e, x.mapError f = .error e) ↔ ∃ e, x = .error e := by
  cases x with
  | error e => exact iff_of_true ⟨f e, rfl⟩ ⟨e, rfl⟩
  | ok a => exact iff_of_false nofun nofun

end HttpResource
