/-
# The value of durations

A duration is counted in whole nanoseconds, held at a limit of 128 bits. Held sums and products are the true
ones held once at the end (`Duration.totalNanos_eq`), so below the limit a duration counts what its
components count.

What a component counts differs from what it means in the digits after its point. Each of them is worth a
tenth of the one before in whole nanoseconds, so a digit is exact as long as its worth is. A unit is 36, 6
or 1 nanoseconds after as many tenths as it has exact places, and what is lost after them is less than a
nanosecond, except in minutes, where it is less than 6, and hours: there one more digit is counted, by 3 in
place of 3.6, and all is less than 9 (`Duration.TimeUnit.shortfall_lt`).

Key definitions: `Duration.fractionNanos`, `Duration.Component.counted`, `Duration.Component.value`,
`Duration.totalValue`, `Duration.TimeUnit.tolerance`.
Key theorems: `Duration.totalNanos_eq`, `Duration.TimeUnit.shortfall_lt`, `Duration.TimeUnit.exact_of_le`,
`Duration.parse_measures`.
-/
import HttpResource.Proofs.DurationText
import Mathlib.Algebra.BigOperators.Ring.Finset
import Mathlib.Algebra.Order.BigOperators.Group.List
import Mathlib.Data.Nat.Cast.Order.Field
import Mathlib.Data.Rat.Floor
import Mathlib.Tactic.FieldSimp
import Mathlib.Tactic.Linarith
import Mathlib.Tactic.Positivity
import Mathlib.Tactic.Ring

namespace HttpResource

namespace Duration

/-! ### What is counted -/

/-- What the digits after the point count, if nothing is held at the limit. -/
def fractionNanos (place : ℕ) : List Char → ℕ
  | [] => 0
  | c :: rest => digitValue c * (place / 10) + fractionNanos (place / 10) rest

theorem fractionNanos_of_lt_ten {place : ℕ} (h : place < 10) (ds : List Char) :
    fractionNanos place ds = 0 := by
  induction ds generalizing place with
  | nil => rfl
  | cons c ds ih =>
    have hnext : place / 10 = 0 := Nat.div_eq_of_lt h
    rw [fractionNanos, hnext, ih (by omega), Nat.mul_zero]

/-- Holding each partial sum at the limit holds the whole. -/
theorem addFraction_eq {n : ℕ} (h : n ≤ limit) (place : ℕ) (ds : List Char) :
    addFraction n place ds = min limit (n + fractionNanos place ds) := by
  induction ds generalizing n place with
  | nil =>
    rw [addFraction, fractionNanos]
    omega
  | cons c ds ih =>
    rw [addFraction, fractionNanos]
    by_cases hplace : place / 10 = 0
    · rw [if_pos hplace, hplace, fractionNanos_of_lt_ten (by omega)]
      omega
    · rw [if_neg hplace, ih (Nat.min_le_left _ _)]
      omega

/-- What a component counts, if nothing is held at the limit. -/
def Component.counted (c : Component) : ℕ :=
  digitsValue c.whole * c.unit.scale + fractionNanos c.unit.scale c.fraction

theorem Component.nanos_eq (c : Component) : c.nanos = min limit c.counted := by
  rw [Component.nanos, addFraction_eq (Nat.min_le_left _ _), Component.counted]
  omega

theorem totalNanos_eq (cs : List Component) :
    totalNanos cs = min limit (cs.map Component.counted).sum := by
  have hfold : ∀ (cs : List Component) (n : ℕ), n ≤ limit →
      cs.foldl (fun total c => min limit (total + c.nanos)) n =
        min limit (n + (cs.map Component.counted).sum) := by
    intro cs
    induction cs with
    | nil =>
      intro n hn
      rw [List.foldl_nil, List.map_nil, List.sum_nil]
      omega
    | cons c cs ih =>
      intro n hn
      rw [List.foldl_cons, ih _ (Nat.min_le_left _ _), List.map_cons, List.sum_cons, c.nanos_eq]
      omega
  have hwhole := hfold cs 0 (Nat.zero_le _)
  rwa [Nat.zero_add] at hwhole

/-- Within 64 bits of seconds no nanosecond is lost. -/
theorem toNanos_ofNanos {n : ℕ} (h : n < 2 ^ 64 * 10 ^ 9) : (ofNanos n).toNanos = n := by
  simp only [toNanos, ofNanos]
  omega

/-! ### What is meant -/

/-- Digits after a point, as a part of `x`. -/
def fractionValue (x : ℚ) (ds : List Char) : ℚ := digitsValue ds / 10 ^ ds.length * x

/-- The nanoseconds that a component stands for. -/
def Component.value (c : Component) : ℚ :=
  (digitsValue c.whole + digitsValue c.fraction / 10 ^ c.fraction.length) * c.unit.scale

/-- The nanoseconds that a run of components stands for. -/
def totalValue (cs : List Component) : ℚ := (cs.map Component.value).sum

theorem digitsValue_cons (c : Char) (ds : List Char) :
    digitsValue (c :: ds) = digitValue c * 10 ^ ds.length + digitsValue ds := by
  have hfold : ∀ (ds : List Char) (n : ℕ), ds.foldl (fun n c => n * 10 + digitValue c) n =
      n * 10 ^ ds.length + digitsValue ds := by
    intro ds
    induction ds with
    | nil => intro n; simp [digitsValue]
    | cons d ds ih =>
      intro n
      simp only [digitsValue, List.foldl_cons, List.length_cons]
      rw [ih (n * 10 + digitValue d), ih (0 * 10 + digitValue d)]
      ring
  have hwhole := hfold ds (digitValue c)
  rw [← hwhole, digitsValue, List.foldl_cons, Nat.zero_mul, Nat.zero_add]

theorem digitValue_le {c : Char} (h : isDigit c = true) : digitValue c ≤ 9 := by
  have hle : c ≤ '9' := by
    simp only [isDigit, Bool.and_eq_true, decide_eq_true_eq] at h
    exact h.2
  have hnine : c.toNat ≤ '9'.toNat := hle
  unfold digitValue
  have : '9'.toNat = '0'.toNat + 9 := rfl
  omega

theorem digitsValue_lt {ds : List Char} (h : ∀ c ∈ ds, isDigit c = true) :
    digitsValue ds < 10 ^ ds.length := by
  induction ds with
  | nil => simp [digitsValue]
  | cons c ds ih =>
    have hc := digitValue_le (h c List.mem_cons_self)
    have hds := ih fun d hd => h d (List.mem_cons_of_mem _ hd)
    rw [digitsValue_cons, List.length_cons, pow_succ]
    have hscaled : digitValue c * 10 ^ ds.length ≤ 9 * 10 ^ ds.length := Nat.mul_le_mul_right _ hc
    omega

/-- The first digit is worth a tenth. -/
theorem fractionValue_cons (x : ℚ) (c : Char) (ds : List Char) :
    fractionValue x (c :: ds) = digitValue c * (x / 10) + fractionValue (x / 10) ds := by
  simp only [fractionValue, digitsValue_cons, List.length_cons, pow_succ]
  push_cast
  field_simp

theorem fractionValue_lt {x : ℚ} (hx : 0 < x) {ds : List Char} (h : ∀ c ∈ ds, isDigit c = true) :
    fractionValue x ds < x := by
  have hlt : (digitsValue ds : ℚ) < 10 ^ ds.length := by exact_mod_cast digitsValue_lt h
  have hpart : (digitsValue ds : ℚ) / 10 ^ ds.length < 1 := by
    rw [div_lt_one (by positivity)]
    exact hlt
  unfold fractionValue
  nlinarith

/-! ### What is lost -/

/-- No more is counted than is meant. -/
theorem fractionNanos_le {place : ℕ} {x : ℚ} (h : place ≤ x) (ds : List Char) :
    (fractionNanos place ds : ℚ) ≤ fractionValue x ds := by
  induction ds generalizing place x with
  | nil => simp [fractionNanos, fractionValue, digitsValue]
  | cons c ds ih =>
    have hnext : ((place / 10 : ℕ) : ℚ) ≤ x / 10 := by
      calc ((place / 10 : ℕ) : ℚ) ≤ (place : ℚ) / 10 := by exact_mod_cast Nat.cast_div_le
        _ ≤ x / 10 := by linarith
    have hrest := ih hnext
    have hdigit : (digitValue c : ℚ) * ((place / 10 : ℕ) : ℚ) ≤ digitValue c * (x / 10) :=
      mul_le_mul_of_nonneg_left hnext (by positivity)
    rw [fractionNanos, fractionValue_cons]
    push_cast at hdigit hrest ⊢
    linarith

section

variable {lead : ℕ} {ds : List Char}

/-- The first places of a unit are exact. -/
theorem fractionNanos_cons_mul (k : ℕ) (c : Char) (ds : List Char) :
    fractionNanos (lead * 10 ^ (k + 1)) (c :: ds) =
      digitValue c * (lead * 10 ^ k) + fractionNanos (lead * 10 ^ k) ds := by
  have hnext : lead * 10 ^ (k + 1) / 10 = lead * 10 ^ k := by
    rw [pow_succ, ← Nat.mul_assoc, Nat.mul_div_cancel _ (by decide)]
  rw [fractionNanos, hnext]

theorem fractionValue_cons_mul (k : ℕ) (c : Char) (ds : List Char) :
    fractionValue (lead * 10 ^ (k + 1) : ℕ) (c :: ds) =
      digitValue c * (lead * 10 ^ k : ℕ) + fractionValue (lead * 10 ^ k : ℕ) ds := by
  have hnext : ((lead * 10 ^ (k + 1) : ℕ) : ℚ) / 10 = (lead * 10 ^ k : ℕ) := by
    push_cast
    rw [pow_succ]
    field_simp
  rw [fractionValue_cons, hnext]

/-- As many digits as there are exact places are counted as they are meant. -/
theorem fractionNanos_eq {k : ℕ} (h : ds.length ≤ k) :
    (fractionNanos (lead * 10 ^ k) ds : ℚ) = fractionValue (lead * 10 ^ k : ℕ) ds := by
  induction ds generalizing k with
  | nil => simp [fractionNanos, fractionValue, digitsValue]
  | cons c ds ih =>
    rw [List.length_cons] at h
    obtain ⟨k, rfl⟩ : ∃ k', k = k' + 1 := ⟨k - 1, by omega⟩
    have hrest := ih (k := k) (by omega)
    rw [fractionNanos_cons_mul, fractionValue_cons_mul, ← hrest]
    push_cast
    ring

/-- What is lost after the exact places is all that is lost. -/
theorem shortfall_lt_of_lead {t : ℚ} (h : ∀ ds : List Char, (∀ c ∈ ds, isDigit c = true) →
      fractionValue lead ds - fractionNanos lead ds < t) (k : ℕ) (hds : ∀ c ∈ ds, isDigit c = true) :
    fractionValue (lead * 10 ^ k : ℕ) ds - fractionNanos (lead * 10 ^ k) ds < t := by
  induction k generalizing ds with
  | zero =>
    have hlast := h ds hds
    simpa using hlast
  | succ k ih =>
    cases ds with
    | nil =>
      have hnone := h [] nofun
      simpa [fractionNanos, fractionValue, digitsValue] using hnone
    | cons c ds =>
      have hrest := ih fun d hd => hds d (List.mem_cons_of_mem _ hd)
      rw [fractionNanos_cons_mul, fractionValue_cons_mul]
      push_cast at hrest ⊢
      linarith

/-- A worth of less than ten is not divided further. -/
theorem shortfall_lt_of_lt_ten (hpos : 0 < lead) (hten : lead < 10) (hds : ∀ c ∈ ds, isDigit c = true) :
    fractionValue lead ds - fractionNanos lead ds < lead := by
  have hlead : (0 : ℚ) < lead := by exact_mod_cast hpos
  have hlt := fractionValue_lt hlead hds
  rw [fractionNanos_of_lt_ten hten]
  simpa using hlt

/-- Of 36 nanoseconds one more digit is counted, by 3 in place of 3.6. -/
theorem shortfall_thirtySix (hds : ∀ c ∈ ds, isDigit c = true) :
    fractionValue (36 : ℕ) ds - fractionNanos 36 ds < 9 := by
  cases ds with
  | nil => norm_num [fractionValue, fractionNanos, digitsValue]
  | cons c ds =>
    have hdigit : (digitValue c : ℚ) ≤ 9 := by exact_mod_cast digitValue_le (hds c List.mem_cons_self)
    have hlt := @fractionValue_lt (36 / 10) (by norm_num) ds
      fun d hd => hds d (List.mem_cons_of_mem _ hd)
    have hcounted : fractionNanos 36 (c :: ds) = digitValue c * 3 := by
      rw [fractionNanos, fractionNanos_of_lt_ten (by decide), Nat.add_zero]
    rw [hcounted, fractionValue_cons]
    push_cast
    linarith

end

/-! ### Units -/

namespace TimeUnit

/-- How many digits after the point are exact. -/
def places : TimeUnit → ℕ
  | hour => 11
  | minute => 10
  | second => 9
  | millisecond => 6
  | microsecond => 3
  | nanosecond => 0

/-- What the last exact place is worth. -/
def lead : TimeUnit → ℕ
  | hour => 36
  | minute => 6
  | _ => 1

/-- A bound on the nanoseconds that are lost after the exact places. -/
def tolerance : TimeUnit → ℚ
  | hour => 9
  | minute => 9
  | _ => 1

theorem scale_eq (u : TimeUnit) : u.scale = u.lead * 10 ^ u.places := by
  cases u <;> rfl

theorem shortfall_lead (u : TimeUnit) {ds : List Char} (hds : ∀ c ∈ ds, isDigit c = true) :
    fractionValue u.lead ds - fractionNanos u.lead ds < u.tolerance := by
  cases u with
  | hour => exact shortfall_thirtySix hds
  | minute =>
    have hsix := @shortfall_lt_of_lt_ten 6 ds (by decide) (by decide) hds
    simp only [lead, tolerance]
    push_cast at hsix ⊢
    linarith
  | second | millisecond | microsecond | nanosecond =>
    have hone := @shortfall_lt_of_lt_ten 1 ds (by decide) (by decide) hds
    simpa [lead, tolerance] using hone

theorem shortfall_lt (u : TimeUnit) {ds : List Char} (hds : ∀ c ∈ ds, isDigit c = true) :
    fractionValue u.scale ds - fractionNanos u.scale ds < u.tolerance := by
  rw [u.scale_eq]
  exact shortfall_lt_of_lead (fun _ h => u.shortfall_lead h) u.places hds

theorem exact_of_le (u : TimeUnit) {ds : List Char} (h : ds.length ≤ u.places) :
    (fractionNanos u.scale ds : ℚ) = fractionValue u.scale ds := by
  rw [u.scale_eq]
  exact fractionNanos_eq h

end TimeUnit

/-! ### Components -/

namespace Component

variable {c : Component}

theorem value_eq (c : Component) :
    c.value = digitsValue c.whole * c.unit.scale + fractionValue c.unit.scale c.fraction := by
  rw [value, fractionValue, add_mul]

theorem counted_le (c : Component) : (c.counted : ℚ) ≤ c.value := by
  have hfraction := fractionNanos_le (le_refl (c.unit.scale : ℚ)) c.fraction
  rw [value_eq, counted]
  push_cast
  linarith

theorem value_lt (h : ∀ d ∈ c.fraction, isDigit d = true) : c.value < c.counted + c.unit.tolerance := by
  have hfraction := c.unit.shortfall_lt h
  rw [value_eq, counted]
  push_cast
  linarith

theorem counted_eq (h : c.fraction.length ≤ c.unit.places) : (c.counted : ℚ) = c.value := by
  rw [value_eq, counted, ← c.unit.exact_of_le h]
  push_cast
  rfl

end Component

theorem digits_of_written {s : List Char} {cs : List Component} (h : Written s cs) :
    ∀ c ∈ cs, ∀ d ∈ c.fraction, isDigit d = true := by
  induction h with
  | nil => nofun
  | cons first _ ih =>
    refine List.forall_mem_cons.mpr ⟨?_, ih⟩
    cases first with
    | mk hnumber =>
      cases hnumber with
      | whole => nofun
      | pointed _ places => exact places

/-! ### Runs of components -/

section

variable {cs : List Component}

theorem sum_counted_le (cs : List Component) : ((cs.map Component.counted).sum : ℚ) ≤ totalValue cs := by
  induction cs with
  | nil => simp [totalValue]
  | cons c cs ih =>
    have hfirst := c.counted_le
    simp only [totalValue, List.map_cons, List.sum_cons] at ih ⊢
    rw [Nat.cast_add]
    linarith

theorem totalValue_lt (hne : cs ≠ []) (h : ∀ c ∈ cs, ∀ d ∈ c.fraction, isDigit d = true) :
    totalValue cs < (cs.map Component.counted).sum + (cs.map (·.unit.tolerance)).sum := by
  have hlt : (cs.map Component.value).sum <
      (cs.map fun c => (c.counted : ℚ) + c.unit.tolerance).sum :=
    List.sum_lt_sum_of_ne_nil hne _ _ fun c hc => Component.value_lt (h c hc)
  rw [List.sum_map_add] at hlt
  simpa [totalValue, Nat.cast_list_sum, Function.comp_def] using hlt

theorem sum_counted_eq (h : ∀ c ∈ cs, c.fraction.length ≤ c.unit.places) :
    ((cs.map Component.counted).sum : ℚ) = totalValue cs := by
  induction cs with
  | nil => simp [totalValue]
  | cons c cs ih =>
    obtain ⟨hc, hcs⟩ := List.forall_mem_cons.mp h
    have hrest := ih hcs
    simp only [totalValue, List.map_cons, List.sum_cons] at hrest ⊢
    rw [Nat.cast_add, Component.counted_eq hc, hrest]

/-- Below 64 bits of seconds nothing is held, and the duration is what its components count. -/
theorem toNanos_ofNanos_totalNanos (h : totalValue cs < 2 ^ 64 * 10 ^ 9) :
    (ofNanos (totalNanos cs)).toNanos = (cs.map Component.counted).sum := by
  have hsum : (cs.map Component.counted).sum < 2 ^ 64 * 10 ^ 9 := by
    have hle := (sum_counted_le cs).trans_lt h
    exact_mod_cast hle
  have hlimit : limit = 2 ^ 128 - 1 := rfl
  have htotal : totalNanos cs = (cs.map Component.counted).sum := by
    rw [totalNanos_eq]
    omega
  rw [htotal, toNanos_ofNanos hsum]

end

/-- **A duration is read exactly if it is written by the grammar, and then within its tolerance.** A text has
one reading. Below 64 bits of seconds the result is never more than the text says, it is less by under 9
nanoseconds for each hour and minute component and by under one for each other, and it is exact where no
component has more digits after its point than its unit has exact places. -/
theorem parse_measures (s : String) :
    ((∃ d, parse s = .ok d) ↔ ∃ cs, cs ≠ [] ∧ Written (Text.trim s.toList) cs) ∧
      ∀ d cs, parse s = .ok d → Written (Text.trim s.toList) cs → totalValue cs < 2 ^ 64 * 10 ^ 9 →
        (d.toNanos : ℚ) ≤ totalValue cs ∧
        totalValue cs - d.toNanos < (cs.map (·.unit.tolerance)).sum ∧
        ((∀ c ∈ cs, c.fraction.length ≤ c.unit.places) → (d.toNanos : ℚ) = totalValue cs) := by
  refine ⟨⟨fun ⟨d, h⟩ => ?_, fun ⟨cs, hne, h⟩ => ?_⟩, fun d cs h hwritten hsmall => ?_⟩
  · obtain ⟨cs, hne, hwritten, -⟩ := parse_eq_ok_iff.mp h
    exact ⟨cs, hne, hwritten⟩
  · exact ⟨_, parse_eq_ok_iff.mpr ⟨cs, hne, h, rfl⟩⟩
  · obtain ⟨cs', hne, hwritten', rfl⟩ := parse_eq_ok_iff.mp h
    cases written_unique hwritten' hwritten
    rw [toNanos_ofNanos_totalNanos hsmall]
    refine ⟨sum_counted_le cs, ?_, sum_counted_eq⟩
    have hlt := totalValue_lt hne (digits_of_written hwritten)
    linarith

/-- A text with one digit more than an hour has exact places. -/
def finePause : String := " .000000000009h2.5\u00b5s"

def finePauseComponents : List Component :=
  [⟨[], "000000000009".toList, .hour⟩, ⟨['2'], ['5'], .microsecond⟩]

/-- A text with as many digits as its units have exact places. -/
def roundPause : String := "1.m0.25s "

def roundPauseComponents : List Component := [⟨['1'], [], .minute⟩, ⟨['0'], ['2', '5'], .second⟩]

/-- The hours mean 32.4 nanoseconds and count 27, and the other text is exact. -/
theorem pauses_measured :
    (parse finePause = .ok { seconds := 0, nanos := 2527 } ∧
      Written (Text.trim finePause.toList) finePauseComponents ∧
      totalValue finePauseComponents = 25324 / 10 ∧
      totalValue finePauseComponents - (2527 : ℕ) < (finePauseComponents.map (·.unit.tolerance)).sum) ∧
    parse roundPause = .ok { seconds := 60, nanos := 250000000 } ∧
      Written (Text.trim roundPause.toList) roundPauseComponents ∧
      (60250000000 : ℕ) = totalValue roundPauseComponents := by
  have hfine : parse finePause = .ok { seconds := 0, nanos := 2527 } := rfl
  have hround : parse roundPause = .ok { seconds := 60, nanos := 250000000 } := rfl
  have hfineText : Written (Text.trim finePause.toList) finePauseComponents :=
    (components_eq_ok_iff [] (Nat.le_refl _)).mp rfl
  have hroundText : Written (Text.trim roundPause.toList) roundPauseComponents :=
    (components_eq_ok_iff [] (Nat.le_refl _)).mp rfl
  have hfineValue : totalValue finePauseComponents = 25324 / 10 := by
    have hnone : digitsValue [] = 0 := rfl
    have hhours : digitsValue "000000000009".toList = 9 := rfl
    have hplaces : "000000000009".toList.length = 12 := rfl
    have hwhole : digitsValue ['2'] = 2 := rfl
    have hhalf : digitsValue ['5'] = 5 := rfl
    norm_num [totalValue, finePauseComponents, Component.value, TimeUnit.scale, hnone, hhours, hplaces,
      hwhole, hhalf]
  have hroundValue : totalValue roundPauseComponents = 60250000000 := by
    have hnone : digitsValue [] = 0 := rfl
    have hminute : digitsValue ['1'] = 1 := rfl
    have hzero : digitsValue ['0'] = 0 := rfl
    have hquarter : digitsValue ['2', '5'] = 25 := rfl
    norm_num [totalValue, roundPauseComponents, Component.value, TimeUnit.scale, hnone, hminute, hzero,
      hquarter]
  have hfineSmall : totalValue finePauseComponents < 2 ^ 64 * 10 ^ 9 := by
    rw [hfineValue]
    norm_num
  have hroundSmall : totalValue roundPauseComponents < 2 ^ 64 * 10 ^ 9 := by
    rw [hroundValue]
    norm_num
  have hplaces : ∀ c ∈ roundPauseComponents, c.fraction.length ≤ c.unit.places := by decide
  refine ⟨⟨hfine, hfineText, hfineValue, ?_⟩, hround, hroundText, ?_⟩
  · exact ((parse_measures finePause).2 _ _ hfine hfineText hfineSmall).2.1
  · exact ((parse_measures roundPause).2 _ _ hround hroundText hroundSmall).2.2 hplaces

end Duration

end HttpResource
