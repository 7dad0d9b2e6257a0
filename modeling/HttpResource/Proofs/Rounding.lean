/-
# Rounding to doubles

A double stands for a rational number, and a quotient is rounded to a double that stands for a nearest one
(`Binary64.ofRatio_nearest`). The quotient is put on the grid of the multiples of a power of two on which it
has 53 bits, or on the finest grid there is, and goes to a nearest multiple there; a double on a finer grid
lies below all 53-bit multiples and so is no nearer. A nearest double is missing only past
`2^1024 - 2^970`, half a unit above the greatest double, and there the result is infinite
(`Binary64.isFinite_ofRatio_iff`, for decimals `Binary64.isFinite_ofDecimal_iff`). What a double stands
for exactly is its own nearest one, so integers up to `2^53` are exact (`Binary64.value_ofInt`).

Key definitions: `Binary64.value`, `Binary64.IsDouble`, `Binary64.overflow`, `Binary64.Regular`.
Key theorems: `Binary64.equal_iff`, `Binary64.ofRatio_nearest`, `Binary64.isFinite_ofRatio_iff`,
`Binary64.value_ofInt`, `Binary64.isFinite_ofDecimal_iff`.
-/
import HttpResource.Binary64
import Mathlib.Algebra.Order.Field.Power
import Mathlib.Data.Rat.Floor
import Mathlib.Tactic.FieldSimp
import Mathlib.Tactic.Linarith
import Mathlib.Tactic.NormNum
import Mathlib.Tactic.Positivity
import Mathlib.Tactic.Ring

namespace HttpResource

namespace Binary64

/-! ### Values -/

/-- A magnitude with its sign. -/
def signed (negative : Bool) (q : ℚ) : ℚ := if negative then -q else q

@[simp] theorem signed_false (q : ℚ) : signed false q = q := rfl

@[simp] theorem signed_true (q : ℚ) : signed true q = -q := rfl

theorem signed_mul (negative : Bool) (q r : ℚ) : signed negative (q * r) = signed negative q * r := by
  cases negative <;> simp

theorem abs_signed (negative : Bool) {q : ℚ} (hq : 0 ≤ q) : |signed negative q| = q := by
  cases negative <;> simp [abs_of_nonneg hq]

/-- The number that a finite double stands for. -/
def value : Binary64 → ℚ
  | finite negative m e => signed negative (m * 2 ^ e)
  | _ => 0

/-- The numbers that doubles stand for. -/
def IsDouble (q : ℚ) : Prop :=
  ∃ (negative : Bool) (m : ℕ) (e : ℤ), m < 2 ^ 53 ∧ minExponent ≤ e ∧ e ≤ maxExponent ∧
    q = (finite negative m e).value

/-- Half a unit above the greatest double. -/
def overflow : ℚ := (2 ^ 54 - 1) * 2 ^ (970 : ℤ)

theorem twoTo_eq (k : ℕ) : twoTo k = 2 ^ k := rfl

theorem tenTo_eq (k : ℕ) : tenTo k = 10 ^ k := rfl

theorem IsDouble.neg {q : ℚ} (h : IsDouble q) : IsDouble (-q) := by
  obtain ⟨negative, m, e, hm, hmin, hmax, rfl⟩ := h
  refine ⟨!negative, m, e, hm, hmin, hmax, ?_⟩
  cases negative <;> simp [value]

/-- Brought to a common exponent, a double keeps its value. -/
theorem value_aligned (n₁ : Bool) (m₁ : ℕ) (e₁ : ℤ) (n₂ : Bool) (m₂ : ℕ) (e₂ : ℤ) :
    (finite n₁ m₁ e₁).value = (aligned n₁ m₁ e₁ n₂ m₂ e₂).1 * 2 ^ min e₁ e₂ ∧
      (finite n₂ m₂ e₂).value = (aligned n₁ m₁ e₁ n₂ m₂ e₂).2.1 * 2 ^ min e₁ e₂ := by
  have hshift : ∀ (m : ℕ) (e : ℤ), min e₁ e₂ ≤ e →
      (m : ℚ) * 2 ^ e = ((m * twoTo (e - min e₁ e₂).toNat : ℕ) : ℚ) * 2 ^ min e₁ e₂ := by
    intro m e he
    have hexponent : e = ((e - min e₁ e₂).toNat : ℤ) + min e₁ e₂ := by omega
    rw [twoTo_eq]
    push_cast
    rw [← zpow_natCast, mul_assoc, ← zpow_add₀ (by norm_num), ← hexponent]
  have h₁ := hshift m₁ e₁ (min_le_left _ _)
  have h₂ := hshift m₂ e₂ (min_le_right _ _)
  constructor
  · simp only [value, aligned]
    rw [h₁]
    cases n₁ <;> simp
  · simp only [value, aligned]
    rw [h₂]
    cases n₂ <;> simp

/-- Finite doubles are equal exactly if they stand for one number. -/
theorem equal_iff {x y : Binary64} (hx : x.isFinite = true) (hy : y.isFinite = true) :
    x.equal y = true ↔ x.value = y.value := by
  cases x with
  | infinite | nan => cases hx
  | finite n₁ m₁ e₁ =>
    cases y with
    | infinite | nan => cases hy
    | finite n₂ m₂ e₂ =>
      obtain ⟨h₁, h₂⟩ := value_aligned n₁ m₁ e₁ n₂ m₂ e₂
      have hunit : (2 : ℚ) ^ min e₁ e₂ ≠ 0 := by positivity
      have hcompare : (finite n₁ m₁ e₁).compare? (finite n₂ m₂ e₂) =
          some (compare (aligned n₁ m₁ e₁ n₂ m₂ e₂).1 (aligned n₁ m₁ e₁ n₂ m₂ e₂).2.1) := rfl
      rw [equal, hcompare, h₁, h₂, mul_left_inj' hunit]
      simp

/-- Numbers are comparable. -/
theorem compare?_isSome {x y : Binary64} (hx : x.isNan = false) (hy : y.isNan = false) :
    ∃ o, x.compare? y = some o := by
  cases x with
  | nan => cases hx
  | infinite | finite =>
    cases y with
    | nan => cases hy
    | infinite | finite => exact ⟨_, rfl⟩

/-! ### The nearest integer -/

section

variable {num den : ℕ}

/-- The quotient without its remainder, or one more; half a unit goes to the even one of the two. -/
theorem roundHalfEven_cases (num den : ℕ) :
    2 * (num % den) < den ∧ roundHalfEven num den = num / den ∨
      den < 2 * (num % den) ∧ roundHalfEven num den = num / den + 1 ∨
      2 * (num % den) = den ∧ roundHalfEven num den % 2 = 0 ∧
        (roundHalfEven num den = num / den ∨ roundHalfEven num den = num / den + 1) := by
  unfold roundHalfEven
  dsimp only
  by_cases hdown : 2 * (num % den) < den
  · exact .inl ⟨hdown, if_pos hdown⟩
  · rw [if_neg hdown]
    by_cases hup : den < 2 * (num % den)
    · exact .inr (.inl ⟨hup, if_pos hup⟩)
    · rw [if_neg hup]
      refine .inr (.inr ⟨by omega, ?_⟩)
      split <;> omega

theorem roundHalfEven_le (num : ℕ) (hden : 0 < den) :
    2 * (den * roundHalfEven num den) ≤ 2 * num + den := by
  have hsplit := Nat.div_add_mod num den
  have hlt := Nat.mod_lt num hden
  rcases roundHalfEven_cases num den with ⟨-, h⟩ | ⟨hup, h⟩ | ⟨htie, -, h | h⟩
  all_goals
    simp only [h, Nat.mul_add, Nat.mul_one]
    omega

theorem le_roundHalfEven (num : ℕ) (hden : 0 < den) :
    2 * num ≤ 2 * (den * roundHalfEven num den) + den := by
  have hsplit := Nat.div_add_mod num den
  have hlt := Nat.mod_lt num hden
  rcases roundHalfEven_cases num den with ⟨hdown, h⟩ | ⟨-, h⟩ | ⟨htie, -, h | h⟩
  all_goals
    simp only [h, Nat.mul_add, Nat.mul_one]
    omega

theorem roundHalfEven_near (num : ℕ) (hden : 0 < den) :
    |(roundHalfEven num den : ℚ) - num / den| ≤ 1 / 2 := by
  have hpos : (0 : ℚ) < den := by exact_mod_cast hden
  have hle : (2 : ℚ) * (den * roundHalfEven num den) ≤ 2 * num + den := by
    exact_mod_cast roundHalfEven_le num hden
  have hge : (2 : ℚ) * num ≤ 2 * (den * roundHalfEven num den) + den := by
    exact_mod_cast le_roundHalfEven num hden
  have hupper : (roundHalfEven num den : ℚ) - 1 / 2 ≤ num / den := by
    rw [le_div_iff₀ hpos]
    linarith
  have hlower : (num : ℚ) / den ≤ roundHalfEven num den + 1 / 2 := by
    rw [div_le_iff₀ hpos]
    linarith
  rw [abs_le]
  constructor <;> linarith

/-- No integer is nearer. -/
theorem roundHalfEven_nearest (num : ℕ) (hden : 0 < den) (k : ℤ) :
    |(roundHalfEven num den : ℚ) - num / den| ≤ |(k : ℚ) - num / den| := by
  have hnear := roundHalfEven_near num hden
  by_cases hk : k = roundHalfEven num den
  · rw [hk, Int.cast_natCast]
  · have hgap : (1 : ℚ) ≤ |(k : ℚ) - roundHalfEven num den| := by
      have hint : 1 ≤ |k - roundHalfEven num den| := Int.one_le_abs (sub_ne_zero.mpr hk)
      exact_mod_cast hint
    have htriangle := abs_sub_le (k : ℚ) (num / den) (roundHalfEven num den)
    rw [abs_sub_comm ((num : ℚ) / den)] at htriangle
    linarith

/-- Half a unit above an odd integer the next one is taken. -/
theorem succ_le_roundHalfEven_iff (num : ℕ) (hden : 0 < den) {k : ℕ} (hodd : k % 2 = 1) :
    k + 1 ≤ roundHalfEven num den ↔ (k : ℚ) + 1 / 2 ≤ num / den := by
  have hpos : (0 : ℚ) < den := by exact_mod_cast hden
  have hhalves : (k : ℚ) + 1 / 2 ≤ num / den ↔ 2 * (den * k) + den ≤ 2 * num := by
    rw [le_div_iff₀ hpos]
    constructor
    · intro h
      have hdouble : (2 * (den * k) + den : ℚ) ≤ 2 * num := by linarith
      exact_mod_cast hdouble
    · intro h
      have hdouble : (2 * (den * k) + den : ℚ) ≤ 2 * num := by exact_mod_cast h
      linarith
  rw [hhalves]
  constructor
  · intro h
    have hmul : den * (k + 1) ≤ den * roundHalfEven num den := Nat.mul_le_mul_left den h
    have hle := roundHalfEven_le num hden
    rw [Nat.mul_succ] at hmul
    omega
  · intro h
    by_contra hbelow
    -- The result is at most `k`, so the quotient is half a unit above it, and `k` is odd.
    have hmul : den * roundHalfEven num den ≤ den * k := Nat.mul_le_mul_left den (by omega)
    have hge := le_roundHalfEven num hden
    have hsame : den * roundHalfEven num den = den * k := by omega
    have hk : roundHalfEven num den = k := Nat.eq_of_mul_eq_mul_left hden hsame
    have hsplit := Nat.div_add_mod num den
    have hlt := Nat.mod_lt num hden
    rcases roundHalfEven_cases num den with ⟨hdown, hq⟩ | ⟨hup, hq⟩ | ⟨-, heven, -⟩
    · rw [hk] at hq
      rw [← hq] at hsplit
      omega
    · rw [hk] at hq
      rw [hq, Nat.mul_succ] at h
      omega
    · omega

/-! ### The grid -/

theorem scaleRatio_eq (num : ℕ) (hden : 0 < den) (e : ℤ) : 0 < (scaleRatio num den e).2 ∧
    ((scaleRatio num den e).1 : ℚ) / (scaleRatio num den e).2 = num / den / 2 ^ e := by
  cases e with
  | ofNat k =>
    refine ⟨Nat.mul_pos hden (Nat.two_pow_pos k), ?_⟩
    simp only [scaleRatio, twoTo_eq, Int.ofNat_eq_natCast, zpow_natCast]
    push_cast
    rw [div_div]
  | negSucc k =>
    refine ⟨hden, ?_⟩
    simp only [scaleRatio, twoTo_eq, zpow_negSucc]
    push_cast
    field_simp

theorem zpow_log2_le {n : ℕ} (hn : 0 < n) : (2 : ℚ) ^ (n.log2 : ℤ) ≤ n := by
  rw [zpow_natCast]
  exact_mod_cast Nat.log2_self_le hn.ne'

theorem lt_zpow_log2_succ (n : ℕ) : (n : ℚ) < 2 ^ ((n.log2 : ℤ) + 1) := by
  rw [← Nat.cast_succ, zpow_natCast]
  exact_mod_cast Nat.lt_log2_self

/-- An exponent for a quotient by the lengths of its two parts. -/
def estimate (num den : ℕ) : ℤ := (num.log2 : ℤ) - den.log2 - 52

/-- At the estimate the quotient has 52 or 53 bits. -/
theorem estimate_bounds (hnum : 0 < num) (hden : 0 < den) :
    2 ^ 51 * 2 ^ estimate num den ≤ (num : ℚ) / den ∧ (num : ℚ) / den < 2 ^ 53 * 2 ^ estimate num den := by
  have hpos : (0 : ℚ) < den := by exact_mod_cast hden
  constructor
  · rw [le_div_iff₀ hpos]
    calc 2 ^ 51 * 2 ^ estimate num den * (den : ℚ)
        ≤ 2 ^ 51 * 2 ^ estimate num den * 2 ^ ((den.log2 : ℤ) + 1) :=
          mul_le_mul_of_nonneg_left (lt_zpow_log2_succ den).le (by positivity)
      _ = 2 ^ (num.log2 : ℤ) := by
          rw [← zpow_natCast (2 : ℚ) 51, ← zpow_add₀ (by norm_num), ← zpow_add₀ (by norm_num), estimate]
          congr 1
          push_cast
          ring
      _ ≤ num := zpow_log2_le hnum
  · rw [div_lt_iff₀ hpos]
    calc (num : ℚ) < 2 ^ ((num.log2 : ℤ) + 1) := lt_zpow_log2_succ num
      _ = 2 ^ 53 * 2 ^ estimate num den * 2 ^ (den.log2 : ℤ) := by
          rw [← zpow_natCast (2 : ℚ) 53, ← zpow_add₀ (by norm_num), ← zpow_add₀ (by norm_num), estimate]
          congr 1
          push_cast
          ring
      _ ≤ 2 ^ 53 * 2 ^ estimate num den * den :=
          mul_le_mul_of_nonneg_left (zpow_log2_le hden) (by positivity)

/-- The exponent of the grid is that on which the quotient has 53 bits, if there is such a grid. -/
theorem exists_targetExponent (hnum : 0 < num) (hden : 0 < den) :
    ∃ e, targetExponent num den = max minExponent e ∧ 2 ^ 52 * 2 ^ e ≤ (num : ℚ) / den ∧
      (num : ℚ) / den < 2 ^ 53 * 2 ^ e := by
  have htarget : targetExponent num den = max minExponent
      (if (scaleRatio num den (estimate num den)).1 <
          (scaleRatio num den (estimate num den)).2 * twoTo 52 then estimate num den - 1
        else estimate num den) := rfl
  obtain ⟨hlow, hhigh⟩ := estimate_bounds hnum hden
  obtain ⟨hscaled, hratio⟩ := scaleRatio_eq num hden (estimate num den)
  rw [htarget]
  generalize estimate num den = e at hlow hhigh hscaled hratio ⊢
  have htest : (scaleRatio num den e).1 < (scaleRatio num den e).2 * twoTo 52 ↔
      (num : ℚ) / den < 2 ^ 52 * 2 ^ e := by
    have hscaledq : (0 : ℚ) < (scaleRatio num den e).2 := by exact_mod_cast hscaled
    rw [← div_lt_iff₀ (by positivity), ← hratio, div_lt_iff₀ hscaledq, twoTo_eq, mul_comm]
    exact_mod_cast Iff.rfl
  by_cases hsmall : (num : ℚ) / den < 2 ^ 52 * 2 ^ e
  · -- 52 bits, so one place more
    have hhalf : (2 : ℚ) ^ e = 2 * 2 ^ (e - 1) := by
      rw [zpow_sub_one₀ (by norm_num)]
      ring
    rw [if_pos (htest.mpr hsmall)]
    refine ⟨e - 1, rfl, ?_, ?_⟩
    · calc 2 ^ 52 * 2 ^ (e - 1) = 2 ^ 51 * 2 ^ e := by
              rw [hhalf]
              ring
          _ ≤ (num : ℚ) / den := hlow
    · calc (num : ℚ) / den < 2 ^ 52 * 2 ^ e := hsmall
          _ = 2 ^ 53 * 2 ^ (e - 1) := by
              rw [hhalf]
              ring
  · rw [if_neg (htest.not.mpr hsmall)]
    exact ⟨e, rfl, not_lt.mp hsmall, hhigh⟩

theorem lt_of_targetExponent (hnum : 0 < num) (hden : 0 < den) :
    (num : ℚ) / den < 2 ^ 53 * 2 ^ targetExponent num den := by
  obtain ⟨e, he, -, hlt⟩ := exists_targetExponent hnum hden
  refine hlt.trans_le (mul_le_mul_of_nonneg_left ?_ (by positivity))
  exact zpow_le_zpow_right₀ (by norm_num) (he ▸ le_max_right _ _)

theorem le_of_targetExponent (hnum : 0 < num) (hden : 0 < den)
    (h : minExponent < targetExponent num den) :
    2 ^ 52 * 2 ^ targetExponent num den ≤ (num : ℚ) / den := by
  obtain ⟨e, he, hle, -⟩ := exists_targetExponent hnum hden
  have heq : targetExponent num den = e := by omega
  rwa [heq]

theorem minExponent_le (num den : ℕ) : minExponent ≤ targetExponent num den := le_max_left _ _

/-- No multiple of the unit is nearer to the quotient. -/
theorem mantissa_nearest (num : ℕ) (hden : 0 < den) (e k : ℤ) :
    |(mantissa num den e : ℚ) * 2 ^ e - num / den| ≤ |(k : ℚ) * 2 ^ e - num / den| := by
  have hunit : (0 : ℚ) < 2 ^ e := by positivity
  obtain ⟨hscaled, hratio⟩ := scaleRatio_eq num hden e
  have hnearest := roundHalfEven_nearest (scaleRatio num den e).1 hscaled k
  have hmultiple : ∀ x : ℚ, |x * 2 ^ e - num / den| = |x - num / den / 2 ^ e| * 2 ^ e := by
    intro x
    rw [← abs_of_pos hunit, ← abs_mul, abs_of_pos hunit]
    congr 1
    field_simp
  rw [hratio] at hnearest
  rw [hmultiple, hmultiple]
  exact mul_le_mul_of_nonneg_right hnearest hunit.le

theorem mantissa_le (hnum : 0 < num) (hden : 0 < den) :
    mantissa num den (targetExponent num den) ≤ 2 ^ 53 := by
  have hlt := lt_of_targetExponent hnum hden
  generalize targetExponent num den = e at hlt ⊢
  obtain ⟨hscaled, hratio⟩ := scaleRatio_eq num hden e
  have hnear := roundHalfEven_near (scaleRatio num den e).1 hscaled
  rw [hratio, abs_le] at hnear
  have hquotient : (num : ℚ) / den / 2 ^ e < 2 ^ 53 := by
    rw [div_lt_iff₀ (by positivity)]
    exact hlt
  have hsucc : (mantissa num den e : ℚ) < (2 ^ 53 + 1 : ℕ) := by
    rw [mantissa]
    push_cast
    linarith [hnear.2]
  exact Nat.lt_succ_iff.mp (by exact_mod_cast hsucc)

/-- A quotient goes up to `2^53` units from half a unit below on. -/
theorem mantissa_eq_iff (hnum : 0 < num) (hden : 0 < den) :
    mantissa num den (targetExponent num den) = 2 ^ 53 ↔
      (2 ^ 54 - 1) * 2 ^ (targetExponent num den - 1) ≤ (num : ℚ) / den := by
  have hle := mantissa_le hnum hden
  generalize targetExponent num den = e at hle ⊢
  obtain ⟨hscaled, hratio⟩ := scaleRatio_eq num hden e
  have hsucc := succ_le_roundHalfEven_iff (scaleRatio num den e).1 hscaled
    (k := 2 ^ 53 - 1) (by norm_num)
  have hunit : (2 : ℚ) ^ e = 2 * 2 ^ (e - 1) := by
    rw [zpow_sub_one₀ (by norm_num)]
    ring
  have hnat : mantissa num den e = 2 ^ 53 ↔ 2 ^ 53 - 1 + 1 ≤ mantissa num den e := by omega
  rw [hnat, mantissa, hsucc, hratio, le_div_iff₀ (by positivity), hunit]
  push_cast
  have hsame : ((2 : ℚ) ^ 53 - 1 + 1 / 2) * (2 * 2 ^ (e - 1)) = (2 ^ 54 - 1) * 2 ^ (e - 1) := by
    ring
  norm_num at hsame ⊢
  rw [hsame]

/-! ### Rounding -/

theorem isFinite_bounded_iff (negative : Bool) (m : ℕ) (e : ℤ) :
    (bounded negative m e).isFinite = true ↔ e ≤ maxExponent := by
  rw [bounded]
  by_cases h : maxExponent < e
  · rw [if_pos h]
    exact iff_of_false Bool.false_ne_true (not_le.mpr h)
  · rw [if_neg h]
    exact iff_of_true rfl (not_lt.mp h)

theorem ofRatio_eq (hnum : 0 < num) (negative : Bool) : ofRatio negative num den =
    if mantissa num den (targetExponent num den) = 2 ^ 53 then
      bounded negative (2 ^ 52) (targetExponent num den + 1)
    else bounded negative (mantissa num den (targetExponent num den)) (targetExponent num den) := by
  rw [ofRatio, if_neg hnum.ne', ← twoTo_eq 53, ← twoTo_eq 52]

/-- A finite result is a multiple of the unit of the grid, within the range of the doubles. -/
theorem value_ofRatio (hnum : 0 < num) (hden : 0 < den)
    (hfinite : (ofRatio false num den).isFinite = true) :
    (ofRatio false num den).value =
        mantissa num den (targetExponent num den) * 2 ^ targetExponent num den ∧
      IsDouble (ofRatio false num den).value := by
  have hle := mantissa_le hnum hden
  have hmin := minExponent_le num den
  rw [ofRatio_eq hnum] at hfinite ⊢
  generalize targetExponent num den = e at hfinite hle hmin ⊢
  generalize mantissa num den e = m at hfinite hle ⊢
  by_cases hcarry : m = 2 ^ 53
  · rw [if_pos hcarry] at hfinite ⊢
    have hmax := (isFinite_bounded_iff _ _ _).mp hfinite
    rw [bounded, if_neg (not_lt.mpr hmax)]
    refine ⟨?_, false, 2 ^ 52, e + 1, by norm_num, by omega, hmax, rfl⟩
    rw [hcarry, value, signed_false, zpow_add_one₀ (by norm_num)]
    push_cast
    ring
  · rw [if_neg hcarry] at hfinite ⊢
    have hmax := (isFinite_bounded_iff _ _ _).mp hfinite
    rw [bounded, if_neg (not_lt.mpr hmax)]
    exact ⟨rfl, false, m, e, lt_of_le_of_ne hle hcarry, hmin, hmax, rfl⟩

/-- No double is nearer to a quotient than the multiple of the unit of its grid. -/
theorem mantissa_nearest_isDouble (hnum : 0 < num) (hden : 0 < den) {y : ℚ} (hy : IsDouble y) :
    |(mantissa num den (targetExponent num den) : ℚ) * 2 ^ targetExponent num den - num / den| ≤
      |y - num / den| := by
  have hle := le_of_targetExponent hnum hden
  generalize targetExponent num den = e at hle ⊢
  obtain ⟨negative, m, e', hm, hmin, -, rfl⟩ := hy
  rcases le_or_gt e e' with hcoarse | hfine
  · -- a double on the same or a coarser grid is a multiple of the unit
    have hshift : (2 : ℚ) ^ e' = 2 ^ (e' - e).toNat * 2 ^ e := by
      rw [← zpow_natCast, ← zpow_add₀ (by norm_num)]
      congr 1
      omega
    obtain ⟨k, hk⟩ : ∃ k : ℤ, signed negative (m * 2 ^ (e' - e).toNat) = k := by
      cases negative
      · exact ⟨m * 2 ^ (e' - e).toNat, by push_cast; rfl⟩
      · exact ⟨-(m * 2 ^ (e' - e).toNat), by push_cast; rfl⟩
    rw [value, hshift, ← mul_assoc, signed_mul, hk]
    exact mantissa_nearest num hden e k
  · -- one on a finer grid is below the least multiple with 53 bits, and this is not above the quotient
    have hlow := hle (by omega)
    have hbelow : (finite negative m e').value ≤ 2 ^ 52 * 2 ^ e := by
      calc (finite negative m e').value ≤ |signed negative (m * 2 ^ e')| := le_abs_self _
        _ = m * 2 ^ e' := abs_signed negative (by positivity)
        _ ≤ 2 ^ 53 * 2 ^ e' := mul_le_mul_of_nonneg_right (by exact_mod_cast hm.le) (by positivity)
        _ = 2 ^ 52 * 2 ^ (e' + 1) := by
            rw [zpow_add_one₀ (by norm_num)]
            ring
        _ ≤ 2 ^ 52 * 2 ^ e := by
            refine mul_le_mul_of_nonneg_left ?_ (by positivity)
            exact zpow_le_zpow_right₀ (by norm_num) (by omega)
    calc |(mantissa num den e : ℚ) * 2 ^ e - num / den|
        ≤ |((2 ^ 52 : ℤ) : ℚ) * 2 ^ e - num / den| := mantissa_nearest num hden e (2 ^ 52)
      _ ≤ |(finite negative m e').value - num / den| := by
          push_cast
          rw [abs_of_nonpos (by linarith), abs_of_nonpos (by linarith)]
          linarith

end

theorem value_neg (x : Binary64) : x.neg.value = -x.value := by
  cases x with
  | finite negative m e => cases negative <;> simp [neg, value]
  | infinite | nan => simp [neg, value]

theorem isFinite_neg (x : Binary64) : x.neg.isFinite = x.isFinite := by
  cases x <;> rfl

theorem neg_ofRatio (num den : ℕ) : ofRatio true num den = (ofRatio false num den).neg := by
  have hbounded : ∀ m e, bounded true m e = (bounded false m e).neg := by
    intro m e
    rw [bounded, bounded]
    split <;> rfl
  rcases Nat.eq_zero_or_pos num with rfl | hnum
  · rfl
  · rw [ofRatio_eq hnum, ofRatio_eq hnum]
    split <;> exact hbounded _ _

/-- What has 53 bits on a finer grid than that of the greatest double is below it. -/
theorem lt_overflow {q : ℚ} {e : ℤ} (he : e < maxExponent) (h : q < 2 ^ 53 * 2 ^ e) : q < overflow := by
  have hmax : maxExponent = 971 := rfl
  calc q < 2 ^ 53 * 2 ^ e := h
    _ ≤ 2 ^ 53 * 2 ^ (970 : ℤ) := by
        refine mul_le_mul_of_nonneg_left ?_ (by positivity)
        exact zpow_le_zpow_right₀ (by norm_num) (by omega)
    _ ≤ overflow := mul_le_mul_of_nonneg_right (by norm_num) (by positivity)

/-- What has 53 bits on a coarser grid is past half a unit above the greatest double. -/
theorem overflow_le_of_lt {q : ℚ} {e : ℤ} (he : maxExponent < e) (h : 2 ^ 52 * 2 ^ e ≤ q) :
    overflow ≤ q := by
  have hmax : maxExponent = 971 := rfl
  calc overflow ≤ 2 ^ 54 * 2 ^ (970 : ℤ) := mul_le_mul_of_nonneg_right (by norm_num) (by positivity)
    _ = 2 ^ 52 * 2 ^ (972 : ℤ) := by
        rw [← zpow_natCast (2 : ℚ) 54, ← zpow_natCast (2 : ℚ) 52, ← zpow_add₀ (by norm_num),
          ← zpow_add₀ (by norm_num)]
        rfl
    _ ≤ 2 ^ 52 * 2 ^ e := by
        refine mul_le_mul_of_nonneg_left ?_ (by positivity)
        exact zpow_le_zpow_right₀ (by norm_num) (by omega)
    _ ≤ q := h

/-- A quotient has no nearest double exactly from half a unit above the greatest double on. -/
theorem isFinite_ofRatio_iff (negative : Bool) (num : ℕ) {den : ℕ} (hden : 0 < den) :
    (ofRatio negative num den).isFinite = true ↔ (num : ℚ) / den < overflow := by
  rcases Nat.eq_zero_or_pos num with rfl | hnum
  · have hpositive : (0 : ℚ) < overflow := by
      unfold overflow
      positivity
    simpa [ofRatio, isFinite] using hpositive
  · have hcarry := mantissa_eq_iff hnum hden
    have hlt := lt_of_targetExponent hnum hden
    have hle := le_of_targetExponent hnum hden
    rw [ofRatio_eq hnum]
    generalize targetExponent num den = e at hcarry hlt hle ⊢
    generalize mantissa num den e = m at hcarry ⊢
    rcases lt_trichotomy e maxExponent with hfine | heq | hcoarse
    · refine iff_of_true ?_ (lt_overflow hfine hlt)
      split
      · rw [isFinite_bounded_iff]
        omega
      · rw [isFinite_bounded_iff]
        omega
    · -- on the grid of the greatest double, a mantissa of 54 bits is one too many
      have hbound : overflow ≤ (num : ℚ) / den ↔ m = 2 ^ 53 := by
        rw [hcarry, heq]
        rfl
      rw [← not_le, hbound]
      by_cases h53 : m = 2 ^ 53
      · rw [if_pos h53, isFinite_bounded_iff]
        exact iff_of_false (by omega) (not_not.mpr h53)
      · rw [if_neg h53, isFinite_bounded_iff]
        exact iff_of_true (by omega) h53
    · have hmin : minExponent < maxExponent := by decide
      refine iff_of_false ?_ (not_lt.mpr (overflow_le_of_lt hcoarse (hle (hmin.trans hcoarse))))
      split
      · rw [isFinite_bounded_iff]
        omega
      · rw [isFinite_bounded_iff]
        omega

theorem isNan_of_isFinite {x : Binary64} (h : x.isFinite = true) : x.isNan = false := by
  cases x with
  | finite => rfl
  | infinite | nan => cases h

/-- A quotient is rounded to a number. -/
theorem isNan_ofRatio (negative : Bool) (num den : ℕ) : (ofRatio negative num den).isNan = false := by
  have hbounded : ∀ m e, (bounded negative m e).isNan = false := by
    intro m e
    rw [bounded]
    split <;> rfl
  rcases Nat.eq_zero_or_pos num with rfl | hnum
  · rfl
  · rw [ofRatio_eq hnum]
    split <;> exact hbounded _ _

/-- A finite result is a double, and no double is nearer. -/
theorem ofRatio_nearest {negative : Bool} {num den : ℕ} (hden : 0 < den)
    (hfinite : (ofRatio negative num den).isFinite = true) :
    IsDouble (ofRatio negative num den).value ∧ ∀ y, IsDouble y →
      |(ofRatio negative num den).value - signed negative (num / den)| ≤
        |y - signed negative (num / den)| := by
  rcases Nat.eq_zero_or_pos num with rfl | hnum
  · have hzero : (ofRatio negative 0 den).value = 0 := by
      cases negative <;> simp [ofRatio, value]
    refine ⟨⟨negative, 0, minExponent, by norm_num, le_rfl, by decide, rfl⟩, fun y _ => ?_⟩
    rw [hzero]
    cases negative <;> simp [signed]
  · cases negative with
    | false =>
      obtain ⟨hvalue, hdouble⟩ := value_ofRatio hnum hden hfinite
      refine ⟨hdouble, fun y hy => ?_⟩
      rw [hvalue]
      exact mantissa_nearest_isDouble hnum hden hy
    | true =>
      rw [neg_ofRatio, isFinite_neg] at hfinite
      obtain ⟨hvalue, hdouble⟩ := value_ofRatio hnum hden hfinite
      rw [neg_ofRatio, value_neg]
      refine ⟨hdouble.neg, fun y hy => ?_⟩
      have hmirror : ∀ v : ℚ, |v - signed true (num / den)| = |-v - num / den| := by
        intro v
        rw [← abs_neg, signed_true]
        ring_nf
      rw [hmirror, hmirror, neg_neg, hvalue]
      exact mantissa_nearest_isDouble hnum hden hy.neg

theorem IsDouble.abs_lt_overflow {q : ℚ} (h : IsDouble q) : |q| < overflow := by
  obtain ⟨negative, m, e, hm, -, hmax, rfl⟩ := h
  have hmax' : e ≤ 971 := hmax
  have hle : (m : ℚ) ≤ 2 ^ 53 - 1 := by
    have hsucc : (m : ℚ) + 1 ≤ 2 ^ 53 := by exact_mod_cast hm
    linarith
  calc |(finite negative m e).value| = m * 2 ^ e := abs_signed negative (by positivity)
    _ ≤ (2 ^ 53 - 1) * 2 ^ e := mul_le_mul_of_nonneg_right hle (by positivity)
    _ ≤ (2 ^ 53 - 1) * 2 ^ (970 + 1 : ℤ) := by
        refine mul_le_mul_of_nonneg_left ?_ (by norm_num)
        exact zpow_le_zpow_right₀ (by norm_num) (by omega)
    _ = (2 ^ 54 - 2) * 2 ^ (970 : ℤ) := by
        rw [zpow_add_one₀ (by norm_num)]
        ring
    _ < overflow := mul_lt_mul_of_pos_right (by norm_num) (by positivity)

/-- The finite doubles that there are. -/
def Regular (x : Binary64) : Prop := x.isFinite = true ∧ IsDouble x.value

theorem regular_ofRatio {negative : Bool} {num den : ℕ} (hden : 0 < den)
    (h : (num : ℚ) / den < overflow) : (ofRatio negative num den).Regular := by
  have hfinite := (isFinite_ofRatio_iff negative num hden).mpr h
  exact ⟨hfinite, (ofRatio_nearest hden hfinite).1⟩

/-- What a double stands for is its own nearest double. -/
theorem ofRatio_of_isDouble {negative : Bool} {num den : ℕ} (hden : 0 < den)
    (hdouble : IsDouble (signed negative (num / den))) :
    (ofRatio negative num den).isFinite = true ∧
      (ofRatio negative num den).value = signed negative (num / den) := by
  have habs : |signed negative ((num : ℚ) / den)| = num / den := abs_signed negative (by positivity)
  have hfinite : (ofRatio negative num den).isFinite = true := by
    rw [isFinite_ofRatio_iff negative num hden, ← habs]
    exact hdouble.abs_lt_overflow
  have hnearest := (ofRatio_nearest hden hfinite).2 _ hdouble
  rw [sub_self, abs_zero, abs_nonpos_iff, sub_eq_zero] at hnearest
  exact ⟨hfinite, hnearest⟩

/-! ### Integers -/

theorem signed_natAbs (n : ℤ) : signed (n < 0) ((n.natAbs : ℚ) / (1 : ℕ)) = n := by
  rw [Nat.cast_one, div_one, Nat.cast_natAbs, signed]
  by_cases hneg : n < 0
  · simp [hneg, abs_of_neg hneg]
  · simp [hneg, abs_of_nonneg (not_lt.mp hneg)]

theorem regular_ofRatio_one {negative : Bool} {n : ℕ} (hn : n ≤ 2 ^ 64) :
    (ofRatio negative n 1).Regular := by
  refine regular_ofRatio Nat.one_pos ?_
  rw [Nat.cast_one, div_one]
  calc (n : ℚ) ≤ 2 ^ 64 := by exact_mod_cast hn
    _ = 2 ^ 53 * 2 ^ (11 : ℤ) := by norm_num
    _ ≤ 2 ^ 53 * 2 ^ (970 : ℤ) :=
        mul_le_mul_of_nonneg_left (zpow_le_zpow_right₀ (by norm_num) (by norm_num)) (by norm_num)
    _ < overflow := mul_lt_mul_of_pos_right (by norm_num) (by positivity)

/-- An integer of 64 bits goes to a nearest double. -/
theorem ofInt_nearest {n : ℤ} (hn : n.natAbs ≤ 2 ^ 64) :
    (ofInt n).Regular ∧ ∀ y, IsDouble y → |(ofInt n).value - n| ≤ |y - n| := by
  have hregular : (ofInt n).Regular := regular_ofRatio_one hn
  have hnearest := (ofRatio_nearest Nat.one_pos hregular.1).2
  rw [signed_natAbs] at hnearest
  exact ⟨hregular, hnearest⟩

/-- An integer of up to 53 bits is a double. -/
theorem value_ofInt {n : ℤ} (hn : n.natAbs ≤ 2 ^ 53) : (ofInt n).value = n := by
  have hdouble : IsDouble (n : ℚ) := by
    rcases Nat.lt_or_eq_of_le hn with hlt | heq
    · refine ⟨n < 0, n.natAbs, 0, hlt, by decide, by decide, ?_⟩
      rw [value, zpow_zero, mul_one, ← signed_natAbs n, Nat.cast_one, div_one]
    · refine ⟨n < 0, 2 ^ 52, 1, by norm_num, by decide, by decide, ?_⟩
      rw [value, ← signed_natAbs n, heq]
      norm_num
  rw [← signed_natAbs n] at hdouble
  exact (ofRatio_of_isDouble Nat.one_pos hdouble).2.trans (signed_natAbs n)

/-! ### Decimals -/

/-- A number of so many decimal digits is below the power of ten of their number, and not below the one
before. -/
theorem decimalLength_spec {n : ℕ} (hn : n ≠ 0) :
    1 ≤ decimalLength n ∧ 10 ^ (decimalLength n - 1) ≤ n ∧ n < 10 ^ decimalLength n := by
  induction n using Nat.strong_induction_on with
  | _ n ih =>
    rw [decimalLength, if_neg hn]
    rcases Nat.lt_or_ge n 10 with hsmall | hlarge
    · rw [Nat.toDigits_of_lt_base hsmall]
      simp only [List.length_singleton]
      omega
    · have hrest : n / 10 ≠ 0 := by omega
      obtain ⟨hone, hlow, hhigh⟩ := ih (n / 10) (by omega) hrest
      rw [decimalLength, if_neg hrest] at hone hlow hhigh
      rw [Nat.toDigits_of_base_le (by norm_num) hlarge, List.length_append, List.length_singleton]
      generalize (Nat.toDigits 10 (n / 10)).length = length at hone hlow hhigh
      have hpower : 10 ^ length = 10 * 10 ^ (length - 1) := by
        rw [← Nat.pow_succ', Nat.succ_eq_add_one, Nat.sub_add_cancel hone]
      refine ⟨by omega, ?_, ?_⟩
      · rw [Nat.add_sub_cancel]
        omega
      · rw [Nat.pow_succ]
        omega

theorem one_le_overflow : 10 ^ (0 : ℤ) ≤ overflow := by
  calc (10 : ℚ) ^ (0 : ℤ) = 1 * 2 ^ (0 : ℤ) := by rw [zpow_zero, zpow_zero, mul_one]
    _ ≤ 1 * 2 ^ (970 : ℤ) :=
        mul_le_mul_of_nonneg_left (zpow_le_zpow_right₀ (by norm_num) (by norm_num)) (by norm_num)
    _ ≤ overflow := mul_le_mul_of_nonneg_right (by norm_num) (by positivity)

theorem overflow_le : overflow ≤ 10 ^ (310 : ℤ) := by
  calc overflow ≤ 2 ^ 54 * 2 ^ (970 : ℤ) := mul_le_mul_of_nonneg_right (by norm_num) (by positivity)
    _ = (2 : ℚ) ^ (1024 : ℤ) := by
        rw [← zpow_natCast (2 : ℚ) 54, ← zpow_add₀ (by norm_num)]
        rfl
    _ ≤ 2 ^ (205 * 5 : ℤ) := zpow_le_zpow_right₀ (by norm_num) (by norm_num)
    _ = ((2 : ℚ) ^ 205) ^ 5 := by rw [zpow_mul]; rfl
    _ ≤ ((10 : ℚ) ^ 62) ^ 5 := pow_le_pow_left₀ (by positivity) (by norm_num) 5
    _ = 10 ^ (62 * 5 : ℤ) := by rw [zpow_mul]; rfl
    _ = 10 ^ (310 : ℤ) := rfl

/-- A decimal is finite exactly below half a unit above the greatest double. -/
theorem isFinite_ofDecimal_iff (negative : Bool) (c : ℕ) (k : ℤ) :
    (ofDecimal negative c k).isFinite = true ↔ (c : ℚ) * 10 ^ k < overflow := by
  have hoverflow : (0 : ℚ) < overflow := by
    unfold overflow
    positivity
  rcases Nat.eq_zero_or_pos c with rfl | hc
  · simpa [ofDecimal, isFinite] using hoverflow
  · obtain ⟨hone, hlow, hhigh⟩ := decimalLength_spec hc.ne'
    have hlowq : (10 : ℚ) ^ ((decimalLength c : ℤ) - 1 + k) ≤ c * 10 ^ k := by
      rw [zpow_add₀ (by norm_num)]
      refine mul_le_mul_of_nonneg_right ?_ (by positivity)
      rw [← Nat.cast_one, ← Nat.cast_sub hone, zpow_natCast]
      exact_mod_cast hlow
    have hhighq : (c : ℚ) * 10 ^ k < 10 ^ ((decimalLength c : ℤ) + k) := by
      rw [zpow_add₀ (by norm_num)]
      refine mul_lt_mul_of_pos_right ?_ (by positivity)
      rw [zpow_natCast]
      exact_mod_cast hhigh
    unfold ofDecimal
    rw [if_neg hc.ne']
    by_cases hhuge : 310 < (decimalLength c : ℤ) + k
    · -- past every double
      rw [if_pos hhuge]
      refine iff_of_false Bool.false_ne_true (not_lt.mpr ?_)
      calc overflow ≤ 10 ^ (310 : ℤ) := overflow_le
        _ ≤ 10 ^ ((decimalLength c : ℤ) - 1 + k) := zpow_le_zpow_right₀ (by norm_num) (by omega)
        _ ≤ c * 10 ^ k := hlowq
    · rw [if_neg hhuge]
      by_cases htiny : (decimalLength c : ℤ) + k < -330
      · rw [if_pos htiny]
        refine iff_of_true rfl ?_
        calc (c : ℚ) * 10 ^ k < 10 ^ ((decimalLength c : ℤ) + k) := hhighq
          _ ≤ 10 ^ (0 : ℤ) := zpow_le_zpow_right₀ (by norm_num) (by omega)
          _ ≤ overflow := one_le_overflow
      · rw [if_neg htiny]
        cases k with
        | ofNat j =>
          refine (isFinite_ofRatio_iff negative _ Nat.one_pos).trans ?_
          rw [tenTo_eq, Int.ofNat_eq_natCast, zpow_natCast]
          push_cast
          rw [div_one]
        | negSucc j =>
          refine (isFinite_ofRatio_iff negative _ (Nat.pow_pos (by norm_num))).trans ?_
          rw [zpow_negSucc, div_eq_mul_inv]
          push_cast
          rfl

end Binary64

end HttpResource
