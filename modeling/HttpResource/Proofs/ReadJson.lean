/-
# Proper values from texts

Every value that is read from a JSON text is proper (`Json.parse?_proper`): its integers have 64 bits, its
doubles are finite, and the fields of its objects are in order. A number with a fraction or an exponent is
made by at most two operations on doubles, and each stays among them: a product that leaves them makes the
text no JSON, and a quotient by a power of ten is not greater than the dividend. So what checks work on is
proper, whatever answer it comes from (`Response.context_proper`).

Key theorems: `Binary64.Regular.mul`, `Binary64.Regular.div`, `Json.scaleDouble_regular`,
`Json.number?_proper`, `Json.parse?_proper`, `Response.context_proper`.
-/
import HttpResource.Exchange
import HttpResource.Proofs.Equality

namespace HttpResource

/-! ### Arithmetic on doubles -/

namespace Binary64

variable {x y : Binary64}

theorem isDouble_one : IsDouble 1 :=
  ⟨false, 1, 0, by norm_num, by decide, by decide, by simp [value]⟩

theorem regular_zero : zero.Regular := ⟨rfl, false, 0, minExponent, by norm_num, le_rfl, by decide, rfl⟩

theorem Regular.neg (h : x.Regular) : x.neg.Regular := by
  refine ⟨(isFinite_neg x).trans h.1, ?_⟩
  rw [value_neg]
  exact h.2.neg

/-- A rounded quotient is a double or infinite. -/
theorem regular_ofRatio_of_isInfinite {negative : Bool} {num den : ℕ} (hden : 0 < den)
    (h : (ofRatio negative num den).isInfinite = false) : (ofRatio negative num den).Regular := by
  have hnumber := isNan_ofRatio negative num den
  have hfinite : (ofRatio negative num den).isFinite = true := by
    generalize ofRatio negative num den = x at h hnumber ⊢
    cases x with
    | finite => rfl
    | infinite => cases h
    | nan => cases hnumber
  exact ⟨hfinite, (ofRatio_nearest hden hfinite).1⟩

/-- A product is a double unless it is infinite. -/
theorem Regular.mul (hx : x.Regular) (hy : y.Regular) (h : (x.mul y).isInfinite = false) :
    (x.mul y).Regular := by
  obtain ⟨hx, -⟩ := hx
  obtain ⟨hy, -⟩ := hy
  cases x with
  | infinite | nan => cases hx
  | finite n₁ m₁ e₁ =>
    cases y with
    | infinite | nan => cases hy
    | finite n₂ m₂ e₂ =>
      rw [mul] at h ⊢
      generalize e₁ + e₂ = e at h ⊢
      cases e with
      | ofNat k => exact regular_ofRatio_of_isInfinite Nat.one_pos h
      | negSucc k => exact regular_ofRatio_of_isInfinite (Nat.two_pow_pos _) h

/-- A quotient by a double from one on is a double. -/
theorem Regular.div (hx : x.Regular) (hy : y.Regular) (hone : 1 ≤ y.value) : (x.div y).Regular := by
  obtain ⟨hxfinite, hxdouble⟩ := hx
  obtain ⟨hyfinite, -⟩ := hy
  cases x with
  | infinite | nan => cases hxfinite
  | finite n₁ m₁ e₁ =>
    cases y with
    | infinite | nan => cases hyfinite
    | finite n₂ m₂ e₂ =>
      have hdivisor : (1 : ℚ) ≤ m₂ * 2 ^ e₂ := by
        calc (1 : ℚ) ≤ |(finite n₂ m₂ e₂).value| := hone.trans (le_abs_self _)
          _ = m₂ * 2 ^ e₂ := abs_signed n₂ (by positivity)
      have hm₂ : 0 < m₂ := by
        rcases Nat.eq_zero_or_pos m₂ with rfl | hpos
        · norm_num at hdivisor
        · exact hpos
      have hbelow : (m₁ : ℚ) * 2 ^ (e₁ - e₂) / m₂ < overflow := by
        calc (m₁ : ℚ) * 2 ^ (e₁ - e₂) / m₂ = m₁ * 2 ^ e₁ / (m₂ * 2 ^ e₂) := by
              rw [zpow_sub₀ (by norm_num)]
              field_simp
          _ ≤ m₁ * 2 ^ e₁ := div_le_self (by positivity) hdivisor
          _ = |(finite n₁ m₁ e₁).value| := (abs_signed n₁ (by positivity)).symm
          _ < overflow := hxdouble.abs_lt_overflow
      rw [div]
      simp only [if_neg hm₂.ne']
      generalize e₁ - e₂ = e at hbelow ⊢
      cases e with
      | ofNat k =>
        refine regular_ofRatio hm₂ ?_
        rw [twoTo_eq]
        push_cast
        rwa [Int.ofNat_eq_natCast, zpow_natCast] at hbelow
      | negSucc k =>
        refine regular_ofRatio (Nat.mul_pos hm₂ (Nat.two_pow_pos _)) ?_
        rw [twoTo_eq]
        push_cast
        rwa [zpow_negSucc, ← div_eq_mul_inv, div_div, mul_comm ((2 : ℚ) ^ (k + 1))] at hbelow

/-- A power of ten within the doubles goes to a double from one on. -/
theorem regular_power {j : ℕ} (hj : j ≤ 308) :
    (ofDecimal false 1 j).Regular ∧ 1 ≤ (ofDecimal false 1 j).value := by
  have hratio : ofDecimal false 1 j = ofRatio false (1 * tenTo j) 1 := by
    have hlength : decimalLength 1 = 1 := by decide
    unfold ofDecimal
    rw [hlength, if_neg Nat.one_ne_zero, if_neg (by omega), if_neg (by omega)]
  have hone : (1 : ℚ) ≤ 10 ^ j := one_le_pow₀ (by norm_num)
  have hquotient : ((1 * tenTo j : ℕ) : ℚ) / (1 : ℕ) = 10 ^ j := by
    rw [tenTo_eq]
    push_cast
    ring
  have hbelow : (10 : ℚ) ^ j < overflow := by
    calc (10 : ℚ) ^ j ≤ 10 ^ (77 * 4) := pow_le_pow_right₀ (by norm_num) hj
      _ = (10 ^ 77) ^ 4 := pow_mul _ _ _
      _ ≤ (7 / 8 * 2 ^ 256) ^ 4 := pow_le_pow_left₀ (by positivity) (by norm_num) 4
      _ = 7 ^ 4 * 2 ^ (1012 : ℤ) := by
          rw [mul_pow, div_pow, ← pow_mul, ← zpow_natCast (2 : ℚ), show (8 : ℚ) ^ 4 = 2 ^ (12 : ℤ) by norm_num,
            div_mul_eq_mul_div, mul_div_assoc, ← zpow_sub₀ (by norm_num)]
          rfl
      _ = 7 ^ 4 * 2 ^ (42 : ℤ) * 2 ^ (970 : ℤ) := by
          rw [mul_assoc, ← zpow_add₀ (by norm_num)]
          rfl
      _ < overflow := mul_lt_mul_of_pos_right (by norm_num) (by positivity)
  rw [hratio]
  have hregular : (ofRatio false (1 * tenTo j) 1).Regular :=
    regular_ofRatio Nat.one_pos (hquotient.trans_lt hbelow)
  refine ⟨hregular, ?_⟩
  have hnearest := (ofRatio_nearest Nat.one_pos hregular.1).2 1 isDouble_one
  rw [signed_false, hquotient, abs_le, abs_of_nonpos (by linarith)] at hnearest
  linarith [hnearest.1]

end Binary64

/-! ### Numbers -/

namespace Json

theorem gather_lt {n : ℕ} (hn : n < 2 ^ 64) (taken : ℕ) (digits : List Char) :
    (gather n taken digits).1 < 2 ^ 64 := by
  fun_induction gather n taken digits with
  | case1 => exact hn
  | case2 n taken c rest h ih => exact ih h
  | case3 => exact hn

theorem scaleDouble_regular {negative : Bool} {n : ℕ} {k : ℤ} {x : Binary64} (hn : n < 2 ^ 64)
    (h : scaleDouble negative n k = some x) : x.Regular := by
  have hsigned : ∀ y : Binary64, y.Regular → (if negative then y.neg else y).Regular := by
    intro y hy
    split
    · exact hy.neg
    · exact hy
  have hn : (Binary64.ofNat n).Regular := Binary64.regular_ofRatio_one hn.le
  unfold scaleDouble at h
  dsimp only at h
  by_cases hk : 0 ≤ k
  · rw [if_pos hk] at h
    by_cases hzero : n = 0
    · rw [if_pos hzero] at h
      cases h
      exact hsigned _ Binary64.regular_zero
    · rw [if_neg hzero] at h
      by_cases hlarge : 308 < k
      · rw [if_pos hlarge] at h
        cases h
      · rw [if_neg hlarge] at h
        split at h
        · cases h
        · rename_i hinfinite
          cases h
          have hpower := (Binary64.regular_power (j := k.toNat) (by omega)).1
          exact hsigned _ (hn.mul hpower (Bool.eq_false_iff.mpr hinfinite))
  · rw [if_neg hk] at h
    by_cases hone : k.natAbs ≤ 308
    · rw [if_pos hone] at h
      cases h
      obtain ⟨hpower, hle⟩ := Binary64.regular_power hone
      exact hsigned _ (hn.div hpower hle)
    · rw [if_neg hone] at h
      by_cases htwo : k.natAbs ≤ 616
      · rw [if_pos htwo] at h
        cases h
        obtain ⟨hfirst, hfirstLe⟩ := Binary64.regular_power (Nat.le_refl 308)
        obtain ⟨hsecond, hsecondLe⟩ := Binary64.regular_power (j := k.natAbs - 308) (by omega)
        exact hsigned _ ((hn.div hfirst hfirstLe).div hsecond hsecondLe)
      · rw [if_neg htwo] at h
        cases h
        exact hsigned _ Binary64.regular_zero

theorem integer_proper {negative : Bool} {n : ℕ} {excess rest r : List Char} {scale : ℤ} {number : Number}
    (hn : n < 2 ^ 64) (h : numberFrom.integer negative n excess scale rest = some (number, r)) :
    number.Proper := by
  unfold numberFrom.integer at h
  split at h
  · split at h
    · cases h
      exact ⟨by omega, by omega⟩
    · split at h
      · cases h
        exact Binary64.regular_ofRatio_one hn.le
      · rename_i hrange
        cases h
        rw [Bool.or_eq_true, decide_eq_true_eq, decide_eq_true_eq, not_or, Binary64.twoTo_eq] at hrange
        exact ⟨by omega, by omega⟩
  · obtain ⟨x, hx, hpair⟩ := Option.map_eq_some_iff.mp h
    cases hpair
    exact scaleDouble_regular hn hx

theorem numberFrom_proper {negative : Bool} {whole rest r : List Char} {number : Number}
    (h : numberFrom negative whole rest = some (number, r)) : number.Proper := by
  have hwhole := gather_lt (n := 0) (by norm_num) 0 whole
  have hscaled : ∀ {n : ℕ} {k : ℤ} {tail : List Char}, n < 2 ^ 64 →
      (scaleDouble negative n k).map (fun x => (Number.double x, tail)) = some (number, r) →
      number.Proper := by
    intro n k tail hn h
    obtain ⟨x, hx, hpair⟩ := Option.map_eq_some_iff.mp h
    cases hpair
    exact scaleDouble_regular hn hx
  have hexponent : ∀ {n : ℕ} {scale : ℤ} {after : List Char}, n < 2 ^ 64 →
      ((exponent? after).bind fun read =>
        (scaleDouble negative n (scale + read.1)).bind fun x => some (Number.double x, read.2)) =
          some (number, r) →
      number.Proper := by
    intro n scale after hn h
    obtain ⟨⟨k, tail⟩, -, h⟩ := Option.bind_eq_some_iff.mp h
    obtain ⟨x, hx, hpair⟩ := Option.bind_eq_some_iff.mp h
    cases hpair
    exact scaleDouble_regular hn hx
  unfold numberFrom at h
  generalize gather 0 0 whole = gathered at h hwhole
  obtain ⟨n, taken, excess⟩ := gathered
  dsimp only at h hwhole
  split at h
  · -- with a fraction
    rename_i tail
    have hfraction := gather_lt hwhole 0 (tail.takeWhile isDigit)
    split at h
    · cases h
    · split at h
      · split at h
        · exact hexponent hfraction h
        · exact hscaled hfraction h
      · exact hscaled hfraction h
  · -- with an exponent alone, or with neither
    split at h
    · exact hexponent hwhole h
    · exact integer_proper hwhole h
  · exact integer_proper hwhole h

theorem number?_proper {s r : List Char} {number : Number} (h : number? s = some (number, r)) :
    number.Proper := by
  unfold number? at h
  split at h
  all_goals
    dsimp only at h
    split at h
    · cases h
    · exact numberFrom_proper h
    · cases h
    · exact numberFrom_proper h

/-! ### Values as written -/

/-- All numbers of a value are proper. -/
inductive ProperNumbers : Json → Prop
  | null : ProperNumbers .null
  | bool (b : Bool) : ProperNumbers (.bool b)
  | number {n : Number} (h : n.Proper) : ProperNumbers (.number n)
  | string (s : String) : ProperNumbers (.string s)
  | array {items : List Json} (h : ∀ v ∈ items, ProperNumbers v) : ProperNumbers (.array items)
  | object {fields : List (String × Json)} (h : ∀ field ∈ fields, ProperNumbers field.2) :
      ProperNumbers (.object fields)

/-- What is read with some fuel has proper numbers. -/
structure ReadsProper (fuel : ℕ) : Prop where
  value : ∀ {depth s v r}, value? fuel depth s = some (v, r) → ProperNumbers v
  items : ∀ {depth s vs r}, items? fuel depth s = some (vs, r) → ∀ v ∈ vs, ProperNumbers v
  fields : ∀ {depth s fs r}, fields? fuel depth s = some (fs, r) → ∀ field ∈ fs, ProperNumbers field.2

theorem value?_proper {fuel : ℕ} (ih : ReadsProper fuel) {depth : ℕ} {s r : List Char} {v : Json}
    (h : value? (fuel + 1) depth s = some (v, r)) : ProperNumbers v := by
  unfold value? at h
  split at h
  · cases h
  · obtain ⟨_, -, hpair⟩ := Option.map_eq_some_iff.mp h
    cases hpair
    exact .null
  · obtain ⟨_, -, hpair⟩ := Option.map_eq_some_iff.mp h
    cases hpair
    exact .bool true
  · obtain ⟨_, -, hpair⟩ := Option.map_eq_some_iff.mp h
    cases hpair
    exact .bool false
  · split at h
    · cases h
      exact .string _
    · cases h
  · split at h
    · cases h
    · split at h
      · cases h
        exact .array nofun
      · obtain ⟨_, hitems, hpair⟩ := Option.map_eq_some_iff.mp h
        cases hpair
        exact .array (ih.items hitems)
  · split at h
    · cases h
    · split at h
      · cases h
        exact .object nofun
      · obtain ⟨_, hfields, hpair⟩ := Option.map_eq_some_iff.mp h
        cases hpair
        exact .object (ih.fields hfields)
  · split at h
    · obtain ⟨_, hnumber, hpair⟩ := Option.map_eq_some_iff.mp h
      cases hpair
      exact .number (number?_proper hnumber)
    · cases h

theorem items?_proper {fuel : ℕ} (ih : ReadsProper fuel) {depth : ℕ} {s r : List Char} {vs : List Json}
    (h : items? (fuel + 1) depth s = some (vs, r)) : ∀ v ∈ vs, ProperNumbers v := by
  unfold items? at h
  split at h
  · cases h
  · rename_i hfirst
    split at h
    · obtain ⟨_, hrest, hpair⟩ := Option.map_eq_some_iff.mp h
      cases hpair
      exact List.forall_mem_cons.mpr ⟨ih.value hfirst, ih.items hrest⟩
    · cases h
      exact List.forall_mem_singleton.mpr (ih.value hfirst)
    · cases h

theorem fields?_proper {fuel : ℕ} (ih : ReadsProper fuel) {depth : ℕ} {s r : List Char}
    {fs : List (String × Json)} (h : fields? (fuel + 1) depth s = some (fs, r)) :
    ∀ field ∈ fs, ProperNumbers field.2 := by
  unfold fields? at h
  split at h
  · split at h
    · cases h
    · split at h
      · split at h
        · cases h
        · rename_i hvalue
          dsimp only at h
          split at h
          · obtain ⟨_, hrest, hpair⟩ := Option.map_eq_some_iff.mp h
            cases hpair
            exact List.forall_mem_cons.mpr ⟨ih.value hvalue, ih.fields hrest⟩
          · cases h
            exact List.forall_mem_singleton.mpr (ih.value hvalue)
          · cases h
      · cases h
  · cases h

theorem readsProper (fuel : ℕ) : ReadsProper fuel := by
  induction fuel with
  | zero => exact ⟨nofun, nofun, nofun⟩
  | succ fuel ih => exact ⟨value?_proper ih, items?_proper ih, fields?_proper ih⟩

theorem document?_properNumbers {s : String} {v : Json} (h : document? s = some v) :
    ProperNumbers v := by
  unfold document? at h
  dsimp only at h
  split at h
  · rename_i hvalue
    split at h
    · cases h
      exact (readsProper _).value hvalue
    · cases h
  · cases h

/-! ### Canonical values -/

theorem canonicalItems_eq_map (items : List Json) : canonicalItems items = items.map canonical := by
  induction items with
  | nil => rfl
  | cons v rest ih => rw [canonicalItems, ih, List.map_cons]

theorem canonicalFields_eq_map (fields : List (String × Json)) :
    canonicalFields fields = fields.map fun field => (field.1, canonical field.2) := by
  induction fields with
  | nil => rfl
  | cons field rest ih => rw [canonicalFields, ih, List.map_cons]

theorem ascending_sortFields (fields : List (String × Json)) : Ascending (sortFields fields) := by
  have hsorted : Ascending ([] : List (String × Json)) := .nil
  unfold sortFields
  generalize ([] : List (String × Json)) = sorted at hsorted ⊢
  induction fields generalizing sorted with
  | nil => exact hsorted
  | cons field rest ih => exact ih _ (insertEntry_ascending hsorted field.1 field.2)

/-- In order, a value with proper numbers is proper. -/
theorem ProperNumbers.canonical {v : Json} (h : ProperNumbers v) : (canonical v).Proper := by
  induction h with
  | null => exact .null
  | bool b => exact .bool b
  | number h => exact .number h
  | string s => exact .string s
  | array _ ih =>
    rw [Json.canonical, canonicalItems_eq_map]
    exact .array (List.forall_mem_map.mpr ih)
  | object _ ih =>
    rw [Json.canonical, canonicalFields_eq_map]
    exact .object (ascending_sortFields _) (forall_sortFields (List.forall_mem_map.mpr ih))

/-- **What is read from a text is proper.** -/
theorem parse?_proper {s : String} {v : Json} (h : parse? s = some v) : v.Proper := by
  obtain ⟨w, hw, rfl⟩ := Option.map_eq_some_iff.mp h
  exact (document?_properNumbers hw).canonical

theorem parseOrString_proper (s : String) : (parseOrString s).Proper := by
  unfold parseOrString
  cases h : parse? s with
  | none => exact .string s
  | some v => exact parse?_proper h

theorem ofFields_proper {fields : List (String × Json)} (h : ∀ field ∈ fields, field.2.Proper) :
    (ofFields fields).Proper :=
  .object (ascending_sortFields fields) (forall_sortFields h)

theorem nat_proper {n : ℕ} (h : n < 2 ^ 64) : (nat n).Proper := .number ⟨by omega, by omega⟩

end Json

/-- Header values are strings, and their names stand in order. -/
theorem headers_proper (headers : Headers) : (Wire.toJson headers).Proper := by
  have hascending : Ascending (headers.entries.map fun entry => (entry.1, Wire.toJson entry.2)) := by
    unfold Ascending
    rw [List.map_map]
    exact headers.ascending
  refine .object hascending (List.forall_mem_map.mpr fun entry _ => ?_)
  exact .array (List.forall_mem_map.mpr fun value _ => .string value)

/-- **A check works on a proper value.** -/
theorem Response.context_proper (r : Response) : r.context.Proper := by
  have hcode : (Json.nat r.statusCode.toNat).Proper := by
    have hlt := r.statusCode.toNat_lt
    exact Json.nat_proper (by omega)
  refine Json.ofFields_proper ?_
  simp only [List.forall_mem_cons]
  exact ⟨hcode, hcode, headers_proper r.headers, Json.parseOrString_proper r.body, nofun⟩

end HttpResource
