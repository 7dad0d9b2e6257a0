/-
# The order of durations

A longer text should not be read as a shorter duration. Components and sums are held at one limit, and
holding keeps the order. But the seconds of a duration are then held at 64 bits alone, and the nanoseconds
beside them go on as they are: past the greatest number of seconds they start again from zero with every
second. So the seconds never get fewer, and the whole is out of order just where both texts fill the seconds,
the longer one goes past them, and fewer nanoseconds are left of it (`Duration.parse_le_iff`).

Key definitions: `Duration.belowSecond`.
Key theorems: `Duration.ofNanos_le_iff`, `Duration.parse_le_iff`.
-/
import HttpResource.Proofs.DurationValue

namespace HttpResource

namespace Duration

/-- Seconds are compared first, and the nanoseconds only where they are the same. -/
instance : LE Duration where
  le d e := d.seconds < e.seconds ∨ (d.seconds = e.seconds ∧ d.nanos ≤ e.nanos)

theorem le_iff {d e : Duration} :
    d ≤ e ↔ d.seconds < e.seconds ∨ (d.seconds = e.seconds ∧ d.nanos ≤ e.nanos) := Iff.rfl

instance (d e : Duration) : Decidable (d ≤ e) := decidable_of_iff _ le_iff.symm

/-! ### Nanoseconds -/

section

variable {m n : ℕ}

theorem ofNanos_seconds_le (h : m ≤ n) : (ofNanos m).seconds ≤ (ofNanos n).seconds := by
  have hdiv : m / 1000000000 ≤ n / 1000000000 := Nat.div_le_div_right h
  simp only [ofNanos]
  omega

/-- What is below a second decides only where both numbers fill the seconds and the greater one goes past
them. -/
theorem ofNanos_le_iff (h : m ≤ n) : ofNanos m ≤ ofNanos n ↔
    m < (2 ^ 64 - 1) * 10 ^ 9 ∨ n < 2 ^ 64 * 10 ^ 9 ∨ m % 10 ^ 9 ≤ n % 10 ^ 9 := by
  rw [le_iff]
  simp only [ofNanos]
  omega

end

/-! ### Totals -/

/-- The nanoseconds below a second that are kept of a total. -/
def belowSecond (total : ℚ) : ℕ := min limit ⌊total⌋₊ % 10 ^ 9

/-- Components without a digit beyond the exact places count what they mean. -/
theorem totalNanos_of_exact {cs : List Component} (h : ∀ c ∈ cs, c.fraction.length ≤ c.unit.places) :
    totalNanos cs = min limit ⌊totalValue cs⌋₊ := by
  rw [totalNanos_eq, ← sum_counted_eq h, Nat.floor_natCast]

/-- A bound below the limit is met by what is held exactly if it is met by the total. -/
theorem held_lt_iff {total : ℚ} (h : 0 ≤ total) {bound : ℕ} (hbound : bound ≤ limit) :
    min limit ⌊total⌋₊ < bound ↔ total < bound := by
  rw [← Nat.floor_lt h]
  omega

theorem totalValue_nonneg (cs : List Component) : 0 ≤ totalValue cs :=
  le_trans (Nat.cast_nonneg _) (sum_counted_le cs)

/-- **Which durations are read in the order of their totals.** Of two texts without a digit beyond the exact
places of its unit, as whole numbers have none, the one with the smaller total never has more seconds.
Its duration is at most the other one exactly if it has less than the greatest number of seconds, or the
other one does not go past that, or no more is left of it below a second. -/
theorem parse_le_iff {s t : String} {d e : Duration} {cs es : List Component}
    (hs : parse s = .ok d) (ht : parse t = .ok e)
    (hcs : Written (Text.trim s.toList) cs) (hes : Written (Text.trim t.toList) es)
    (hexact : ∀ c ∈ cs ++ es, c.fraction.length ≤ c.unit.places) (hle : totalValue cs ≤ totalValue es) :
    d.seconds ≤ e.seconds ∧
      (d ≤ e ↔ totalValue cs < ((2 ^ 64 - 1) * 10 ^ 9 : ℕ) ∨ totalValue es < (2 ^ 64 * 10 ^ 9 : ℕ) ∨
        belowSecond (totalValue cs) ≤ belowSecond (totalValue es)) := by
  obtain ⟨hexactCs, hexactEs⟩ := List.forall_mem_append.mp hexact
  obtain ⟨cs', -, hcs', rfl⟩ := parse_eq_ok_iff.mp hs
  obtain ⟨es', -, hes', rfl⟩ := parse_eq_ok_iff.mp ht
  cases written_unique hcs hcs'
  cases written_unique hes hes'
  have hheld : min limit ⌊totalValue cs⌋₊ ≤ min limit ⌊totalValue es⌋₊ :=
    min_le_min_left _ (Nat.floor_mono hle)
  rw [totalNanos_of_exact hexactCs, totalNanos_of_exact hexactEs]
  refine ⟨ofNanos_seconds_le hheld, ?_⟩
  rw [ofNanos_le_iff hheld, held_lt_iff (totalValue_nonneg cs) (by decide),
    held_lt_iff (totalValue_nonneg es) (by decide), belowSecond, belowSecond]

/-! ### Texts past the seconds -/

/-- The greatest number of seconds and the greatest number of nanoseconds beside it. -/
def fullPause : String := "18446744073709551615s999999999ns"

def fullPauseComponents : List Component :=
  [⟨"18446744073709551615".toList, [], .second⟩, ⟨"999999999".toList, [], .nanosecond⟩]

/-- One nanosecond more. -/
def overfullPause : String := "18446744073709551616s"

def overfullPauseComponents : List Component := [⟨"18446744073709551616".toList, [], .second⟩]

/-- One nanosecond more than fills the seconds is read as almost a second less. -/
theorem overfullPause_shorter :
    ∃ d e, parse fullPause = .ok d ∧ parse overfullPause = .ok e ∧
      Written (Text.trim fullPause.toList) fullPauseComponents ∧
      Written (Text.trim overfullPause.toList) overfullPauseComponents ∧
      (∀ c ∈ fullPauseComponents ++ overfullPauseComponents, c.fraction = []) ∧
      totalValue fullPauseComponents ≤ totalValue overfullPauseComponents ∧ ¬d ≤ e := by
  have hfull : totalValue fullPauseComponents = (18446744073709551615999999999 : ℕ) :=
    (sum_counted_eq (by decide)).symm
  have hoverfull : totalValue overfullPauseComponents = (18446744073709551616000000000 : ℕ) :=
    (sum_counted_eq (by decide)).symm
  refine ⟨{ seconds := 18446744073709551615, nanos := 999999999 },
    { seconds := 18446744073709551615, nanos := 0 }, rfl, rfl,
    (components_eq_ok_iff [] (Nat.le_refl _)).mp rfl,
    (components_eq_ok_iff [] (Nat.le_refl _)).mp rfl, by decide, ?_, by decide⟩
  rw [hfull, hoverfull]
  norm_num

/-- A text past the seconds with something left below one. -/
def overfullLeft : String := " 18446744073709551616s7us"

def overfullLeftComponents : List Component :=
  [⟨"18446744073709551616".toList, [], .second⟩, ⟨['7'], [], .microsecond⟩]

/-- More hours than the limit has nanoseconds. -/
def endlessPause : String := "340282366920938463463374607431768211455h"

def endlessPauseComponents : List Component :=
  [⟨"340282366920938463463374607431768211455".toList, [], .hour⟩]

/-- Both go past the seconds, and more is left of the limit than of the shorter text. -/
theorem endlessPause_longer :
    ∃ d e, parse overfullLeft = .ok d ∧ parse endlessPause = .ok e ∧
      Written (Text.trim overfullLeft.toList) overfullLeftComponents ∧
      Written (Text.trim endlessPause.toList) endlessPauseComponents ∧
      totalValue overfullLeftComponents ≤ totalValue endlessPauseComponents ∧
      belowSecond (totalValue overfullLeftComponents) = 7000 ∧
      belowSecond (totalValue endlessPauseComponents) = 768211455 ∧ d ≤ e := by
  have hleft : totalValue overfullLeftComponents = (18446744073709551616000007000 : ℕ) :=
    (sum_counted_eq (by decide)).symm
  have hendless : totalValue endlessPauseComponents =
      (340282366920938463463374607431768211455 * 3600000000000 : ℕ) :=
    (sum_counted_eq (by decide)).symm
  have hleftText : Written (Text.trim overfullLeft.toList) overfullLeftComponents :=
    (components_eq_ok_iff [] (Nat.le_refl _)).mp rfl
  have hendlessText : Written (Text.trim endlessPause.toList) endlessPauseComponents :=
    (components_eq_ok_iff [] (Nat.le_refl _)).mp rfl
  have hle : totalValue overfullLeftComponents ≤ totalValue endlessPauseComponents := by
    rw [hleft, hendless]
    norm_num
  have hleftBelow : belowSecond (totalValue overfullLeftComponents) = 7000 := by
    rw [hleft, belowSecond, Nat.floor_natCast]
    decide
  have hendlessBelow : belowSecond (totalValue endlessPauseComponents) = 768211455 := by
    rw [hendless, belowSecond, Nat.floor_natCast]
    decide
  have horder := (parse_le_iff (s := overfullLeft) (t := endlessPause) rfl rfl hleftText hendlessText
    (by decide) hle).2
  refine ⟨_, _, rfl, rfl, hleftText, hendlessText, hle, hleftBelow, hendlessBelow, ?_⟩
  refine horder.mpr (.inr (.inr ?_))
  rw [hleftBelow, hendlessBelow]
  norm_num

end Duration

end HttpResource
