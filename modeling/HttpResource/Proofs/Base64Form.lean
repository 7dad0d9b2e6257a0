/-
# The form of base 64

The bits of the bytes stand one after the other, with zeros behind them up to the next multiple of six. Each
six of them is the value of a digit, and padding fills up the last four characters. That is what a text of
bytes has to be, and bytes have exactly one such text, the one that is written (`Base64.writes_iff`).

Key definitions: `Base64.bits`, `Base64.Spells`, `Base64.Writes`.
Key theorems: `Base64.bits_add`, `Base64.eq_of_bits`, `Base64.writes_encode`, `Base64.writes_iff`.
-/
import HttpResource.Base64
import Mathlib.Algebra.Group.Nat.Defs

namespace HttpResource

namespace Base64

/-! ### Bits -/

/-- The lowest bits of a number, the highest of them first. -/
def bits : Nat → Nat → List Bool
  | 0, _ => []
  | width + 1, n => bits width (n / 2) ++ [decide (n % 2 = 1)]

/-- The bits of bytes. -/
def bitsOf (bytes : List UInt8) : List Bool := bytes.flatMap fun b => bits 8 b.toNat

/-- The bits of digits with the given values. -/
def digitBits (values : List Nat) : List Bool := values.flatMap (bits 6)

theorem length_bits (width n : Nat) : (bits width n).length = width := by
  induction width generalizing n with
  | zero => rfl
  | succ width ih => rw [bits, List.length_append, ih, List.length_singleton]

theorem length_flatMap_of_length {α : Type} {f : α → List Bool} {width : Nat}
    (h : ∀ a, (f a).length = width) (items : List α) : (items.flatMap f).length = width * items.length := by
  induction items with
  | nil => rfl
  | cons a rest ih =>
    rw [List.flatMap_cons, List.length_append, h, ih, List.length_cons, Nat.mul_succ, Nat.add_comm]

theorem length_bitsOf (bytes : List UInt8) : (bitsOf bytes).length = 8 * bytes.length := by
  have hbyte : ∀ b : UInt8, (bits 8 b.toNat).length = 8 := fun b => length_bits 8 b.toNat
  rw [bitsOf, length_flatMap_of_length hbyte]

theorem length_digitBits (values : List Nat) : (digitBits values).length = 6 * values.length := by
  rw [digitBits, length_flatMap_of_length (length_bits 6)]

/-- The bits of a number are the high ones and then the low ones. -/
theorem bits_add (high low n : Nat) : bits (high + low) n = bits high (n / 2 ^ low) ++ bits low n := by
  induction low generalizing n with
  | zero => rw [Nat.pow_zero, Nat.div_one, Nat.add_zero, bits, List.append_nil]
  | succ low ih =>
    rw [← Nat.add_assoc, bits, ih, bits, Nat.div_div_eq_div_mul, ← Nat.pow_succ', List.append_assoc]

/-- Higher bits do not matter. -/
theorem bits_congr {width n m : Nat} (h : n % 2 ^ width = m % 2 ^ width) : bits width n = bits width m := by
  induction width generalizing n m with
  | zero => rfl
  | succ width ih =>
    rw [Nat.pow_succ', Nat.mod_mul, Nat.mod_mul] at h
    have hlast : n % 2 = m % 2 := by omega
    have hrest : n / 2 % 2 ^ width = m / 2 % 2 ^ width := by omega
    rw [bits, bits, ih hrest, hlast]

/-- Low bits of one number before the bits of another. -/
theorem bits_join (high : Nat) {low : Nat} (x : Nat) {y : Nat} (hy : y < 2 ^ low) :
    bits (high + low) (x % 2 ^ high * 2 ^ low + y) = bits high x ++ bits low y := by
  have hpos : 0 < 2 ^ low := Nat.two_pow_pos low
  have hhigh : (x % 2 ^ high * 2 ^ low + y) / 2 ^ low = x % 2 ^ high := by
    rw [Nat.mul_comm, Nat.mul_add_div hpos, Nat.div_eq_of_lt hy, Nat.add_zero]
  have hlow : (x % 2 ^ high * 2 ^ low + y) % 2 ^ low = y % 2 ^ low := Nat.mul_add_mod_self_right ..
  rw [bits_add, hhigh, bits_congr (Nat.mod_mod x _), bits_congr hlow]

/-- Numbers of a width are told apart by their bits. -/
theorem eq_of_bits {width n m : Nat} (hn : n < 2 ^ width) (hm : m < 2 ^ width)
    (h : bits width n = bits width m) : n = m := by
  induction width generalizing n m with
  | zero => rw [Nat.pow_zero] at hn hm; omega
  | succ width ih =>
    rw [Nat.pow_succ] at hn hm
    obtain ⟨hrest, hlast⟩ := List.append_inj' h rfl
    have hhalf : n / 2 = m / 2 := ih (by omega) (by omega) hrest
    have hparity : n % 2 = 1 ↔ m % 2 = 1 := by simpa using hlast
    omega

/-- Digits are told apart by their bits. -/
theorem eq_of_digitBits {values values' : List Nat} (h : ∀ v ∈ values, v < 64)
    (h' : ∀ v ∈ values', v < 64) (hlength : values.length = values'.length)
    (hbits : digitBits values = digitBits values') : values = values' := by
  induction values generalizing values' with
  | nil => exact (List.eq_nil_of_length_eq_zero hlength.symm).symm
  | cons v rest ih =>
    obtain ⟨v', rest', rfl⟩ := List.exists_cons_of_length_eq_add_one hlength.symm
    obtain ⟨hv, hrest⟩ := List.forall_mem_cons.mp h
    obtain ⟨hv', hrest'⟩ := List.forall_mem_cons.mp h'
    obtain ⟨hfirst, hothers⟩ := List.append_inj hbits ((length_bits 6 v).trans (length_bits 6 v').symm)
    rw [eq_of_bits hv hv' hfirst, ih hrest hrest' (Nat.succ.inj hlength) hothers]

/-! ### The text of bytes -/

/-- The digits are those of the standard alphabet. -/
example : String.ofList ((List.range 64).map digit) =
    "ABCDEFGHIJKLMNOPQRSTUVWXYZabcdefghijklmnopqrstuvwxyz0123456789+/" := by decide +kernel

/-- A text spells bytes: in digits of the given values, with zeros behind the bits and padding behind the
digits. -/
structure Spells (bytes : List UInt8) (text : List Char) (values : List Nat) (zeros padding : Nat) : Prop where
  values_lt : ∀ v ∈ values, v < 64
  bits_eq : digitBits values = bitsOf bytes ++ List.replicate zeros false
  zeros_lt : zeros < 6
  text_eq : text = values.map digit ++ List.replicate padding pad
  length_eq : text.length % 4 = 0
  padding_lt : padding < 4

/-- A text is what bytes are in base 64. -/
def Writes (bytes : List UInt8) (text : List Char) : Prop :=
  ∃ values zeros padding, Spells bytes text values zeros padding

/-- The second digit has the low bits of one byte and the high bits of the next one. -/
theorem bits_second (a b : UInt8) :
    bits 6 (a.toNat % 4 * 16 + b.toNat / 16) = bits 2 a.toNat ++ bits 4 (b.toNat / 16) := by
  have hb : b.toNat / 16 < 2 ^ 4 := Nat.div_lt_of_lt_mul b.toNat_lt
  exact bits_join 2 a.toNat hb

theorem bits_third (b c : UInt8) :
    bits 6 (b.toNat % 16 * 4 + c.toNat / 64) = bits 4 b.toNat ++ bits 2 (c.toNat / 64) := by
  have hc : c.toNat / 64 < 2 ^ 2 := Nat.div_lt_of_lt_mul c.toNat_lt
  exact bits_join 4 b.toNat hc

/-- Three bytes are four digits. -/
theorem digitBits_three (a b c : UInt8) :
    digitBits [a.toNat / 4, a.toNat % 4 * 16 + b.toNat / 16, b.toNat % 16 * 4 + c.toNat / 64, c.toNat % 64] =
      bitsOf [a, b, c] := by
  have hfourth : bits 6 (c.toNat % 64) = bits 6 c.toNat := bits_congr (Nat.mod_mod _ _)
  have ha : bits 8 a.toNat = bits 6 (a.toNat / 4) ++ bits 2 a.toNat := bits_add 6 2 _
  have hb : bits 8 b.toNat = bits 4 (b.toNat / 16) ++ bits 4 b.toNat := bits_add 4 4 _
  have hc : bits 8 c.toNat = bits 2 (c.toNat / 64) ++ bits 6 c.toNat := bits_add 2 6 _
  simp only [digitBits, bitsOf, List.flatMap_cons, List.flatMap_nil, List.append_nil, List.append_assoc,
    bits_second, bits_third, hfourth, ha, hb, hc]

/-- Two bytes and two zeros are three digits. -/
theorem digitBits_two (a b : UInt8) :
    digitBits [a.toNat / 4, a.toNat % 4 * 16 + b.toNat / 16, b.toNat % 16 * 4] =
      bitsOf [a, b] ++ List.replicate 2 false := by
  have hthird : bits 6 (b.toNat % 16 * 4) = bits 4 b.toNat ++ List.replicate 2 false :=
    bits_join 4 b.toNat (Nat.two_pow_pos 2)
  have ha : bits 8 a.toNat = bits 6 (a.toNat / 4) ++ bits 2 a.toNat := bits_add 6 2 _
  have hb : bits 8 b.toNat = bits 4 (b.toNat / 16) ++ bits 4 b.toNat := bits_add 4 4 _
  simp only [digitBits, bitsOf, List.flatMap_cons, List.flatMap_nil, List.append_nil, List.append_assoc,
    bits_second, hthird, ha, hb]

/-- One byte and four zeros are two digits. -/
theorem digitBits_one (a : UInt8) :
    digitBits [a.toNat / 4, a.toNat % 4 * 16] = bitsOf [a] ++ List.replicate 4 false := by
  have hsecond : bits 6 (a.toNat % 4 * 16) = bits 2 a.toNat ++ List.replicate 4 false :=
    bits_join 2 a.toNat (Nat.two_pow_pos 4)
  have ha : bits 8 a.toNat = bits 6 (a.toNat / 4) ++ bits 2 a.toNat := bits_add 6 2 _
  simp only [digitBits, bitsOf, List.flatMap_cons, List.flatMap_nil, List.append_nil, List.append_assoc,
    hsecond, ha]

theorem digitBits_append (values values' : List Nat) :
    digitBits (values ++ values') = digitBits values ++ digitBits values' := List.flatMap_append

theorem writes_encode (bytes : List UInt8) : Writes bytes (encode bytes) := by
  fun_induction encode bytes with
  | case1 => exact ⟨[], 0, 0, by simp, rfl, by decide, rfl, rfl, by decide⟩
  | case2 a =>
    have ha := a.toNat_lt
    refine ⟨[a.toNat / 4, a.toNat % 4 * 16], 4, 2, ?_, digitBits_one a, by decide, rfl,
      Nat.mod_self 4, by decide⟩
    simp only [List.forall_mem_cons]
    exact ⟨by omega, by omega, by simp⟩
  | case3 a b =>
    have ha := a.toNat_lt
    have hb := b.toNat_lt
    refine ⟨[a.toNat / 4, a.toNat % 4 * 16 + b.toNat / 16, b.toNat % 16 * 4], 2, 1, ?_, digitBits_two a b,
      by decide, rfl, Nat.mod_self 4, by decide⟩
    simp only [List.forall_mem_cons]
    exact ⟨by omega, by omega, by omega, by simp⟩
  | case4 a b c rest ih =>
    obtain ⟨values, zeros, padding, hvalues, hbits, hzeros, htext, hlength, hpadding⟩ := ih
    have ha := a.toNat_lt
    have hb := b.toNat_lt
    have hc := c.toNat_lt
    refine ⟨[a.toNat / 4, a.toNat % 4 * 16 + b.toNat / 16, b.toNat % 16 * 4 + c.toNat / 64, c.toNat % 64] ++
      values, zeros, padding, ?_, ?_, hzeros, ?_, ?_, hpadding⟩
    · simp only [List.forall_mem_append, List.forall_mem_cons]
      exact ⟨⟨by omega, by omega, by omega, by omega, by simp⟩, hvalues⟩
    · rw [digitBits_append, digitBits_three, hbits, ← List.append_assoc]
      rfl
    · rw [htext, List.map_append, List.append_assoc]
      rfl
    · rw [List.length_append]
      exact (Nat.add_mod_left 4 _).trans hlength

/-- Bytes have one text. -/
theorem Spells.text_unique {bytes : List UInt8} {text text' : List Char} {values values' : List Nat}
    {zeros zeros' padding padding' : Nat} (h : Spells bytes text values zeros padding)
    (h' : Spells bytes text' values' zeros' padding') : text = text' := by
  have hcount : 6 * values.length = 8 * bytes.length + zeros := by
    simpa [length_digitBits, length_bitsOf] using congrArg List.length h.bits_eq
  have hcount' : 6 * values'.length = 8 * bytes.length + zeros' := by
    simpa [length_digitBits, length_bitsOf] using congrArg List.length h'.bits_eq
  have hlength : text.length = values.length + padding := by rw [h.text_eq]; simp
  have hlength' : text'.length = values'.length + padding' := by rw [h'.text_eq]; simp
  have := h.zeros_lt
  have := h'.zeros_lt
  have := h.length_eq
  have := h'.length_eq
  have := h.padding_lt
  have := h'.padding_lt
  -- fewer than six zeros fill up a digit in one way, and less than four pads a group
  have hzeros : zeros = zeros' := by omega
  have hdigits : values.length = values'.length := by omega
  have hpadding : padding = padding' := by omega
  have hbits : digitBits values = digitBits values' := by rw [h.bits_eq, h'.bits_eq, hzeros]
  rw [h.text_eq, h'.text_eq, eq_of_digitBits h.values_lt h'.values_lt hdigits hbits, hpadding]

/-- **The text of bytes is the one that is written.** -/
theorem writes_iff {bytes : List UInt8} {text : List Char} : Writes bytes text ↔ text = encode bytes := by
  constructor
  · rintro ⟨values, zeros, padding, h⟩
    obtain ⟨_, _, _, hencode⟩ := writes_encode bytes
    exact h.text_unique hencode
  · rintro rfl
    exact writes_encode bytes

end Base64

end HttpResource
