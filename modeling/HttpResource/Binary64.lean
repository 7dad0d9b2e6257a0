/-
# Binary floating point numbers

`Binary64` is the double precision number of IEEE 754, kept as sign, mantissa and exponent, so that
every operation is exact integer arithmetic followed by one rounding to nearest, ties to even.

* `Binary64.ofRatio`: the double nearest to a quotient of naturals.
* `Binary64.ofDecimal`: the double nearest to `c · 10^k`.
* `Binary64.compare?`: the order of the real values; a NaN is comparable with nothing.
* `Binary64.add`, `sub`, `mul`, `div`: the rounded exact results.
-/
import HttpResource.Power

namespace HttpResource

/-- A double precision number: `m · 2^e` with a sign, an infinity, or no number at all. The values
this library makes have `m < 2^53` and `-1074 ≤ e`, and `2^52 ≤ m` unless `e = -1074`. -/
inductive Binary64
  | finite (negative : Bool) (mantissa : Nat) (exponent : Int)
  | infinite (negative : Bool)
  | nan
deriving DecidableEq, Repr, Inhabited

namespace Binary64

/-- The least exponent of a double. -/
def minExponent : Int := -1074

/-- The greatest exponent of a finite double. -/
def maxExponent : Int := 971

def zero : Binary64 := .finite false 0 minExponent

/-- The integer nearest to `num / den`, a tie going to the even neighbour. -/
def roundHalfEven (num den : Nat) : Nat :=
  let q := num / den
  let r := num % den
  if 2 * r < den then q
  else if den < 2 * r then q + 1
  else if q % 2 = 0 then q else q + 1

/-- `num / den` divided by `2^e`, again as a quotient. -/
def scaleRatio (num den : Nat) (e : Int) : Nat × Nat :=
  match e with
  | .ofNat k => (num, den * twoTo k)
  | .negSucc k => (num * twoTo (k + 1), den)

/-- The exponent at which a nonzero quotient has a mantissa of 53 bits, or the least exponent. -/
def targetExponent (num den : Nat) : Int :=
  let e : Int := (num.log2 : Int) - (den.log2 : Int) - 52
  let (n, d) := scaleRatio num den e
  max minExponent (if n < d * twoTo 52 then e - 1 else e)

/-- The multiple of `2^e` nearest to `num / den`, in units of `2^e`. -/
def mantissa (num den : Nat) (e : Int) : Nat :=
  roundHalfEven (scaleRatio num den e).1 (scaleRatio num den e).2

/-- `m · 2^e`, infinite if the exponent is past that of the greatest double. -/
def bounded (negative : Bool) (m : Nat) (e : Int) : Binary64 :=
  if maxExponent < e then .infinite negative else .finite negative m e

/-- The double nearest to `num / den`, ties to even; a quotient too large is infinite. -/
def ofRatio (negative : Bool) (num den : Nat) : Binary64 :=
  if num = 0 then .finite negative 0 minExponent
  else
    let e := targetExponent num den
    let m := mantissa num den e
    if m = twoTo 53 then bounded negative (twoTo 52) (e + 1) else bounded negative m e

/-- The double nearest to `m · 2^e`. -/
def ofScaled (negative : Bool) (m : Nat) (e : Int) : Binary64 :=
  match e with
  | .ofNat k => ofRatio negative (m * twoTo k) 1
  | .negSucc k => ofRatio negative m (twoTo (k + 1))

def ofNat (n : Nat) : Binary64 := ofRatio false n 1

def ofInt (n : Int) : Binary64 := ofRatio (n < 0) n.natAbs 1

/-- The number of decimal digits of a natural number, zero for zero. -/
def decimalLength (n : Nat) : Nat := if n = 0 then 0 else (Nat.toDigits 10 n).length

/-- The double nearest to `c · 10^k`. Magnitudes beyond every double are settled by their number of
digits, so that no huge power is computed. -/
def ofDecimal (negative : Bool) (c : Nat) (k : Int) : Binary64 :=
  let magnitude : Int := (decimalLength c : Int) + k
  if c = 0 then .finite negative 0 minExponent
  else if 310 < magnitude then .infinite negative
  else if magnitude < -330 then .finite negative 0 minExponent
  else match k with
    | .ofNat j => ofRatio negative (c * tenTo j) 1
    | .negSucc j => ofRatio negative c (tenTo (j + 1))

/-! ### Parts and tests -/

def isNegative : Binary64 → Bool
  | finite n _ _ => n
  | infinite n => n
  | nan => false

def isFinite : Binary64 → Bool
  | finite .. => true
  | _ => false

def isInfinite : Binary64 → Bool
  | infinite _ => true
  | _ => false

def isNan : Binary64 → Bool
  | nan => true
  | _ => false

def neg : Binary64 → Binary64
  | finite n m e => finite (!n) m e
  | infinite n => infinite (!n)
  | nan => nan

/-- The magnitude rounded toward zero. -/
def truncatedMagnitude (m : Nat) : Int → Nat
  | .ofNat k => m * twoTo k
  | .negSucc k => m / twoTo (k + 1)

/-- The integer part, dropping the fraction; none for an infinity or a NaN. -/
def truncate? : Binary64 → Option Int
  | finite n m e =>
    let t : Int := truncatedMagnitude m e
    some (if n then -t else t)
  | _ => none

/-- Whether the number is finite and has no fractional part. -/
def isIntegral : Binary64 → Bool
  | finite _ m (.negSucc k) => m % twoTo (k + 1) = 0
  | finite _ _ (.ofNat _) => true
  | _ => false

/-- The integer that the number is, if it is one. -/
def toInt? (x : Binary64) : Option Int :=
  if x.isIntegral then x.truncate? else none

/-! ### Order -/

/-- Two finite numbers brought to a common exponent, as signed integers. -/
def aligned (n₁ : Bool) (m₁ : Nat) (e₁ : Int) (n₂ : Bool) (m₂ : Nat) (e₂ : Int) :
    Int × Int × Int :=
  let e := min e₁ e₂
  let a : Int := (m₁ * twoTo (e₁ - e).toNat : Nat)
  let b : Int := (m₂ * twoTo (e₂ - e).toNat : Nat)
  (if n₁ then -a else a, if n₂ then -b else b, e)

/-- The order of the real values; the two zeros are equal and a NaN is comparable with nothing. -/
def compare? : Binary64 → Binary64 → Option Ordering
  | nan, _ => none
  | _, nan => none
  | infinite a, infinite b => some (if a = b then .eq else if a then .lt else .gt)
  | infinite a, finite .. => some (if a then .lt else .gt)
  | finite .., infinite b => some (if b then .gt else .lt)
  | finite n₁ m₁ e₁, finite n₂ m₂ e₂ =>
    let (a, b, _) := aligned n₁ m₁ e₁ n₂ m₂ e₂
    some (compare a b)

/-- Equality of the real values. -/
def equal (x y : Binary64) : Bool := x.compare? y == some .eq

/-! ### Arithmetic -/

def add : Binary64 → Binary64 → Binary64
  | nan, _ => nan
  | _, nan => nan
  | infinite a, infinite b => if a = b then infinite a else nan
  | infinite a, finite .. => infinite a
  | finite .., infinite b => infinite b
  | finite n₁ m₁ e₁, finite n₂ m₂ e₂ =>
    let (a, b, e) := aligned n₁ m₁ e₁ n₂ m₂ e₂
    let s := a + b
    if s = 0 then finite (n₁ && n₂) 0 minExponent
    else ofScaled (s < 0) s.natAbs e

def sub (x y : Binary64) : Binary64 := x.add y.neg

def mul : Binary64 → Binary64 → Binary64
  | nan, _ => nan
  | _, nan => nan
  | infinite a, infinite b => infinite (a != b)
  | infinite a, finite b m _ => if m = 0 then nan else infinite (a != b)
  | finite a m _, infinite b => if m = 0 then nan else infinite (a != b)
  | finite n₁ m₁ e₁, finite n₂ m₂ e₂ => ofScaled (n₁ != n₂) (m₁ * m₂) (e₁ + e₂)

def div : Binary64 → Binary64 → Binary64
  | nan, _ => nan
  | _, nan => nan
  | infinite _, infinite _ => nan
  | infinite a, finite b _ _ => infinite (a != b)
  | finite a _ _, infinite b => finite (a != b) 0 minExponent
  | finite n₁ m₁ e₁, finite n₂ m₂ e₂ =>
    let negative := n₁ != n₂
    if m₂ = 0 then (if m₁ = 0 then nan else infinite negative)
    else match e₁ - e₂ with
      | .ofNat k => ofRatio negative (m₁ * twoTo k) m₂
      | .negSucc k => ofRatio negative m₁ (m₂ * twoTo (k + 1))

/-- The remainder of a division rounded toward zero, with the sign of the dividend. -/
def rem : Binary64 → Binary64 → Binary64
  | nan, _ => nan
  | _, nan => nan
  | infinite _, _ => nan
  | x, infinite _ => x
  | finite n₁ m₁ e₁, finite _ m₂ e₂ =>
    if m₂ = 0 then nan
    else
      let (a, b, e) := aligned false m₁ e₁ false m₂ e₂
      let r := a.natAbs % b.natAbs
      if r = 0 then finite n₁ 0 minExponent else ofScaled n₁ r e

/-- The quotient rounded so that the remainder is not negative. -/
def divEuclid (x y : Binary64) : Binary64 :=
  let truncated := match x.div y with
    | finite n m (.negSucc k) => ofRatio n (m / twoTo (k + 1)) 1
    | q => q
  if (x.rem y).compare? zero = some .lt then
    (if y.compare? zero = some .gt then truncated.sub (ofNat 1) else truncated.add (ofNat 1))
  else truncated

/-! ### Exchange format -/

/-- The 64 bits of the interchange format. -/
def toBits : Binary64 → UInt64
  | nan => 0x7ff8000000000000
  | infinite n => (if n then 0x8000000000000000 else 0) ||| 0x7ff0000000000000
  | finite n m e =>
    let body : UInt64 :=
      if m < twoTo 52 then m.toUInt64
      else ((e + 1075).toNat.toUInt64 <<< 52) ||| (m - twoTo 52).toUInt64
    (if n then 0x8000000000000000 else 0) ||| body

/-- The number that 64 bits of the interchange format stand for. -/
def ofBits (b : UInt64) : Binary64 :=
  let negative := b >>> 63 == 1
  let biased := ((b >>> 52) &&& 0x7ff).toNat
  let fraction := (b &&& 0xfffffffffffff).toNat
  if biased = 0x7ff then (if fraction = 0 then infinite negative else nan)
  else if biased = 0 then finite negative fraction minExponent
  else finite negative (fraction + twoTo 52) ((biased : Int) - 1075)

/-- A power with a floating point exponent, as the machine computes it. -/
def pow (x y : Binary64) : Binary64 :=
  ofBits ((Float.ofBits x.toBits).pow (Float.ofBits y.toBits)).toBits

end Binary64

end HttpResource
