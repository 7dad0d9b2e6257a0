/-
# The shortest decimal text of a double

Among the decimals that read back as a given double, the shortest ones are taken, and of those the one
nearest to it. `Binary64.shortest` finds the digits by exact arithmetic on the decimal grids, the
coarsest grid first; `Binary64.render` lays them out as a `Layout` says.

* `Binary64.shortest`: digits and power of ten.
* `Layout`: where positional notation ends and how an exponent is written.
-/
import HttpResource.Binary64

namespace HttpResource

namespace Binary64

/-- The double and the two ends of the interval of reals that round to it, as integers over one
denominator `den`; the ends belong to the interval when `closed`. -/
structure Interval where
  low : Nat
  value : Nat
  high : Nat
  den : Nat
  closed : Bool

/-- The interval of `m · 2^e`: half a unit on each side, a quarter below a power of two. -/
def interval (m : Nat) (e : Int) : Interval :=
  let tight := m = twoTo 52 && minExponent < e
  let low := if tight then 4 * m - 1 else 4 * m - 2
  let (up, den) := match e - 2 with
    | .ofNat k => (twoTo k, 1)
    | .negSucc k => (1, twoTo (k + 1))
  ⟨low * up, 4 * m * up, (4 * m + 2) * up, den, m % 2 = 0⟩

/-- Whether `d · 10^k` lies in the interval. -/
def Interval.holds (i : Interval) (d : Nat) (k : Int) : Bool :=
  let (n, den) := match k with
    | .ofNat j => (d * tenTo j * i.den, 1)
    | .negSucc j => (d * i.den, tenTo (j + 1))
  if i.closed then i.low * den ≤ n && n ≤ i.high * den
  else i.low * den < n && n < i.high * den

/-- The candidate on the grid `10^k`: of the value's two neighbours that lie in the interval the
nearer one, the even one on a tie. -/
def Interval.candidate? (i : Interval) (k : Int) : Option Nat :=
  let (n, den) := match k with
    | .ofNat j => (i.value, i.den * tenTo j)
    | .negSucc j => (i.value * tenTo (j + 1), i.den)
  let d := n / den
  match i.holds d k && d != 0, i.holds (d + 1) k with
  | false, false => none
  | true, false => some d
  | false, true => some (d + 1)
  | true, true => some (roundHalfEven n den)

/-- Tries the grids `10^k`, `10^(k-1)`, … and takes the first that has a candidate. -/
def Interval.search (i : Interval) : Nat → Int → Nat × Int
  | 0, k => (0, k)
  | steps + 1, k =>
    match i.candidate? k with
    | some d => (d, k)
    | none => i.search steps (k - 1)

/-- The shortest digits `d` and the power `k` of a nonzero double: `d · 10^k` reads back as it. -/
def shortest (m : Nat) (e : Int) : Nat × Int :=
  let i := interval m e
  let top : Int := (decimalLength (i.high / i.den + 1) : Int)
  let start := if i.den ≤ i.high then top else
    -- below one: the first grid is at the leading zero count of the upper end
    1 - (decimalLength (i.den / i.high) : Int)
  i.search 20 (start + 1)

/-- How the text of a number is laid out. The point stands after `p` digits, where `0.d…` has
`p = 0`; numbers with `positionalAbove < p ≤ positionalUpTo` are written positionally. -/
structure Layout where
  positionalAbove : Int
  positionalUpTo : Int
  plusSign : Bool
deriving Repr

/-- `d · 10^k` written positionally, always with a point. -/
def positional (digits : List Char) (p : Int) : List Char :=
  match p with
  | .ofNat q =>
    let whole := digits.take q ++ List.replicate (q - digits.length) '0'
    let rest := digits.drop q
    (if q = 0 then ['0'] else whole) ++ ['.'] ++ (if rest.isEmpty then ['0'] else rest)
  | .negSucc q => ['0', '.'] ++ List.replicate (q + 1) '0' ++ digits

/-- Digits with a point after the first and a power of ten. -/
def scientific (plusSign : Bool) (digits : List Char) (p : Int) : List Char :=
  let mantissa := match digits with
    | [] => []
    | [d] => [d]
    | d :: rest => d :: '.' :: rest
  let power := p - 1
  mantissa ++ ['e'] ++ (if 0 ≤ power && plusSign then ['+'] else []) ++ (toString power).toList

/-- The text of a number in a layout. -/
def render (layout : Layout) : Binary64 → String
  | nan => "NaN"
  | infinite n => if n then "-inf" else "inf"
  | finite n m e =>
    let sign := if n then ['-'] else []
    if m = 0 then String.ofList (sign ++ ['0', '.', '0'])
    else
      let (d, k) := shortest m e
      let digits := Nat.toDigits 10 d
      let p : Int := digits.length + k
      String.ofList (sign ++
        if layout.positionalAbove < p && p ≤ layout.positionalUpTo then positional digits p
        else scientific layout.plusSign digits p)

/-- Numbers that a person reads in a message: positional from `0.0001` up to below `1e16`. -/
def messageLayout : Layout := ⟨-4, 16, false⟩

/-- Numbers as a template prints them: always positional. -/
def plainLayout : Layout := ⟨-2000, 2000, false⟩

end Binary64

end HttpResource
