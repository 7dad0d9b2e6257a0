/-
# Punycode

International labels of host names in ASCII: the basic characters, a hyphen, and the other characters
as differences of code points and places, in digits of base 36 with a bias that adapts.

* `Punycode.encode`: the ASCII form of a label.
* `Punycode.decode?`: the label of an ASCII form.
-/
namespace HttpResource

namespace Punycode

def isBasic (c : Char) : Bool := c.toNat < 0x80

/-- The value of a digit, letters before numerals. -/
def digitValue? (c : Char) : Option Nat :=
  if 'a' ≤ c && c ≤ 'z' then some (c.toNat - 'a'.toNat)
  else if 'A' ≤ c && c ≤ 'Z' then some (c.toNat - 'A'.toNat)
  else if '0' ≤ c && c ≤ '9' then some (c.toNat - '0'.toNat + 26)
  else none

def digitChar (d : Nat) : Char :=
  if d < 26 then Char.ofNat (d + 'a'.toNat) else Char.ofNat (d - 26 + '0'.toNat)

/-! ### The bias -/

/-- Divides until the rest is small, counting 36 for each division. -/
def settle : Nat → Nat → Nat → Nat
  | 0, delta, k => k + 36 * delta / (delta + 38)
  | fuel + 1, delta, k =>
    if 455 < delta then settle fuel (delta / 35) (k + 36) else k + 36 * delta / (delta + 38)

/-- The bias after a difference, for so many characters. -/
def adapt (delta points : Nat) (first : Bool) : Nat :=
  let delta := if first then delta / 700 else delta / 2
  settle delta (delta + delta / points) 0

/-- The threshold of the digit with weight index `k`. -/
def threshold (k bias : Nat) : Nat := min 26 (max 1 (k - bias))

/-! ### Encoding -/

/-- A difference in digits of variable length. -/
def digitsFrom (bias : Nat) : Nat → Nat → Nat → List Char
  | 0, _, _ => []
  | fuel + 1, k, n =>
    let t := threshold k bias
    if n < t then [digitChar n]
    else digitChar (t + (n - t) % (36 - t)) :: digitsFrom bias fuel (k + 36) ((n - t) / (36 - t))

def digits (bias n : Nat) : List Char := digitsFrom bias (n + 1) 36 n

/-- The state of an encoder: the difference so far, the bias, the characters done, the digits. -/
structure Encoder where
  delta : Nat
  bias : Nat
  done : Nat
  basic : Nat
  out : List Char

/-- Passes one character of the label: one below the code point moves the place, the code point itself
writes the difference. -/
def Encoder.pass (n : Nat) (e : Encoder) (c : Char) : Encoder :=
  if c.toNat < n then { e with delta := e.delta + 1 }
  else if c.toNat = n then
    { e with
      delta := 0
      bias := adapt e.delta (e.done + 1) (e.done = e.basic)
      done := e.done + 1
      out := e.out ++ digits e.bias e.delta }
  else e

/-- Writes all occurrences of each code point, in ascending order; `n` is the first one not yet
done. -/
def encodePoints (s : List Char) : List Nat → Nat → Encoder → Encoder
  | [], _, e => e
  | m :: rest, n, e =>
    let e := { e with delta := e.delta + (m - n) * (e.done + 1) }
    let e := s.foldl (Encoder.pass m) e
    encodePoints s rest (m + 1) { e with delta := e.delta + 1 }

/-- The ASCII form of a label. -/
def encode (s : List Char) : List Char :=
  let basic := s.filter isBasic
  let points := ((s.filter fun c => !isBasic c).map Char.toNat).mergeSort.eraseDups
  let start := if basic.isEmpty then [] else basic ++ ['-']
  (encodePoints s points 0x80 ⟨0, 72, basic.length, basic.length, start⟩).out

/-! ### Decoding -/

/-- A difference in digits of variable length, and the rest. -/
def difference? (bias : Nat) : Nat → Nat → Nat → List Char → Option (Nat × List Char)
  | _, _, _, [] => none
  | value, weight, k, c :: rest =>
    match digitValue? c with
    | none => none
    | some d =>
      let value := value + d * weight
      let t := threshold k bias
      if d < t then some (value, rest) else difference? bias value (weight * (36 - t)) (k + 36) rest

def insertAt {α : Type} (a : α) (i : Nat) (s : List α) : List α := s.take i ++ a :: s.drop i

/-- Inserts the characters that differences tell of; `n` and `i` are the code point and place of the
last one. -/
def insertions? (first : Bool) (n i bias : Nat) (out : List Char) : Nat → List Char →
    Option (List Char)
  | _, [] => some out
  | 0, _ => none
  | fuel + 1, s =>
    match difference? bias 0 1 36 s with
    | none => none
    | some (delta, rest) =>
      let points := out.length + 1
      let m := n + (i + delta) / points
      let j := (i + delta) % points
      if m < 0xd800 || (0xdfff < m && m < 0x110000) then
        insertions? false m (j + 1) (adapt delta points first) (insertAt (Char.ofNat m) j out) fuel
          rest
      else none

/-- The basic characters before the last hyphen, and the digits after it. -/
def splitBasic (s : List Char) : List Char × List Char :=
  let tail := (s.reverse.takeWhile (· ≠ '-')).reverse
  if tail.length = s.length then ([], s)
  else (s.take (s.length - tail.length - 1), tail)

/-- The label of an ASCII form. -/
def decode? (s : List Char) : Option (List Char) :=
  let (basic, tail) := splitBasic s
  if basic.all isBasic then insertions? true 0x80 0 72 basic tail.length tail else none

end Punycode

end HttpResource
