/-
# Base 64

Bytes in the standard alphabet of 64 digits, four digits for three bytes, with the last group padded.
Only the padded form that `encode` writes is read.

* `encode`: the digits of bytes.
* `decode`: the bytes of digits, or the first fault.
-/
import HttpResource.Text.Utf8

namespace HttpResource

namespace Base64

/-- The digit of a value below 64. -/
def digit (n : Nat) : Char :=
  if n < 26 then Char.ofNat ('A'.toNat + n)
  else if n < 52 then Char.ofNat ('a'.toNat + (n - 26))
  else if n < 62 then Char.ofNat ('0'.toNat + (n - 52))
  else if n = 62 then '+'
  else '/'

/-- The padding. -/
def pad : Char := '='

/-- The digits of bytes, padded. -/
def encode : List UInt8 → List Char
  | [] => []
  | [a] => [digit (a.toNat / 4), digit (a.toNat % 4 * 16), pad, pad]
  | [a, b] =>
    [digit (a.toNat / 4), digit (a.toNat % 4 * 16 + b.toNat / 16), digit (b.toNat % 16 * 4), pad]
  | a :: b :: c :: rest =>
    [digit (a.toNat / 4), digit (a.toNat % 4 * 16 + b.toNat / 16),
      digit (b.toNat % 16 * 4 + c.toNat / 64), digit (c.toNat % 64)] ++ encode rest

/-- What is wrong with a text of digits. Offsets count bytes. -/
inductive Fault
  | symbol (value : UInt8) (offset : Nat)
  | lastSymbol (value : UInt8) (offset : Nat)
  | length (n : Nat)
  | padding
deriving DecidableEq, Repr

def Fault.message : Fault → String
  | symbol value offset => s!"Invalid symbol {value}, offset {offset}."
  | lastSymbol value offset => s!"Invalid last symbol {value}, offset {offset}."
  | length n => s!"Invalid input length: {n}"
  | padding => "Invalid padding"

/-- The value of a digit, given as a byte. -/
def value? (b : UInt8) : Option Nat :=
  let n := b.toNat
  if 'A'.toNat ≤ n && n ≤ 'Z'.toNat then some (n - 'A'.toNat)
  else if 'a'.toNat ≤ n && n ≤ 'z'.toNat then some (n - 'a'.toNat + 26)
  else if '0'.toNat ≤ n && n ≤ '9'.toNat then some (n - '0'.toNat + 52)
  else if n = '+'.toNat then some 62
  else if n = '/'.toNat then some 63
  else none

def isPad (b : UInt8) : Bool := b.toNat = pad.toNat

/-- The value of the digit at an offset. -/
def valueAt (offset : Nat) (b : UInt8) : Except Fault Nat :=
  match value? b with
  | some v => .ok v
  | none => .error (.symbol b offset)

/-- The values of the last group's digits, and how much padding follows them. There is padding only
after two digits, and nothing but padding after it. -/
def lastValues (start : Nat) : Nat → List UInt8 → Except Fault (List Nat × Nat)
  | _, [] => .ok ([], 0)
  | place, b :: rest =>
    if isPad b then
      if place < 2 || !rest.all isPad then .error (.symbol b (start + place))
      else .ok ([], rest.length + 1)
    else
      match valueAt (start + place) b with
      | .error e => .error e
      | .ok v => (lastValues start (place + 1) rest).map fun (vs, p) => (v :: vs, p)

/-- The bytes of the last group, which has at most four characters and starts at an offset. Bits beyond
the last whole byte must be zero. -/
def decodeLast (start : Nat) (group : List UInt8) : Except Fault (List UInt8) :=
  match lastValues start 0 group with
  | .error e => .error e
  | .ok (values, padding) =>
    if group.isEmpty then .ok []
    else if values.length < 2 then .error (.length (start + values.length))
    else if (values.length + padding) % 4 ≠ 0 then .error .padding
    else
      let last := group.getD (values.length - 1) 0
      match values with
      | [u, v] =>
        if v % 16 = 0 then .ok [.ofNat (u * 4 + v / 16)]
        else .error (.lastSymbol last (start + 1))
      | [u, v, w] =>
        if w % 4 = 0 then .ok [.ofNat (u * 4 + v / 16), .ofNat (v % 16 * 16 + w / 4)]
        else .error (.lastSymbol last (start + 2))
      | [u, v, w, x] =>
        .ok [.ofNat (u * 4 + v / 16), .ofNat (v % 16 * 16 + w / 4), .ofNat (w % 4 * 64 + x)]
      | _ => .error .padding

/-- The bytes of digits that start at an offset: whole groups, then the last one. -/
def decodeFrom (start : Nat) : List UInt8 → Except Fault (List UInt8)
  | a :: b :: c :: d :: e :: rest => do
    let u ← valueAt start a
    let v ← valueAt (start + 1) b
    let w ← valueAt (start + 2) c
    let x ← valueAt (start + 3) d
    let bytes ← decodeFrom (start + 4) (e :: rest)
    return .ofNat (u * 4 + v / 16) :: .ofNat (v % 16 * 16 + w / 4) :: .ofNat (w % 4 * 64 + x) :: bytes
  | group => decodeLast start group

/-- The bytes of digits. A lone last character that is no digit is named before any other fault. -/
def decode (digits : List UInt8) : Except Fault (List UInt8) :=
  let last := digits.getLastD 0
  if digits.length % 4 = 1 && !isPad last && (value? last).isNone then
    .error (.symbol last (digits.length - 1))
  else decodeFrom 0 digits

/-- A text in digits. -/
def encodeText (s : String) : String := String.ofList (encode (Text.bytesOf s))

end Base64

end HttpResource
