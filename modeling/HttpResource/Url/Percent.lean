/-
# Percent-encoding

A byte that may not stand for itself is written as a percent sign and two hexadecimal digits.

* `encode`: a text with every character of a class encoded.
* `decode`: the bytes that a text stands for.
-/
import HttpResource.Text.Utf8

namespace HttpResource

namespace Percent

/-! ### Classes of characters to encode -/

/-- Control characters, and all that is not ASCII. -/
def isControl (c : Char) : Bool := c.toNat < 0x20 || 0x7f ≤ c.toNat

/-- What a fragment encodes. -/
def inFragment (c : Char) : Bool := isControl c || [' ', '\x22', '<', '>', '\x60'].contains c

/-- What a path encodes. -/
def inPath (c : Char) : Bool := inFragment c || ['#', '?', '\x7b', '\x7d'].contains c

/-- What a user name or password encodes. -/
def inUserinfo (c : Char) : Bool :=
  inPath c || ['/', ':', ';', '=', '@', '[', '\\', ']', '^', '|'].contains c

/-- What a query encodes. -/
def inQuery (c : Char) : Bool := isControl c || [' ', '\x22', '#', '<', '>'].contains c

/-- What the query of a special URL encodes. -/
def inSpecialQuery (c : Char) : Bool := inQuery c || c = '\''

/-! ### Encoding -/

/-- The upper case hexadecimal digit of a value below 16. -/
def hexDigit (n : Nat) : Char :=
  if n < 10 then Char.ofNat ('0'.toNat + n) else Char.ofNat ('A'.toNat + (n - 10))

def encodeByte (b : UInt8) : List Char := ['%', hexDigit (b.toNat / 16), hexDigit (b.toNat % 16)]

def encodeChar (inClass : Char → Bool) (c : Char) : List Char :=
  if inClass c then (Text.bytesOf c.toString).flatMap encodeByte else [c]

def encode (inClass : Char → Bool) (s : List Char) : List Char := s.flatMap (encodeChar inClass)

/-! ### Decoding -/

/-- The value of a hexadecimal digit. -/
def hexValue? (c : Char) : Option Nat :=
  if '0' ≤ c && c ≤ '9' then some (c.toNat - '0'.toNat)
  else if 'a' ≤ c && c ≤ 'f' then some (c.toNat - 'a'.toNat + 10)
  else if 'A' ≤ c && c ≤ 'F' then some (c.toNat - 'A'.toNat + 10)
  else none

/-- The byte of a percent sign and two digits at the front. -/
def escape? : List Char → Option UInt8
  | '%' :: a :: b :: _ => do return .ofNat (16 * (← hexValue? a) + (← hexValue? b))
  | _ => none

/-- The bytes of a text, of which so many characters belong to an escape that was read. A percent sign
without two digits stands for itself. -/
def decodeFrom : Nat → List Char → List UInt8
  | _, [] => []
  | skip + 1, _ :: rest => decodeFrom skip rest
  | 0, c :: rest =>
    match escape? (c :: rest) with
    | some b => b :: decodeFrom 2 rest
    | none => Text.bytesOf c.toString ++ decodeFrom 0 rest

def decode (s : List Char) : List UInt8 := decodeFrom 0 s

end Percent

end HttpResource
