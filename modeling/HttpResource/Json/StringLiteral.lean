/-
# JSON string literals

Reading a JSON string, the opening quote already taken. A fault tells what is wrong and how many bytes
had been read when it was found.

* `StringLiteral.read`: the characters and the rest after the closing quote.
* `StringLiteral.value?`: the value of a text that is one literal, or the fault with its place.
-/
import HttpResource.Text.Utf8

namespace HttpResource

namespace StringLiteral

inductive FaultKind
  | invalidEscape
  | controlCharacter
  | loneSurrogate
  | unexpectedEndOfEscape
  | endOfInput
deriving DecidableEq, Repr

/-- What is wrong, and after how many bytes. -/
structure Fault where
  kind : FaultKind
  offset : Nat
deriving DecidableEq, Repr

def FaultKind.message : FaultKind → String
  | invalidEscape => "invalid escape"
  | controlCharacter => "control character (\\u0000-\\u001F) found while parsing a string"
  | loneSurrogate => "lone leading surrogate in hex escape"
  | unexpectedEndOfEscape => "unexpected end of hex escape"
  | endOfInput => "EOF while parsing a string"

def hexDigit? (c : Char) : Option Nat :=
  if '0' ≤ c && c ≤ '9' then some (c.toNat - '0'.toNat)
  else if 'a' ≤ c && c ≤ 'f' then some (c.toNat - 'a'.toNat + 10)
  else if 'A' ≤ c && c ≤ 'F' then some (c.toNat - 'A'.toNat + 10)
  else none

/-- The value of four hexadecimal digits at the front. `offset` bytes have been read before them. -/
def fourDigits (offset : Nat) (s : List Char) : Except Fault Nat :=
  match s with
  | a :: b :: c :: d :: _ =>
    match hexDigit? a, hexDigit? b, hexDigit? c, hexDigit? d with
    | some w, some x, some y, some z => .ok (((w * 16 + x) * 16 + y) * 16 + z)
    | _, _, _, _ => .error ⟨.invalidEscape, offset + 4⟩
  | _ =>
    if Text.byteLength s < 4 then .error ⟨.endOfInput, offset + Text.byteLength s⟩
    else .error ⟨.invalidEscape, offset + 4⟩

/-- The character that a `\u` escape stands for, and how many characters after the `u` it takes; a
pair of surrogates is one character. -/
def unicodeEscape (offset : Nat) (s : List Char) : Except Fault (Char × Nat) := do
  let high ← fourDigits offset s
  if 0xdc00 ≤ high && high ≤ 0xdfff then throw ⟨.loneSurrogate, offset + 4⟩
  else if high < 0xd800 || 0xdbff < high then return (Char.ofNat high, 4)
  else
    match s.drop 4 with
    | [] => throw ⟨.endOfInput, offset + 4⟩
    | '\\' :: 'u' :: rest =>
      let low ← fourDigits (offset + 6) rest
      if low < 0xdc00 || 0xdfff < low then throw ⟨.loneSurrogate, offset + 10⟩
      else return (Char.ofNat (0x10000 + (high - 0xd800) * 0x400 + (low - 0xdc00)), 10)
    | ['\\'] => throw ⟨.endOfInput, offset + 5⟩
    | '\\' :: _ => throw ⟨.unexpectedEndOfEscape, offset + 6⟩
    | _ => throw ⟨.unexpectedEndOfEscape, offset + 5⟩

/-- The character that an escape stands for, and how many characters after the backslash it takes. -/
def escape (offset : Nat) : List Char → Except Fault (Char × Nat)
  | [] => .error ⟨.endOfInput, offset⟩
  | 'u' :: rest => (unicodeEscape (offset + 1) rest).map fun (c, n) => (c, n + 1)
  | '\x22' :: _ => .ok ('\x22', 1)
  | '\\' :: _ => .ok ('\\', 1)
  | '/' :: _ => .ok ('/', 1)
  | 'b' :: _ => .ok ('\x08', 1)
  | 'f' :: _ => .ok ('\x0c', 1)
  | 'n' :: _ => .ok ('\n', 1)
  | 'r' :: _ => .ok ('\r', 1)
  | 't' :: _ => .ok ('\t', 1)
  | _ :: _ => .error ⟨.invalidEscape, offset + 1⟩

/-- Reads up to the closing quote. `skip` characters belong to an escape that has been read already,
`offset` counts the bytes before the text. -/
def readFrom (offset : Nat) : Nat → List Char → Except Fault (List Char × List Char)
  | _, [] => .error ⟨.endOfInput, offset⟩
  | skip + 1, c :: rest => readFrom (offset + c.utf8Size) skip rest
  | 0, c :: rest =>
    if c = '\x22' then .ok ([], rest)
    else if c = '\\' then
      match escape (offset + 1) rest with
      | .error fault => .error fault
      | .ok (x, used) => (readFrom (offset + 1) used rest).map fun (cs, r) => (x :: cs, r)
    else if c.toNat < 0x20 then .error ⟨.controlCharacter, offset + 1⟩
    else (readFrom (offset + c.utf8Size) 0 rest).map fun (cs, r) => (c :: cs, r)

/-- Reads a string after its opening quote. -/
def read (s : List Char) : Except Fault (List Char × List Char) := readFrom 1 0 s

/-- The characters of a text that fill its first `n` bytes, the last one perhaps only in part. -/
def takeBytes : Nat → List Char → List Char
  | _, [] => []
  | n, c :: rest => if n = 0 then [] else c :: takeBytes (n - c.utf8Size) rest

/-- Line and column of a place, given what stands before it: lines count from one, columns are bytes
since the last line break. -/
def lineAndColumn (s : List Char) (offset : Nat) : Nat × Nat :=
  let before := takeBytes offset s
  let lastLine := (before.reverse.takeWhile (· ≠ '\n')).reverse
  (1 + before.count '\n', offset - (Text.byteLength before - Text.byteLength lastLine))

/-- The message of a fault in a text. -/
def Fault.message (s : List Char) (fault : Fault) : String :=
  let (line, column) := lineAndColumn s fault.offset
  fault.kind.message ++ " at line " ++ toString line ++ " column " ++ toString column

/-- The value of a text that starts with a quote and ends with the quote that closes it. -/
def value? (literal : List Char) : Except String String :=
  match read literal.tail with
  | .ok (cs, _) => .ok (String.ofList cs)
  | .error fault => .error (fault.message literal)

end StringLiteral

end HttpResource
