/-
# Addresses of hosts

Addresses of version 4 as one to four numbers in base 10, 8 or 16, and of version 6 as eight pieces.

* `Address4.parse?`, `Address4.text`.
* `Address6.parse?`, `Address6.text`.
-/
import HttpResource.Power
import HttpResource.Text.Split
import HttpResource.Url.Percent

namespace HttpResource

/-- An address of version 4. -/
structure Address4 where
  value : UInt32
deriving DecidableEq, Repr

namespace Address4

/-- The value of digits in a base. -/
def digitsValue? (base : Nat) : List Char → Option Nat
  | s => s.foldlM (fun n c =>
      match Percent.hexValue? c with
      | some d => if d < base then some (n * base + d) else none
      | none => none) 0

/-- A number, which its first characters say the base of; a bare mark of a base is zero. -/
def number? : List Char → Option Nat
  | [] => none
  | '0' :: 'x' :: s => digitsValue? 16 s
  | '0' :: 'X' :: s => digitsValue? 16 s
  | '0' :: c :: s => digitsValue? 8 (c :: s)
  | s => digitsValue? 10 s

/-- The parts of a host name; a dot at the end adds none. -/
def partsOf (s : List Char) : List (List Char) :=
  let parts := Text.splitAll '.' s
  if parts.getLast? = some [] then parts.dropLast else parts

/-- Whether a host name means an address: its last part is a number, or at least has digits alone. -/
def endsInNumber (s : List Char) : Bool :=
  match (partsOf s).getLast? with
  | some last => !last.isEmpty && (last.all Char.isDigit || (number? last).isSome)
  | none => false

/-- The address of numbers: the last one takes all the bytes that the others leave. -/
def ofNumbers? (numbers : List Nat) : Option Address4 :=
  let first := numbers.dropLast
  let last := numbers.getLastD 0
  if 3 < first.length || first.any (255 < ·) || twoTo (8 * (4 - first.length)) ≤ last then none
  else
    let high := first.foldl (fun n x => n * 256 + x) 0
    some ⟨.ofNat (high * twoTo (8 * (4 - first.length)) + last)⟩

def parse? (s : List Char) : Option Address4 := do ofNumbers? (← (partsOf s).mapM number?)

/-- The four bytes with dots between them. -/
def text (a : Address4) : String :=
  let n := a.value.toNat
  s!"{n / 16777216}.{n / 65536 % 256}.{n / 256 % 256}.{n % 256}"

end Address4

/-- An address of version 6 as its eight pieces. -/
structure Address6 where
  pieces : List UInt16
deriving DecidableEq, Repr

namespace Address6

/-- A piece of one to four hexadecimal digits. -/
def piece? (s : List Char) : Option Nat :=
  if s.isEmpty || 4 < s.length then none else Address4.digitsValue? 16 s

/-- A byte in base 10 without a leading zero. -/
def byte? (s : List Char) : Option Nat :=
  if s.isEmpty || 3 < s.length || (1 < s.length && s.head? = some '0') then none
  else (Address4.digitsValue? 10 s).filter (· ≤ 255)

/-- Two pieces as four bytes. -/
def quad? (s : List Char) : Option (List Nat) := do
  match ← (Text.splitAll '.' s).mapM byte? with
  | [a, b, c, d] => some [a * 256 + b, c * 256 + d]
  | _ => none

/-- The pieces of groups, the last of which may be four bytes. -/
def groups? (quadAllowed : Bool) : List (List Char) → Option (List Nat)
  | [] => some []
  | [last] =>
    match piece? last with
    | some n => some [n]
    | none => if quadAllowed then quad? last else none
  | s :: rest => do return (← piece? s) :: (← groups? quadAllowed rest)

/-- The pieces of a text; an empty one has none. -/
def pieces? (quadAllowed : Bool) (s : List Char) : Option (List Nat) :=
  if s.isEmpty then some [] else groups? quadAllowed (Text.splitAll ':' s)

/-- The text before two colons and the text after them. -/
def splitDouble : List Char → Option (List Char × List Char)
  | [] => none
  | ':' :: ':' :: rest => some ([], rest)
  | c :: rest => (splitDouble rest).map fun (a, b) => (c :: a, b)

/-- The address of a text. Two colons stand for one or more pieces that are zero. -/
def parse? (s : List Char) : Option Address6 :=
  match splitDouble s with
  | none => do
    let pieces ← pieces? true s
    if pieces.length = 8 then some ⟨pieces.map .ofNat⟩ else none
  | some (left, right) => do
    let first ← pieces? false left
    let last ← pieces? true right
    if first.length + last.length < 8 then
      let zeros := List.replicate (8 - first.length - last.length) 0
      some ⟨(first ++ zeros ++ last).map .ofNat⟩
    else none

/-- The hexadecimal digits of a piece without leading zeros. -/
def pieceText (p : UInt16) : List Char := Nat.toDigits 16 p.toNat

/-- Start and length of the first longest run of zeros among pieces from a place on. -/
def longestZeros (place : Nat) : List UInt16 → Nat × Nat
  | [] => (place, 0)
  | p :: rest =>
    let run := ((p :: rest).takeWhile (· = 0)).length
    let (start, length) := longestZeros (place + 1) rest
    if length ≤ run then (place, run) else (start, length)

def joinPieces (pieces : List UInt16) : List Char :=
  (pieces.map pieceText).intersperse [':'] |>.flatten

/-- The pieces with colons between them; the first longest run of two or more zeros is left out. -/
def text (a : Address6) : String :=
  let (start, length) := longestZeros 0 a.pieces
  String.ofList <|
    if length < 2 then joinPieces a.pieces
    else joinPieces (a.pieces.take start) ++ [':', ':'] ++ joinPieces (a.pieces.drop (start + length))

end Address6

end HttpResource
