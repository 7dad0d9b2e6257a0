/-
# Reading JSON text

A document is one JSON value with white space around it, nested at most 127 containers deep. A number
without fraction and exponent that fits 64 bits is an integer; every other one is a double, and one
beyond the doubles makes the text no JSON.

* `Json.document?`: the value as written, fields in the order of the text and repeated names kept.
* `Json.parse?`: the canonical value.
-/
import HttpResource.Json
import HttpResource.Json.StringLiteral

namespace HttpResource

namespace Json

/-- The white space of JSON. -/
def isSpace (c : Char) : Bool := c = ' ' || c = '\t' || c = '\n' || c = '\r'

def skipSpace (s : List Char) : List Char := s.dropWhile isSpace

def isDigit (c : Char) : Bool := '0' ≤ c && c ≤ '9'

def digitValue (c : Char) : Nat := c.toNat - '0'.toNat

/-! ### Numbers -/

/-- Digits are gathered into a number of 64 bits; those that would exceed it are left. The result is
the number, how many digits it took, and the digits left. -/
def gather (n : Nat) (taken : Nat) : List Char → Nat × Nat × List Char
  | [] => (n, taken, [])
  | c :: rest =>
    if n * 10 + digitValue c < twoTo 64 then gather (n * 10 + digitValue c) (taken + 1) rest
    else (n, taken, c :: rest)

/-- `n · 10^k` by at most two roundings: the number first, then its scaling by one power of ten; none
if the result is beyond the doubles. -/
def scaleDouble (negative : Bool) (n : Nat) (k : Int) : Option Binary64 :=
  let signed (x : Binary64) := if negative then x.neg else x
  let power (j : Nat) := Binary64.ofDecimal false 1 j
  if 0 ≤ k then
    if n = 0 then some (signed .zero)
    else if 308 < k then none
    else
      let x := (Binary64.ofNat n).mul (power k.toNat)
      if x.isInfinite then none else some (signed x)
  else
    -- `n < 2^64`, so two steps of 308 places leave nothing
    let j := k.natAbs
    let x := Binary64.ofNat n
    if j ≤ 308 then some (signed (x.div (power j)))
    else if j ≤ 616 then some (signed ((x.div (power 308)).div (power (j - 308))))
    else some (signed .zero)

/-- The exponent after `e`: its sign and digits, and the rest. -/
def exponent? (s : List Char) : Option (Int × List Char) :=
  let (negative, s) := match s with
    | '+' :: rest => (false, rest)
    | '-' :: rest => (true, rest)
    | _ => (false, s)
  let digits := s.takeWhile isDigit
  if digits.isEmpty then none
  else
    let n : Int := digits.foldl (fun n c => n * 10 + digitValue c) 0
    some (if negative then -n else n, s.dropWhile isDigit)

/-- A number from the digit run `whole` before the point or exponent. -/
def numberFrom (negative : Bool) (whole rest : List Char) : Option (Number × List Char) :=
  let (n, _, excess) := gather 0 0 whole
  let scale : Int := excess.length
  match rest with
  | '.' :: tail =>
    let digits := tail.takeWhile isDigit
    let tail := tail.dropWhile isDigit
    if digits.isEmpty then none
    else
      let (n, taken, _) := gather n 0 digits
      let scale := scale - taken
      match tail with
      | c :: after =>
        if c = 'e' || c = 'E' then do
          let (k, after) ← exponent? after
          return (.double (← scaleDouble negative n (scale + k)), after)
        else (scaleDouble negative n scale).map fun x => (.double x, tail)
      | [] => (scaleDouble negative n scale).map fun x => (.double x, [])
  | c :: after =>
    if c = 'e' || c = 'E' then do
      let (k, after) ← exponent? after
      return (.double (← scaleDouble negative n (scale + k)), after)
    else integer n excess scale rest
  | [] => integer n excess scale []
where
  /-- A number without fraction and exponent. -/
  integer (n : Nat) (excess : List Char) (scale : Int) (rest : List Char) :
      Option (Number × List Char) :=
    if excess.isEmpty then
      if !negative then some (.int n, rest)
      else if n = 0 || twoTo 63 < n then some (.double (Binary64.ofRatio true n 1), rest)
      else some (.int (-n), rest)
    else (scaleDouble negative n scale).map fun x => (.double x, rest)

/-- A number at the front of a text: no leading zero, a digit on both sides of a point. -/
def number? (s : List Char) : Option (Number × List Char) :=
  let (negative, s) := match s with
    | '-' :: rest => (true, rest)
    | _ => (false, s)
  let whole := s.takeWhile isDigit
  match whole with
  | [] => none
  | ['0'] => numberFrom negative whole (s.dropWhile isDigit)
  | '0' :: _ => none
  | _ => numberFrom negative whole (s.dropWhile isDigit)

/-! ### Values -/

/-- The rest of a text after a word it starts with. -/
def after? (word : List Char) (s : List Char) : Option (List Char) :=
  if word.isPrefixOf s then some (s.drop word.length) else none

mutual

/-- A value at the front of a text, white space before it skipped. `depth` containers may still be
opened; `fuel` bounds the steps. -/
def value? : Nat → Nat → List Char → Option (Json × List Char)
  | 0, _, _ => none
  | fuel + 1, depth, s =>
    match skipSpace s with
    | [] => none
    | 'n' :: rest => (after? ['u', 'l', 'l'] rest).map fun r => (.null, r)
    | 't' :: rest => (after? ['r', 'u', 'e'] rest).map fun r => (.bool true, r)
    | 'f' :: rest => (after? ['a', 'l', 's', 'e'] rest).map fun r => (.bool false, r)
    | '\x22' :: rest =>
      match StringLiteral.read rest with
      | .ok (cs, r) => some (.string (String.ofList cs), r)
      | .error _ => none
    | '[' :: rest =>
      match depth with
      | 0 => none
      | depth + 1 =>
        match skipSpace rest with
        | ']' :: r => some (.array [], r)
        | r => (items? fuel depth r).map fun (vs, r) => (.array vs, r)
    | '\x7b' :: rest =>
      match depth with
      | 0 => none
      | depth + 1 =>
        match skipSpace rest with
        | '\x7d' :: r => some (.object [], r)
        | r => (fields? fuel depth r).map fun (fs, r) => (.object fs, r)
    | c :: rest =>
      if c = '-' || isDigit c then (number? (c :: rest)).map fun (n, r) => (.number n, r) else none

/-- One or more items and the closing bracket. -/
def items? : Nat → Nat → List Char → Option (List Json × List Char)
  | 0, _, _ => none
  | fuel + 1, depth, s =>
    match value? fuel depth s with
    | none => none
    | some (v, rest) =>
      match skipSpace rest with
      | ',' :: r => (items? fuel depth r).map fun (vs, r) => (v :: vs, r)
      | ']' :: r => some ([v], r)
      | _ => none

/-- One or more fields and the closing brace. -/
def fields? : Nat → Nat → List Char → Option (List (String × Json) × List Char)
  | 0, _, _ => none
  | fuel + 1, depth, s =>
    match skipSpace s with
    | '\x22' :: rest =>
      match StringLiteral.read rest with
      | .error _ => none
      | .ok (name, r) =>
        match skipSpace r with
        | ':' :: r =>
          match value? fuel depth r with
          | none => none
          | some (v, r) =>
            let one := (String.ofList name, v)
            match skipSpace r with
            | ',' :: r => (fields? fuel depth r).map fun (fs, r) => (one :: fs, r)
            | '\x7d' :: r => some ([one], r)
            | _ => none
        | _ => none
    | _ => none

end

/-- How many containers may be nested. -/
def maxDepth : Nat := 127

/-- The value of a whole document as written. Two steps a character are enough. -/
def document? (s : String) : Option Json :=
  let cs := s.toList
  match value? (2 * cs.length + 2) maxDepth cs with
  | some (v, rest) => if (skipSpace rest).isEmpty then some v else none
  | none => none

/-- The canonical value of a document. -/
def parse? (s : String) : Option Json := (document? s).map canonical

/-- The value of a text that is JSON, or else the text as a JSON string. -/
def parseOrString (s : String) : Json := (parse? s).getD (.string s)

end Json

end HttpResource
