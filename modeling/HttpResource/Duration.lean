/-
# Durations

A duration is a number of seconds and nanoseconds. It is written as a run of components, each a decimal
number and a unit, such as `1h30m` or `1.5s`.

* `Duration.parse`: reads a text, blanks at its ends ignored.
* `Duration.describe`: the text in messages, in the largest unit with a nonzero whole part.
-/
import HttpResource.Power
import HttpResource.Text.Blank
import HttpResource.Text.Utf8

namespace HttpResource

/-- Whole seconds of 64 bits, and nanoseconds below a second. -/
structure Duration where
  seconds : Nat
  nanos : Nat
  seconds_lt : seconds < 18446744073709551616 := by decide
  nanos_lt : nanos < 1000000000 := by decide
deriving DecidableEq, Repr

namespace Duration

def zero : Duration := { seconds := 0, nanos := 0 }

/-- The duration of a number of nanoseconds. Seconds beyond 64 bits are held at the greatest value,
whatever is below a second is kept. -/
def ofNanos (n : Nat) : Duration where
  seconds := min (n / 1000000000) 18446744073709551615
  nanos := n % 1000000000
  seconds_lt := by omega
  nanos_lt := Nat.mod_lt _ (by decide)

def ofSeconds (n : Nat) : Duration := .ofNanos (n * 1000000000)

def toNanos (d : Duration) : Nat := d.seconds * 1000000000 + d.nanos

/-! ### Units and components -/

inductive TimeUnit
  | hour
  | minute
  | second
  | millisecond
  | microsecond
  | nanosecond
deriving DecidableEq, Repr

/-- Nanoseconds in a unit. -/
def TimeUnit.scale : TimeUnit → Nat
  | hour => 3600000000000
  | minute => 60000000000
  | second => 1000000000
  | millisecond => 1000000
  | microsecond => 1000
  | nanosecond => 1

/-- The spellings of the units, the longer of two with a common start first. Microseconds may be
written with either of the two characters for mu. -/
def spellings : List (List Char × TimeUnit) :=
  [(['n', 's'], .nanosecond), (['u', 's'], .microsecond), (['\u00b5', 's'], .microsecond),
   (['\u03bc', 's'], .microsecond), (['m', 's'], .millisecond), (['h'], .hour), (['m'], .minute),
   (['s'], .second)]

/-- The unit at the front of a text, and the rest. -/
def unit? (s : List Char) : Option (TimeUnit × List Char) :=
  spellings.findSome? fun (spelling, unit) =>
    if spelling.isPrefixOf s then some (unit, s.drop spelling.length) else none

/-- A number with its unit, as digits before and after the point. -/
structure Component where
  whole : List Char
  fraction : List Char
  unit : TimeUnit
deriving DecidableEq, Repr

/-- The greatest number of nanoseconds counted. -/
def limit : Nat := twoTo 128 - 1

def digitValue (c : Char) : Nat := c.toNat - '0'.toNat

/-- The value of a run of digits. -/
def digitsValue (digits : List Char) : Nat := digits.foldl (fun n c => n * 10 + digitValue c) 0

/-- Adds the digits after the point, each worth a tenth of the one before, as long as that is a whole
number of nanoseconds. -/
def addFraction (n place : Nat) : List Char → Nat
  | [] => n
  | c :: rest =>
    let place := place / 10
    if place = 0 then n else addFraction (min limit (n + digitValue c * place)) place rest

/-- The nanoseconds of a component, held at the limit. -/
def Component.nanos (c : Component) : Nat :=
  addFraction (min limit (digitsValue c.whole * c.unit.scale)) c.unit.scale c.fraction

/-- The nanoseconds of a run of components, held at the limit. -/
def totalNanos (components : List Component) : Nat :=
  components.foldl (fun total c => min limit (total + c.nanos)) 0

/-! ### Reading -/

/-- Why a text is no duration. The text is given without the blanks at its ends. -/
inductive ParseError
  | empty
  | expectedNumber (position : Nat) (text : String)
  | missingUnit (text : String)
  | unknownUnit (text : String)
  | numberTooLarge (text : String)
deriving DecidableEq, Repr

def ParseError.reason : ParseError → String
  | empty => "duration cannot be empty"
  | expectedNumber position text => s!"expected a number at position {position} in '{text}'"
  | missingUnit text => s!"missing unit suffix in duration '{text}'"
  | unknownUnit text => s!"invalid duration unit in '{text}' (expected h, m, s, ms, us, or ns)"
  | numberTooLarge text => s!"invalid number in duration '{text}'"

def ParseError.message (e : ParseError) : String := "validation error: " ++ e.reason

def isDigit (c : Char) : Bool := '0' ≤ c && c ≤ '9'

/-- The component at the front of `rest`, which is the end of the whole `text`, and what follows. -/
def component (text rest : List Char) : Except ParseError (Component × List Char) :=
  let number := rest.takeWhile fun c => isDigit c || c = '.'
  let whole := number.takeWhile (· ≠ '.')
  let fraction := (number.dropWhile (· ≠ '.')).drop 1
  if (whole.isEmpty && fraction.isEmpty) || fraction.contains '.' then
    .error (.expectedNumber (Text.byteLength text - Text.byteLength rest) (String.ofList text))
  else
    let rest := rest.drop number.length
    match unit? rest with
    | none =>
      .error (if rest.isEmpty then .missingUnit (String.ofList text)
        else .unknownUnit (String.ofList text))
    | some (unit, rest) =>
      if limit < digitsValue whole then .error (.numberTooLarge (String.ofList text))
      else .ok (⟨whole, fraction, unit⟩, rest)

/-- The components of `rest`, the end of `text`. Each takes a character, so as many steps as there
are characters are enough. -/
def components (text : List Char) : Nat → List Char → Except ParseError (List Component)
  | _, [] => .ok []
  | 0, _ => .ok []
  | steps + 1, rest =>
    match component text rest with
    | .error e => .error e
    | .ok (c, rest) => (components text steps rest).map (c :: ·)

/-- Reads a duration. -/
def parse (s : String) : Except ParseError Duration :=
  let text := Text.trim s.toList
  if text.isEmpty then .error .empty
  else (components text text.length text).map fun cs => ofNanos (totalNanos cs)

/-! ### Describing -/

/-- Drops the zeros at the end of a fraction. -/
def dropTrailingZeros (digits : List Char) : List Char :=
  (digits.reverse.dropWhile (· = '0')).reverse

/-- `whole` and a fraction of `places` digits, without zeros at its end. -/
def decimalText (whole fraction places : Nat) : String :=
  let digits := Nat.toDigits 10 fraction
  let digits := dropTrailingZeros (List.replicate (places - digits.length) '0' ++ digits)
  toString whole ++ (if digits.isEmpty then "" else "." ++ String.ofList digits)

/-- The duration in the largest unit of seconds and below whose whole part is not zero. -/
def describe (d : Duration) : String :=
  if 0 < d.seconds then decimalText d.seconds d.nanos 9 ++ "s"
  else if 1000000 ≤ d.nanos then decimalText (d.nanos / 1000000) (d.nanos % 1000000) 6 ++ "ms"
  else if 1000 ≤ d.nanos then decimalText (d.nanos / 1000) (d.nanos % 1000) 3 ++ "\u00b5s"
  else toString d.nanos ++ "ns"

end Duration

end HttpResource
