/-
# Timestamps

A point in time, in seconds since the first of January 1970, in Universal Time and the proleptic
Gregorian calendar.

* `Timestamp.text`: the RFC 3339 text in whole seconds.
* `Timestamp.parse?`: reads an RFC 3339 text with any offset.
-/
namespace HttpResource

/-- Seconds since 1970. During a leap second the seconds stay those of the second before. -/
structure Timestamp where
  seconds : Int
  leap : Bool := false
deriving DecidableEq, Repr

namespace Timestamp

/-- The day number of a date, counted from the first of January 1970. Years are taken to start in
March, so that the leap day is their last. -/
def dayNumber (year month day : Int) : Int :=
  let y := if month ≤ 2 then year - 1 else year
  let era := y.fdiv 400
  let yearOfEra := y - era * 400
  let dayOfYear := (153 * (if 2 < month then month - 3 else month + 9) + 2) / 5 + day - 1
  let dayOfEra := yearOfEra * 365 + yearOfEra / 4 - yearOfEra / 100 + dayOfYear
  era * 146097 + dayOfEra - 719468

/-- Year, month and day of a day number. -/
def date (days : Int) : Int × Int × Int :=
  let z := days + 719468
  let era := z.fdiv 146097
  let dayOfEra := z - era * 146097
  let yearOfEra := (dayOfEra - dayOfEra / 1460 + dayOfEra / 36524 - dayOfEra / 146096) / 365
  let dayOfYear := dayOfEra - (365 * yearOfEra + yearOfEra / 4 - yearOfEra / 100)
  let monthFromMarch := (5 * dayOfYear + 2) / 153
  let day := dayOfYear - (153 * monthFromMarch + 2) / 5 + 1
  let month := if monthFromMarch < 10 then monthFromMarch + 3 else monthFromMarch - 9
  (yearOfEra + era * 400 + (if month ≤ 2 then 1 else 0), month, day)

/-- A natural number with zeros in front up to a width. -/
def padded (width n : Nat) : String :=
  let digits := Nat.toDigits 10 n
  String.ofList (List.replicate (width - digits.length) '0' ++ digits)

/-- A year has four digits; one outside of them has a sign. -/
def yearText (year : Int) : String :=
  if 0 ≤ year && year ≤ 9999 then padded 4 year.toNat
  else (if year < 0 then "-" else "+") ++ padded 4 year.natAbs

def text (t : Timestamp) : String :=
  let days := t.seconds.fdiv 86400
  let rest := (t.seconds - days * 86400).toNat
  let (year, month, day) := date days
  let second := rest % 60 + (if t.leap then 1 else 0)
  yearText year ++ "-" ++ padded 2 month.toNat ++ "-" ++ padded 2 day.toNat ++ "T"
    ++ padded 2 (rest / 3600) ++ ":" ++ padded 2 (rest / 60 % 60) ++ ":" ++ padded 2 second ++ "Z"

/-! ### Reading -/

def isDigit (c : Char) : Bool := '0' ≤ c && c ≤ '9'

/-- A number of exactly `width` digits at the front. -/
def number? (width : Nat) (s : List Char) : Option (Int × List Char) :=
  let digits := s.take width
  if digits.length = width && digits.all isDigit then
    some (digits.foldl (fun (n : Int) c => n * 10 + ((c.toNat : Int) - 48)) 0, s.drop width)
  else none

/-- The rest after one of the characters. -/
def after? (allowed : List Char) : List Char → Option (List Char)
  | c :: rest => if allowed.contains c then some rest else none
  | [] => none

/-- The offset from Universal Time in seconds. -/
def offset? : List Char → Option Int
  | ['Z'] => some 0
  | ['z'] => some 0
  | sign :: rest => do
    let (hours, rest) ← number? 2 rest
    let rest ← after? [':'] rest
    let (minutes, rest) ← number? 2 rest
    if !rest.isEmpty || 59 < minutes || 23 < hours then none
    else if sign = '+' then some (hours * 3600 + minutes * 60)
    else if sign = '-' then some (-(hours * 3600 + minutes * 60))
    else none
  | [] => none

def isLeapYear (year : Int) : Bool := year % 4 = 0 && (year % 100 != 0 || year % 400 = 0)

def daysInMonth (year month : Int) : Int :=
  if month = 2 then (if isLeapYear year then 29 else 28)
  else if month = 4 || month = 6 || month = 9 || month = 11 then 30
  else 31

/-- Drops the digits of a fraction of a second. -/
def skipFraction : List Char → List Char
  | '.' :: rest => rest.dropWhile isDigit
  | s => s

def parse? (s : String) : Option Timestamp := do
  let (year, s) ← number? 4 s.toList
  let (month, s) ← number? 2 (← after? ['-'] s)
  let (day, s) ← number? 2 (← after? ['-'] s)
  let (hour, s) ← number? 2 (← after? ['T', 't', ' '] s)
  let (minute, s) ← number? 2 (← after? [':'] s)
  let (second, s) ← number? 2 (← after? [':'] s)
  let offset ← offset? (skipFraction s)
  if month < 1 || 12 < month || day < 1 || daysInMonth year month < day || 23 < hour || 59 < minute
      || 60 < second then none
  else
    let leap := second = 60
    let second := if leap then 59 else second
    return {
      seconds := dayNumber year month day * 86400 + hour * 3600 + minute * 60 + second - offset
      leap }

end Timestamp

end HttpResource
