/-
# Tokens of predicates

A predicate is written with paths, literals, comparison operators and words. Blanks separate tokens and
mean nothing else.

* `Token.scan`: the tokens of a text.
* `Token.describe`: a token as messages show it.
-/
import HttpResource.Binary64.Shortest
import HttpResource.Json.StringLiteral
import HttpResource.Text.Blank
import HttpResource.Text.Letter
import HttpResource.Text.Quoted

namespace HttpResource

namespace Predicate

/-- The comparison operators. -/
inductive Comparison
  | eq
  | ne
  | lt
  | le
  | gt
  | ge
deriving DecidableEq, Repr

def Comparison.name : Comparison → String
  | eq => "Eq"
  | ne => "Ne"
  | lt => "Lt"
  | le => "Le"
  | gt => "Gt"
  | ge => "Ge"

inductive Token
  | dot
  | leftBracket
  | rightBracket
  | leftParen
  | rightParen
  | pipe
  | comparison (op : Comparison)
  | word (w : String)
  | text (s : String)
  | number (x : Binary64)
deriving DecidableEq, Repr

/-- Why a text has no tokens. Positions count characters from zero. -/
inductive ScanError
  | unexpectedCharacter (c : Char) (position : Nat)
  | unterminatedString
  | invalidString (literal : String) (reason : String)
  | invalidNumber (literal : String)
deriving DecidableEq, Repr

def ScanError.message : ScanError → String
  | unexpectedCharacter c position => s!"unexpected '{c}' at {position}"
  | unterminatedString => "unterminated string literal"
  | invalidString literal reason => s!"invalid string literal {literal}: {reason}"
  | invalidNumber literal => s!"invalid number '{literal}'"

namespace Token

/-- The token as messages show it. -/
def describe : Token → String
  | dot => "Dot"
  | leftBracket => "LBracket"
  | rightBracket => "RBracket"
  | leftParen => "LParen"
  | rightParen => "RParen"
  | pipe => "Pipe"
  | comparison op => "Op(" ++ op.name ++ ")"
  | word w => "Ident(" ++ Text.quoted w ++ ")"
  | text s => "Str(" ++ Text.quoted s ++ ")"
  | number x => "Num(" ++ x.render Binary64.messageLayout ++ ")"

/-- What stands at a place, as messages show it: a token or the end. -/
def describeFound : Option Token → String
  | some t => "Some(" ++ t.describe ++ ")"
  | none => "None"

/-! ### Literals -/

def isDigit (c : Char) : Bool := '0' ≤ c && c ≤ '9'

def startsWithDigit : List Char → Bool
  | c :: _ => isDigit c
  | [] => false

/-- How many characters after the first one belong to a number: digits, a point before a digit, and
the letter of an exponent with the sign after it. -/
def numberLength : List Char → Nat
  | [] => 0
  | 'e' :: '+' :: rest => numberLength rest + 2
  | 'e' :: '-' :: rest => numberLength rest + 2
  | 'E' :: '+' :: rest => numberLength rest + 2
  | 'E' :: '-' :: rest => numberLength rest + 2
  | c :: rest =>
    if isDigit c || c = 'e' || c = 'E' || (c = '.' && startsWithDigit rest) then
      numberLength rest + 1
    else 0

/-- How many characters after the opening quote there are up to the closing one, both ends of escapes
taken together; none if it never closes. -/
def stringLength (escaped : Bool) : List Char → Option Nat
  | [] => none
  | c :: rest =>
    if c = '\\' && !escaped then (stringLength true rest).map (· + 1)
    else if c = '\x22' && !escaped then some 1
    else (stringLength false rest).map (· + 1)

def digitsValue (digits : List Char) : Nat :=
  digits.foldl (fun n c => n * 10 + (c.toNat - '0'.toNat)) 0

/-- The exponent of a number: nothing at all, or a letter, an optional sign and digits. -/
def exponentValue? : List Char → Option Int
  | [] => some 0
  | c :: rest =>
    if c = 'e' || c = 'E' then
      let (negative, digits) := match rest with
        | '-' :: ds => (true, ds)
        | '+' :: ds => (false, ds)
        | ds => (false, ds)
      if digits.isEmpty || !digits.all isDigit then none
      else some (if negative then -(digitsValue digits : Int) else digitsValue digits)
    else none

/-- A decimal number, `coefficient · 10^exponent` with a sign. -/
structure Decimal where
  negative : Bool
  coefficient : Nat
  exponent : Int
deriving DecidableEq, Repr

/-- The nearest double. -/
def Decimal.nearest (d : Decimal) : Binary64 := .ofDecimal d.negative d.coefficient d.exponent

/-- The decimal number that a literal spells. -/
def decimal? (literal : List Char) : Option Decimal := do
  let (negative, literal) := match literal with
    | '-' :: rest => (true, rest)
    | _ => (false, literal)
  let whole := literal.takeWhile isDigit
  let rest := literal.dropWhile isDigit
  let (fraction, rest) := match rest with
    | '.' :: tail => (tail.takeWhile isDigit, tail.dropWhile isDigit)
    | _ => ([], rest)
  if whole.isEmpty && fraction.isEmpty then none
  else
    let exponent ← exponentValue? rest
    return ⟨negative, digitsValue (whole ++ fraction), exponent - fraction.length⟩

/-- The double nearest to the decimal number that a literal spells. -/
def numberValue? (literal : List Char) : Option Binary64 := (decimal? literal).map Decimal.nearest

/-! ### Scanning -/

/-- The operator that a character starts, given whether `=` follows. -/
def comparison? (c : Char) (beforeEqual : Bool) : Option Comparison :=
  match c, beforeEqual with
  | '=', true => some .eq
  | '!', true => some .ne
  | '<', true => some .le
  | '>', true => some .ge
  | '<', false => some .lt
  | '>', false => some .gt
  | _, _ => none

def startsWithEqual : List Char → Bool
  | '=' :: _ => true
  | _ => false

def isWordCharacter (c : Char) : Bool := Text.isLetterOrNumeral c || c = '_'

/-- The token that starts with `c`, and how many characters of `rest` it takes; `position` is where
`c` stands. -/
def first (position : Nat) (c : Char) (rest : List Char) : Except ScanError (Token × Nat) :=
  match c with
  | '.' => .ok (.dot, 0)
  | '[' => .ok (.leftBracket, 0)
  | ']' => .ok (.rightBracket, 0)
  | '(' => .ok (.leftParen, 0)
  | ')' => .ok (.rightParen, 0)
  | '|' => .ok (.pipe, 0)
  | '\x22' =>
    match stringLength false rest with
    | none => .error .unterminatedString
    | some n =>
      let literal := c :: rest.take n
      match StringLiteral.value? literal with
      | .ok s => .ok (.text s, n)
      | .error reason => .error (.invalidString (String.ofList literal) reason)
  | c =>
    if c = '=' || c = '!' || c = '<' || c = '>' then
      match comparison? c (startsWithEqual rest) with
      | some op => .ok (.comparison op, if startsWithEqual rest then 1 else 0)
      | none => .error (.unexpectedCharacter c position)
    else if isDigit c || (c = '-' && startsWithDigit rest) then
      let n := numberLength rest
      let literal := c :: rest.take n
      match numberValue? literal with
      | some x => .ok (.number x, n)
      | none => .error (.invalidNumber (String.ofList literal))
    else if Text.isLetter c || c = '_' then
      let tail := rest.takeWhile isWordCharacter
      .ok (.word (String.ofList (c :: tail)), tail.length)
    else .error (.unexpectedCharacter c position)

/-- The tokens of a text. `skip` characters belong to a token that has been read already, `position`
is where the text starts. -/
def scanFrom (position : Nat) : Nat → List Char → Except ScanError (List Token)
  | _, [] => .ok []
  | skip + 1, _ :: rest => scanFrom (position + 1) skip rest
  | 0, c :: rest =>
    if Text.isBlank c then scanFrom (position + 1) 0 rest
    else
      match first position c rest with
      | .error e => .error e
      | .ok (token, used) => (scanFrom (position + 1) used rest).map (token :: ·)

def scan (s : String) : Except ScanError (List Token) := scanFrom 0 0 s.toList

end Token

end Predicate

end HttpResource
