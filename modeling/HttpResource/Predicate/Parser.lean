/-
# Reading predicates

The grammar, loosest binding first; a word in quotes stands for that word, and a path is as long as
possible.

    pipe    := or ('|' 'not')*
    or      := and ('or' and)*
    and     := cmp ('and' cmp)*
    cmp     := primary (OP primary)?
    primary := path | STRING | NUMBER | 'true' | 'false' | 'null' | '(' pipe ')'
    path    := '.' | '.' first more*
    first   := WORD | STRING | bracket
    more    := '.' (WORD | STRING) | '.'? bracket
    bracket := '[' (STRING | INTEGER) ']'

* `Expr.parse`, `parsePath`: an expression and a bare path.
* `Expr.ofTokens`, `pathOfTokens`: the same from tokens.
-/
import HttpResource.Predicate.Expr

namespace HttpResource

namespace Predicate

/-- Why tokens are no expression. -/
inductive ParseError
  | scan (e : ScanError)
  | emptyExpression
  | trailing (t : Token)
  | expectedNot (found : Option Token)
  | unexpectedWord (w : String)
  | expectedRightParen (found : Option Token)
  | unexpected (found : Option Token)
  | expectedFieldName (found : Option Token)
  | expectedIndex (found : Option Token)
  | expectedRightBracket (found : Option Token)
  | pathWithoutDot (found : Option Token)
deriving DecidableEq, Repr

def ParseError.message : ParseError → String
  | scan e => e.message
  | emptyExpression => "empty expression"
  | trailing t => "unexpected trailing " ++ t.describe
  | expectedNot found => "expected 'not' after '|', found " ++ Token.describeFound found
  | unexpectedWord w => s!"unexpected identifier '{w}'"
  | expectedRightParen found => "expected ')', found " ++ Token.describeFound found
  | unexpected found => "unexpected " ++ Token.describeFound found
  | expectedFieldName found => "expected field name, found " ++ Token.describeFound found
  | expectedIndex found => "expected string or integer index, found " ++ Token.describeFound found
  | expectedRightBracket found => "expected ']', found " ++ Token.describeFound found
  | pathWithoutDot found => "path must start with '.', found " ++ Token.describeFound found

/-! ### Paths -/

/-- The greatest index that can be named. -/
def maxIndex : Int := 9223372036854775807

/-- The least index that can be named. -/
def minIndex : Int := -9223372036854775808

/-- The step in brackets, the opening bracket already taken. An index beyond 64 bits is the greatest
or least one. -/
def bracket : List Token → Except ParseError (Step × List Token)
  | .text name :: rest => close (.key name) rest
  | .number x :: rest =>
    match x.toInt? with
    | some i => close (.index (max minIndex (min maxIndex i))) rest
    | none => .error (.expectedIndex (some (.number x)))
  | rest => .error (.expectedIndex rest.head?)
where
  /-- The closing bracket after a step. -/
  close (step : Step) : List Token → Except ParseError (Step × List Token)
    | .rightBracket :: rest => .ok (step, rest)
    | rest => .error (.expectedRightBracket rest.head?)

/-- The steps after the first one, as many as there are. Each takes a token. -/
def moreSteps : Nat → List Token → Except ParseError (Path × List Token)
  | 0, tokens => .ok ([], tokens)
  | fuel + 1, tokens =>
    let cons (step : Step) (rest : List Token) :=
      (moreSteps fuel rest).map fun (path, r) => (step :: path, r)
    match tokens with
    | .dot :: .leftBracket :: rest
    | .leftBracket :: rest =>
      match bracket rest with
      | .ok (step, rest) => cons step rest
      | .error e => .error e
    | .dot :: .word name :: rest => cons (.key name) rest
    | .dot :: .text name :: rest => cons (.key name) rest
    | .dot :: rest => .error (.expectedFieldName rest.head?)
    | _ => .ok ([], tokens)

/-- A path whose leading dot has been taken. -/
def pathAfterDot (tokens : List Token) : Except ParseError (Path × List Token) :=
  match tokens with
  | .word name :: rest
  | .text name :: rest =>
    (moreSteps rest.length rest).map fun (path, r) => (.key name :: path, r)
  | .leftBracket :: rest =>
    match bracket rest with
    | .ok (step, rest) => (moreSteps rest.length rest).map fun (path, r) => (step :: path, r)
    | .error e => .error e
  | _ => .ok ([], tokens)

/-! ### Expressions -/

/-- The value of a number literal: an integer where the double is one below `2^63` in magnitude. -/
def numberLiteral (x : Binary64) : Json :=
  match x.toInt? with
  | some i => if i.natAbs < twoTo 63 then .int i else .number (.double x)
  | none => if x.isFinite then .number (.double x) else .null

/-- Any number of `| not` after an expression. -/
def negations (e : Expr) : List Token → Except ParseError (Expr × List Token)
  | .pipe :: .word w :: rest =>
    if w = "not" then negations (.not e) rest else .error (.expectedNot (some (.word w)))
  | .pipe :: rest => .error (.expectedNot rest.head?)
  | tokens => .ok (e, tokens)

mutual

/-- An expression with its negations. -/
def pipe : Nat → List Token → Except ParseError (Expr × List Token)
  | 0, tokens => .error (.unexpected tokens.head?)
  | fuel + 1, tokens =>
    match disjunction fuel tokens with
    | .ok (e, rest) => negations e rest
    | .error e => .error e

/-- Operands joined by `or`. -/
def disjunction : Nat → List Token → Except ParseError (Expr × List Token)
  | 0, tokens => .error (.unexpected tokens.head?)
  | fuel + 1, tokens =>
    match conjunction fuel tokens with
    | .ok (e, rest) => moreDisjuncts fuel e rest
    | .error e => .error e

/-- The operands of `or` after the first, associated to the left. -/
def moreDisjuncts : Nat → Expr → List Token → Except ParseError (Expr × List Token)
  | 0, e, tokens => .ok (e, tokens)
  | fuel + 1, e, tokens =>
    match tokens with
    | .word w :: rest =>
      if w = "or" then
        match conjunction fuel rest with
        | .ok (right, rest) => moreDisjuncts fuel (.or e right) rest
        | .error e => .error e
      else .ok (e, tokens)
    | _ => .ok (e, tokens)

/-- Operands joined by `and`. -/
def conjunction : Nat → List Token → Except ParseError (Expr × List Token)
  | 0, tokens => .error (.unexpected tokens.head?)
  | fuel + 1, tokens =>
    match comparison fuel tokens with
    | .ok (e, rest) => moreConjuncts fuel e rest
    | .error e => .error e

/-- The operands of `and` after the first, associated to the left. -/
def moreConjuncts : Nat → Expr → List Token → Except ParseError (Expr × List Token)
  | 0, e, tokens => .ok (e, tokens)
  | fuel + 1, e, tokens =>
    match tokens with
    | .word w :: rest =>
      if w = "and" then
        match comparison fuel rest with
        | .ok (right, rest) => moreConjuncts fuel (.and e right) rest
        | .error e => .error e
      else .ok (e, tokens)
    | _ => .ok (e, tokens)

/-- One operand, or two with an operator between them. -/
def comparison : Nat → List Token → Except ParseError (Expr × List Token)
  | 0, tokens => .error (.unexpected tokens.head?)
  | fuel + 1, tokens =>
    match primary fuel tokens with
    | .error e => .error e
    | .ok (left, .comparison op :: rest) =>
      match primary fuel rest with
      | .ok (right, rest) => .ok (.compare left op right, rest)
      | .error e => .error e
    | .ok (left, rest) => .ok (left, rest)

/-- A path, a literal or an expression in parentheses. -/
def primary : Nat → List Token → Except ParseError (Expr × List Token)
  | 0, tokens => .error (.unexpected tokens.head?)
  | fuel + 1, tokens =>
    match tokens with
    | .dot :: rest => (pathAfterDot rest).map fun (path, r) => (.path path, r)
    | .text s :: rest => .ok (.literal (.string s), rest)
    | .number x :: rest => .ok (.literal (numberLiteral x), rest)
    | .word w :: rest =>
      match w with
      | "true" => .ok (.literal (.bool true), rest)
      | "false" => .ok (.literal (.bool false), rest)
      | "null" => .ok (.literal .null, rest)
      | w => .error (.unexpectedWord w)
    | .leftParen :: rest =>
      match pipe fuel rest with
      | .ok (e, .rightParen :: rest) => .ok (e, rest)
      | .ok (_, rest) => .error (.expectedRightParen rest.head?)
      | .error e => .error e
    | tokens => .error (.unexpected tokens.head?)

end

/-- Steps enough to read any expression of that many tokens. -/
def enough (tokens : List Token) : Nat := 6 * (tokens.length + 1)

/-- A result that has used up all tokens. -/
def complete {α : Type} : Except ParseError (α × List Token) → Except ParseError α
  | .ok (a, []) => .ok a
  | .ok (_, t :: _) => .error (.trailing t)
  | .error e => .error e

/-- The expression that tokens spell. -/
def Expr.ofTokens (tokens : List Token) : Except ParseError Expr :=
  if tokens.isEmpty then .error .emptyExpression else complete (pipe (enough tokens) tokens)

/-- The bare path that tokens spell. -/
def pathOfTokens : List Token → Except ParseError Path
  | .dot :: rest => complete (pathAfterDot rest)
  | tokens => .error (.pathWithoutDot tokens.head?)

/-- The tokens of a text, for a parser. -/
def tokens (source : String) : Except ParseError (List Token) :=
  (Token.scan source).mapError .scan

/-- Reads an expression. -/
def Expr.parse (source : String) : Except ParseError Expr := do
  Expr.ofTokens (← tokens source)

/-- Reads a bare path. -/
def parsePath (source : String) : Except ParseError Path := do
  pathOfTokens (← tokens source)

end Predicate

end HttpResource
