/-
# Predicates on answers

A predicate is a boolean expression over a JSON context. A path that does not exist is an error, so a
check never passes on an answer of another shape.

* `Predicate.parse`: reads an expression.
* `Predicate.evaluate`: its verdict on a context.
* `Predicate.extract`: the value at a path.
-/
import HttpResource.Predicate.Parser

namespace HttpResource

namespace Predicate

/-- Why an operator does not apply. -/
inductive TypeError
  | notBooleans (operator : String) (found : Json.Kind)
  | incomparableNumbers
  | unordered (left right : Json.Kind)
deriving DecidableEq, Repr

def TypeError.message : TypeError → String
  | notBooleans operator found => s!"'{operator}' requires booleans, got {found.name}"
  | incomparableNumbers => "numbers are not comparable"
  | unordered left right => s!"cannot order {left.name} against {right.name}"

/-- Why a predicate has no verdict. -/
inductive Error
  | malformed (expression : String) (e : ParseError)
  | missingPath (path : Path)
  | typeMismatch (e : TypeError)
  | notBoolean (expression : String) (found : String)
deriving DecidableEq, Repr

def Error.message : Error → String
  | malformed expression e => s!"invalid expression '{expression}': {e.message}"
  | missingPath path => s!"path {path.text} does not exist in response"
  | typeMismatch e => s!"type mismatch: {e.message}"
  | notBoolean expression found => s!"expression '{expression}' returned {found}, expected a boolean"

/-! ### Evaluation -/

/-- Equality: two numbers by their nearest doubles, other values as JSON values. -/
def valuesEqual : Json → Json → Bool
  | .number a, .number b => a.toBinary64.equal b.toBinary64
  | a, b => a.same b

/-- The order of two numbers or of two strings. -/
def order : Json → Json → Except TypeError Ordering
  | .number a, .number b =>
    match a.toBinary64.compare? b.toBinary64 with
    | some o => .ok o
    | none => .error .incomparableNumbers
  | .string a, .string b => .ok (compare a b)
  | a, b => .error (.unordered a.kind b.kind)

/-- The result of a comparison. -/
def holds (op : Comparison) (a b : Json) : Except TypeError Bool :=
  match op with
  | .eq => .ok (valuesEqual a b)
  | .ne => .ok (!valuesEqual a b)
  | .lt => (order a b).map (· == .lt)
  | .le => (order a b).map (· != .gt)
  | .gt => (order a b).map (· == .gt)
  | .ge => (order a b).map (· != .lt)

/-- The value as an operand of a boolean operator. -/
def asBool (operator : String) (v : Json) : Except Error Bool :=
  match v with
  | .bool b => .ok b
  | v => .error (.typeMismatch (.notBooleans operator v.kind))

/-- The value of an expression. `and` and `or` do not evaluate their right side where the left one
settles the result. -/
def Expr.evaluate (context : Json) : Expr → Except Error Json
  | .literal v => .ok v
  | .path p =>
    match p.lookup context with
    | some v => .ok v
    | none => .error (.missingPath p)
  | .compare left op right => do
    let a ← left.evaluate context
    let b ← right.evaluate context
    return .bool (← (holds op a b).mapError .typeMismatch)
  | .and left right => do
    if !(← asBool "and" (← left.evaluate context)) then return .bool false
    return .bool (← asBool "and" (← right.evaluate context))
  | .or left right => do
    if ← asBool "or" (← left.evaluate context) then return .bool true
    return .bool (← asBool "or" (← right.evaluate context))
  | .not inner => do
    return .bool (!(← asBool "not" (← inner.evaluate context)))

end Predicate

/-- A predicate with the text it was read from. -/
structure Predicate where
  source : String
  expr : Predicate.Expr
deriving Repr

namespace Predicate

def parse (source : String) : Except Error Predicate :=
  match Expr.parse source with
  | .ok e => .ok ⟨source, e⟩
  | .error e => .error (.malformed source e)

/-- The verdict on a context; a value that is no boolean is an error. -/
def evaluate (p : Predicate) (context : Json) : Except Error Bool := do
  match ← p.expr.evaluate context with
  | .bool b => return b
  | v => throw (.notBoolean p.source v.kind.name)

/-- The value at a path of the context, or nothing where a step does not exist. -/
def extract (path : String) (context : Json) : Except Error (Option Json) :=
  match parsePath path with
  | .ok p => .ok (p.lookup context)
  | .error e => .error (.malformed path e)

end Predicate

end HttpResource
