/-
# Expressions and statements of templates

The structure of a template. An expression knows the lines of its names and literals; a problem is
reported with the line of the last one before the operation that met it.

* `Expr`, `Node`.
* `Expr.line`: the line where a problem of the expression is reported.
-/
import HttpResource.Template.Value

namespace HttpResource

namespace Template

/-- The operators between two values. -/
inductive Operator
  | add
  | subtract
  | multiply
  | divide
  | divideFloor
  | remainder
  | power
  | concatenate
  | equal
  | notEqual
  | less
  | lessEqual
  | greater
  | greaterEqual
  | isIn
deriving DecidableEq, Repr

inductive Expr
  | literal (v : Value) (line : Nat)
  | name (n : String) (line : Nat)
  | list (items : List Expr) (line : Nat)
  | map (entries : List (Expr × Expr)) (line : Nat)
  | field (e : Expr) (name : String)
  | item (e index : Expr)
  /-- The part from `start` up to `stop`, in steps. -/
  | slice (e start stop step : Expr)
  | negate (e : Expr)
  | not (e : Expr)
  | and (left right : Expr)
  | or (left right : Expr)
  | binary (op : Operator) (left right : Expr)
  | conditional (test yes no : Expr)
  | filter (e : Expr) (name : String) (arguments : List (Option String × Expr))
  | test (e : Expr) (name : String) (arguments : List (Option String × Expr))
  | call (function : String) (arguments : List (Option String × Expr)) (line : Nat)
  | method (e : Expr) (name : String) (arguments : List (Option String × Expr))
  | apply (e : Expr) (arguments : List (Option String × Expr))
deriving Repr, Inhabited

namespace Expr

mutual

/-- The line of the last name or literal of the expression. -/
def line : Expr → Nat
  | literal _ line => line
  | name _ line => line
  | list items line => itemsLine line items
  | map entries line => entriesLine line entries
  | field e _ => e.line
  | item _ index => index.line
  | slice _ _ _ step => step.line
  | negate e => e.line
  | not e => e.line
  | and _ right => right.line
  | or _ right => right.line
  | binary _ _ right => right.line
  | conditional _ _ no => no.line
  | filter e _ arguments => argumentsLine e.line arguments
  | test e _ arguments => argumentsLine e.line arguments
  | call _ arguments line => argumentsLine line arguments
  | method e _ arguments => argumentsLine e.line arguments
  | apply e arguments => argumentsLine e.line arguments

/-- The line of the last item, or else the given one. -/
def itemsLine (default : Nat) : List Expr → Nat
  | [] => default
  | e :: rest => itemsLine e.line rest

/-- The line of the last entry, or else the given one. -/
def entriesLine (default : Nat) : List (Expr × Expr) → Nat
  | [] => default
  | (_, e) :: rest => entriesLine e.line rest

/-- The line of the last argument, or else the given one. -/
def argumentsLine (default : Nat) : List (Option String × Expr) → Nat
  | [] => default
  | (_, e) :: rest => argumentsLine e.line rest

end

end Expr

/-- What a value is assigned to: a name, or the names of the items of a list. -/
inductive Target
  | name (n : String)
  | items (targets : List Target)
deriving Repr, Inhabited

/-- A filter with its arguments and its line. -/
structure FilterCall where
  name : String
  arguments : List (Option String × Expr)
  line : Nat
deriving Repr

inductive Node
  | text (s : List Char)
  | output (e : Expr)
  | branch (test : Expr) (yes no : List Node)
  /-- A loop over the items of `source` that pass the condition; `otherwise` if there are none. -/
  | loop (target : Target) (source : Expr) (condition : Option Expr) (body otherwise : List Node)
  | assign (target : Target) (e : Expr)
  /-- The output of the body, filtered, as a value. -/
  | capture (target : Target) (filters : List FilterCall) (body : List Node)
deriving Repr, Inhabited

end Template

end HttpResource
