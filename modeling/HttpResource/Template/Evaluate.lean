/-
# Evaluating expressions of templates

A name that is not defined gives an undefined value. That may be tested, compared and replaced by a
default, but neither printed, nor decided on, nor looked into.

* `Scope`: the names and their values.
* `Expr.evaluate`.
-/
import HttpResource.Template.Builtin

namespace HttpResource

namespace Template

/-- The names of a loop, or of the template itself. -/
structure Frame where
  bindings : List (String × Value) := []
  /-- What the name `loop` stands for. -/
  loop : Option Value := none

/-- The frames, innermost first, around the context, and the filters that are registered. -/
structure Scope where
  frames : List Frame
  context : Value
  filters : List (String × Filter)

namespace Scope

/-- The value of a name in a frame. -/
def inFrame (name : String) (f : Frame) : Option Value :=
  match f.bindings.lookup name with
  | some v => some v
  | none => if name = "loop" then f.loop else none

/-- The value of a name, if it has one. -/
def find? (s : Scope) (name : String) : Option Value :=
  match s.frames.findSome? (inFrame name) with
  | some v => some v
  | none => s.context.attribute? name

/-- The value of a name. -/
def lookup (s : Scope) (name : String) : Value := (s.find? name).getD (.undefined false)

/-- The scope with a value for a name in its innermost frame. -/
def assign (s : Scope) (name : String) (v : Value) : Scope :=
  match s.frames with
  | [] => s
  | f :: rest => { s with frames := { f with bindings := (name, v) :: f.bindings } :: rest }

end Scope

/-- A result at a line. -/
def atLine {α : Type} (line : Nat) (r : Except Problem α) : Except Error α :=
  r.mapError fun p => ⟨p, line⟩

/-- Whether a value counts as true where something is decided on it. -/
def decideOn (v : Value) : Except Problem Bool :=
  match v with
  | .undefined false => .error .undefinedValue
  | v => .ok v.isTrue

/-- What was found in a value, or an undefined value. Nothing can be found in what is undefined. -/
def found (inside : Value) (v : Option Value) : Except Problem Value :=
  match v with
  | some v => .ok v
  | none => if inside.isUndefined then .error .undefinedValue else .ok (.undefined false)

/-- A call of a value. No value can be called. -/
def callValue (v : Value) : Except Problem Value := .error (.notCallable v.kind)

/-- A call of a method. Only the entries of maps can be meant, and they cannot be called. -/
def callMethod (v : Value) (name : String) : Except Problem Value :=
  match v.attribute? name with
  | some w => callValue w
  | none => if v.isUndefined then .error .undefinedValue else .error (.unknownMethod v.kind name)

namespace Expr

mutual

/-- The value of an expression. -/
def evaluate (scope : Scope) : Expr → Except Error Value
  | literal v _ => .ok v
  | name n _ => .ok (scope.lookup n)
  | list items _ => (evaluateItems scope items).map .list
  | map entries _ => (evaluateEntries scope entries).map .ofEntries
  | field e n => do
    let v ← evaluate scope e
    atLine e.line (found v (v.attribute? n))
  | item e index => do
    let v ← evaluate scope e
    let i ← evaluate scope index
    atLine index.line (found v (v.item? i))
  | slice e start stop step => do
    let v ← evaluate scope e
    let i ← evaluate scope start
    let j ← evaluate scope stop
    let k ← evaluate scope step
    atLine step.line (v.slice i j k)
  | negate e => do
    let v ← evaluate scope e
    atLine e.line v.negated
  | not e => do
    let v ← evaluate scope e
    return .bool (!(← atLine e.line (decideOn v)))
  | and left right => do
    let v ← evaluate scope left
    if ← atLine left.line (decideOn v) then evaluate scope right else return v
  | or left right => do
    let v ← evaluate scope left
    if ← atLine left.line (decideOn v) then return v else evaluate scope right
  | binary op left right => do
    let v ← evaluate scope left
    let w ← evaluate scope right
    atLine right.line (op.apply v w)
  | conditional c yes no => do
    let v ← evaluate scope c
    if ← atLine c.line (decideOn v) then evaluate scope yes else evaluate scope no
  | filter e n arguments => do
    let v ← evaluate scope e
    let args ← evaluateArguments scope arguments
    atLine (argumentsLine e.line arguments) (Filter.apply scope.filters n v args)
  | test e n arguments => do
    let v ← evaluate scope e
    let args ← evaluateArguments scope arguments
    atLine (argumentsLine e.line arguments) (Test.apply n v args.unnamed)
  | call function arguments line => do
    let args ← evaluateArguments scope arguments
    atLine (argumentsLine line arguments) <|
      match scope.find? function with
      | some v => callValue v
      | none => Function.apply function args.unnamed
  | method e n arguments => do
    let v ← evaluate scope e
    let _ ← evaluateArguments scope arguments
    atLine (argumentsLine e.line arguments) (callMethod v n)
  | apply e arguments => do
    let v ← evaluate scope e
    let _ ← evaluateArguments scope arguments
    atLine (argumentsLine e.line arguments) (callValue v)

/-- The values of items. -/
def evaluateItems (scope : Scope) : List Expr → Except Error (List Value)
  | [] => .ok []
  | e :: rest => do
    let v ← evaluate scope e
    let vs ← evaluateItems scope rest
    return v :: vs

/-- The values of entries. -/
def evaluateEntries (scope : Scope) : List (Expr × Expr) → Except Error (List (Value × Value))
  | [] => .ok []
  | (k, e) :: rest => do
    let key ← evaluate scope k
    let v ← evaluate scope e
    let entries ← evaluateEntries scope rest
    return (key, v) :: entries

/-- The values of arguments. -/
def evaluateArguments (scope : Scope) : List (Option String × Expr) → Except Error Arguments
  | [] => .ok {}
  | (n, e) :: rest => do
    let v ← evaluate scope e
    let args ← evaluateArguments scope rest
    match n with
    | none => return { args with positional := v :: args.positional }
    | some n => return { args with named := (n, v) :: args.named }

end

end Expr

end Template

end HttpResource
