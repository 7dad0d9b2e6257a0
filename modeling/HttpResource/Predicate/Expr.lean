/-
# Expressions and paths

A path is a run of steps into a JSON value, by the name of a field or by an index. An expression is a
path, a literal, a comparison, or a combination by `and`, `or` and `not`.

* `Path.lookup`: the value at a path, if every step exists.
* `Path.text`: a path in messages.
-/
import HttpResource.Json
import HttpResource.Predicate.Token

namespace HttpResource

/-- One step into a value. A negative index counts from the end. -/
inductive Step
  | key (name : String)
  | index (i : Int)
deriving DecidableEq, Repr

abbrev Path := List Step

namespace Path

def stepText : Step → String
  | .key name => "." ++ name
  | .index i => "[" ++ toString i ++ "]"

/-- The path as messages show it; names are shown as they are. -/
def text (path : Path) : String :=
  if path.isEmpty then "." else String.join (path.map stepText)

/-- The value that one step leads to. -/
def step (v : Json) : Step → Option Json
  | .key name => v.field? name
  | .index i => v.item? i

/-- The value that a path leads to, starting at `v`. -/
def lookup : Path → Json → Option Json
  | [], v => some v
  | s :: rest, v => (step v s).bind (lookup rest)

end Path

namespace Predicate

inductive Expr
  | path (p : Path)
  | literal (v : Json)
  | compare (left : Expr) (op : Comparison) (right : Expr)
  | and (left right : Expr)
  | or (left right : Expr)
  | not (inner : Expr)
deriving Repr

end Predicate

end HttpResource
