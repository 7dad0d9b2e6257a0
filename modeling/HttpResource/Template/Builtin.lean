/-
# Filters, tests and functions of the engine

What the standard engine has without being told. A filter that is registered takes the place of the one
of the same name.

* `Filter.apply`: a filter by its name.
* `Test.apply`: a test by its name.
* `Function.apply`: a function by its name.
-/
import HttpResource.Template.Filter
import HttpResource.Template.Operator

namespace HttpResource

namespace Template

/-- The arguments of a call, those with a name apart. -/
structure Arguments where
  positional : List Value := []
  named : List (String × Value) := []

namespace Arguments

/-- The arguments of a call that knows no names: the named ones are one more argument, a map. -/
def unnamed (a : Arguments) : List Value :=
  a.positional ++ (if a.named.isEmpty then [] else [.ofNamed a.named])

end Arguments

/-- A value where text is needed. What is undefined has none. -/
def textOf (v : Value) : Except Problem String :=
  match v with
  | .undefined _ => .error .undefinedValue
  | v => .ok v.text

namespace Filter

/-- The texts of items with a joiner between them, none after texts that are empty so far. -/
def joinTexts (joiner : String) (items : List Value) : String :=
  items.foldl (fun s v => (if s.isEmpty then s else s ++ joiner) ++ v.text) ""

def join (v : Value) (joiner : String) : Except Problem Value :=
  match v with
  | .undefined _ => .ok (.string "")
  | .none => .ok (.string "")
  | v =>
    match v.items? with
    | some items => .ok (.string (joinTexts joiner items))
    | none => .error (.notJoinable v.kind)

/-- The text without the characters of a set at its ends. -/
def trimSet (set : List Char) (s : List Char) : List Char :=
  ((s.dropWhile set.contains).reverse.dropWhile set.contains).reverse

/-- A character of JSON text that may stand inside markup. -/
def markupChar (c : Char) : List Char :=
  match c with
  | '<' => "\\u003c".toList
  | '>' => "\\u003e".toList
  | '&' => "\\u0026".toList
  | '\'' => "\\u0027".toList
  | c => [c]

/-- JSON text that may stand inside markup: the characters that mark it up only occur in strings. -/
def markupSafe (json : String) : String := String.ofList (json.toList.flatMap markupChar)

/-- The width of an indentation: a number, or two for true. -/
def indentation (v : Value) : Except Problem Nat :=
  match v with
  | .bool true => .ok 2
  | v =>
    match v.toInt? with
    | some i => if 0 ≤ i then .ok i.toNat else .error (.notAnIndex v.kind)
    | none => .error (.notAnIndex v.kind)

/-- JSON text, compact or indented. -/
def toJsonText (v : Value) (indent : Option Value) : Except Problem Value :=
  match v.toJson? with
  | none => .error .notJson
  | some json =>
    match indent with
    | none => .ok (.string (markupSafe json.text))
    | some width =>
      (indentation width).map fun n =>
        .string (markupSafe (json.prettyText (String.ofList (List.replicate n ' ')) 0))

/-- The arguments of the JSON filter: an indentation, by place or by name. -/
def jsonIndent (a : Arguments) : Except Problem (Option Value) :=
  match a.positional, a.named with
  | [], [] => .ok none
  | [w], [] => .ok (some w)
  | [], [("indent", w)] => .ok (some w)
  | _ :: _ :: _, _ => .error .tooManyArguments
  | _, named =>
    match named.find? fun (n, _) => n ≠ "indent" || !a.positional.isEmpty with
    | some (n, _) => .error (.unknownArgument n)
    | none => .ok (named.head?.map (·.2))

/-- The pairs of keys and values of a map. -/
def pairs (v : Value) : Except Problem Value :=
  match v with
  | .map entries => .ok (.list (entries.map fun (k, w) => .list [k, w]))
  | _ => .error .noPairs

/-- The value of a filter of the engine. -/
def ofEngine (name : String) (v : Value) (a : Arguments) : Except Problem Value :=
  let args := a.unnamed
  match name with
  | "tojson" => do toJsonText v (← jsonIndent a)
  | "length" | "count" =>
    if !args.isEmpty then .error .tooManyArguments
    else
      match v.length? with
      | some n => .ok (.int n)
      | none => .error (.noLength v.kind)
  | "join" =>
    match args with
    | [] => join v ""
    | [.none] => join v ""
    | [joiner] => do join v (← textOf joiner)
    | _ => .error .tooManyArguments
  | "items" => if args.isEmpty then pairs v else .error .tooManyArguments
  | "trim" => do
    let s ← textOf v
    match args with
    | [] => return .string (Text.trimmed s)
    | [.none] => return .string (Text.trimmed s)
    | [set] => return .string (String.ofList (trimSet (← textOf set).toList s.toList))
    | _ => throw .tooManyArguments
  | "replace" => do
    let s ← textOf v
    match args with
    | [old, new] =>
      return .string (String.ofList
        (Text.replace (← textOf old).toList (← textOf new).toList s.toList))
    | [] | [_] => throw .missingArgument
    | _ => throw .tooManyArguments
  | name => .error (.unknownFilter name)

/-- The value of a filter, given what it is applied to. -/
def apply (filters : List (String × Filter)) (name : String) (v : Value) (a : Arguments) :
    Except Problem Value :=
  match filters.lookup name with
  | some f => f v a.unnamed
  | none => ofEngine name v a

end Filter

namespace Test

/-- Whether the value passes a test without arguments, if there is one of that name. -/
def plain? (name : String) (v : Value) : Option Bool :=
  match name with
  | "defined" => some (!v.isUndefined)
  | "undefined" => some v.isUndefined
  | "none" => some (v.kind = .none)
  | "true" => some (match v with | .bool b => b | _ => false)
  | "false" => some (match v with | .bool b => !b | _ => false)
  | "boolean" => some (v.kind = .bool)
  | "number" => some (v.kind = .number)
  | "integer" | "int" => some (match v with | .int _ => true | _ => false)
  | "float" => some (match v with | .double _ => true | _ => false)
  | "string" => some (v.kind = .string)
  | "sequence" => some (v.kind = .sequence)
  | "mapping" => some (v.kind = .map)
  | "iterable" => some v.items?.isSome
  | _ => none

/-- The operator of a test with one argument. -/
def operator? (name : String) : Option Operator :=
  match name with
  | "eq" | "equalto" => some .equal
  | "ne" => some .notEqual
  | "lt" | "lessthan" => some .less
  | "le" => some .lessEqual
  | "gt" | "greaterthan" => some .greater
  | "ge" => some .greaterEqual
  | "in" => some .isIn
  | _ => none

/-- The result of a test. -/
def apply (name : String) (v : Value) (args : List Value) : Except Problem Value :=
  match plain? name v, operator? name with
  | some b, _ => if args.isEmpty then .ok (.bool b) else .error .tooManyArguments
  | none, some op =>
    match args with
    | [] => .error .missingArgument
    | [w] => op.apply v w
    | _ => .error .tooManyArguments
  | none, none => .error (.unknownTest name)

end Test

namespace Function

/-- How many items a range may have. -/
def longestRange : Nat := 100000

/-- The integers from `low` up to below `high`, in steps. -/
def range (low high step : Int) : Except Problem Value :=
  if step = 0 then .error .emptyRangeStep
  else
    let distance := if 0 < step then high - low else low - high
    let count := ((distance + step.natAbs - 1) / step.natAbs).toNat
    if longestRange < count then .error .longRange
    else .ok (.list ((List.range count).map fun (i : Nat) => .int (low + step * i)))

def integerOf (v : Value) : Except Problem Int :=
  match v.toInt? with
  | some i => .ok i
  | none => .error (.notAnIndex v.kind)

/-- The value of a function of that name. -/
def apply (name : String) (args : List Value) : Except Problem Value :=
  match name with
  | "range" =>
    match args with
    | [] => .error .missingArgument
    | [high] => do range 0 (← integerOf high) 1
    | [low, high] => do range (← integerOf low) (← integerOf high) 1
    | [low, high, step] => do range (← integerOf low) (← integerOf high) (← integerOf step)
    | _ => .error .tooManyArguments
  | name => .error (.unknownFunction name)

end Function

end Template

end HttpResource
