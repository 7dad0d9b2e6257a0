/-
# Operators of templates

What the operators of expressions do with values. Integers are bounded; a result beyond the bounds is
no result.

* `Operator.apply`: an operator on two values.
* `Value.negated`, `Value.slice`, `Value.holds`.
-/
import HttpResource.Template.Expr
import HttpResource.Template.Problem
import HttpResource.Text.Search

namespace HttpResource

namespace Template

namespace Operator

def spelling : Operator → String
  | add => "+"
  | subtract => "-"
  | multiply => "*"
  | divide => "/"
  | divideFloor => "//"
  | remainder => "%"
  | power => "**"
  | concatenate => "~"
  | equal => "=="
  | notEqual => "!="
  | less => "<"
  | lessEqual => "<="
  | greater => ">"
  | greaterEqual => ">="
  | isIn => "in"

/-- The result on integers, none where there is no such integer. -/
def onIntegers (op : Operator) (a b : Int) : Option Int :=
  match op with
  | add => some (a + b)
  | subtract => some (a - b)
  | multiply => some (a * b)
  | divideFloor => if b = 0 then none else some (a / b)
  | remainder => if b = 0 then none else some (a % b)
  | power =>
    if b < 0 || 4294967296 ≤ b then none
    else if a.natAbs ≤ 1 then some (Int.pow a (if b = 0 then 0 else 2 - (b % 2).toNat))
    else if 127 < b then none
    else some (Int.pow a b.toNat)
  | _ => none

/-- The result on doubles. -/
def onDoubles (op : Operator) (x y : Binary64) : Option Binary64 :=
  match op with
  | add => some (x.add y)
  | subtract => some (x.sub y)
  | multiply => some (x.mul y)
  | divideFloor => some (x.divEuclid y)
  | remainder => some (x.rem y)
  | power => some (x.pow y)
  | _ => none

/-- The result on numbers. -/
def onNumbers (op : Operator) (a b : Value) : Except Problem Value :=
  match a.operands? true b with
  | some (.integers m n) =>
    match op.onIntegers m n with
    | some r => if Value.isOperand r then .ok (.int r) else .error (.noResult op.spelling a.text b.text)
    | none => .error (.noResult op.spelling a.text b.text)
  | some (.doubles x y) =>
    match op.onDoubles x y with
    | some r => .ok (.double r)
    | none => .error (.unsupported op.spelling a.kind b.kind)
  | none => .error (.unsupported op.spelling a.kind b.kind)

/-- The quotient as a double. -/
def quotient (a b : Value) : Except Problem Value :=
  match a.toDouble? true, b.toDouble? true with
  | some x, some y => .ok (.double (x.div y))
  | _, _ => .error (.unsupported divide.spelling a.kind b.kind)

/-- How often something is repeated, `repeated` being what messages call it. -/
def repetitions (repeated : String) (n : Value) : Except Problem Nat :=
  match n.toInt? with
  | some i => if 0 ≤ i && i < 18446744073709551616 then .ok i.toNat else .error (.notACount repeated)
  | none => .error (.notACount repeated)

def repeatString (s : String) (n : Value) : Except Problem Value :=
  (repetitions "strings" n).map fun k => .string (String.join (List.replicate k s))

def repeatList (items : List Value) (n : Value) : Except Problem Value :=
  (repetitions "sequences and iterables" n).map fun k => .list (List.replicate k items).flatten

/-- Whether a container holds a value: a string a part, a list an item, a map a key. -/
def holds (container value : Value) : Except Problem Bool :=
  match container with
  | .undefined false => .error .undefinedValue
  | .undefined true => .ok false
  | .string s => .ok (Text.holds value.text.toList s.toList)
  | .list items => .ok (items.any fun v => v.equal value)
  | .map entries => .ok (Value.lookup? value entries).isSome
  | _ => .error .notACollection

/-- The result of an operator. -/
def apply (op : Operator) (a b : Value) : Except Problem Value :=
  match op with
  | add =>
    match a, b with
    | .list r, .list s => .ok (.list (r ++ s))
    | .string s, .string t => .ok (.string (s ++ t))
    | a, b => add.onNumbers a b
  | multiply =>
    match a, b with
    | .string s, n => repeatString s n
    | n, .string s => repeatString s n
    | .list items, n => repeatList items n
    | n, .list items => repeatList items n
    | a, b => multiply.onNumbers a b
  | divide => quotient a b
  | concatenate => .ok (.string (a.text ++ b.text))
  | equal => .ok (.bool (a.equal b))
  | notEqual => .ok (.bool (!a.equal b))
  | less => .ok (.bool (a.order b == .lt))
  | lessEqual => .ok (.bool (a.order b != .gt))
  | greater => .ok (.bool (a.order b == .gt))
  | greaterEqual => .ok (.bool (a.order b != .lt))
  | isIn => (holds b a).map .bool
  | op => op.onNumbers a b

end Operator

namespace Value

/-- The number with the other sign. -/
def negated : Value → Except Problem Value
  | .double x => .ok (.double x.neg)
  | .int n =>
    if n = integerBound then .ok (.int n)
    else if !isOperand n then .error .notANumber
    else if isOperand (-n) then .ok (.int (-n))
    else .error .overflow
  | _ => .error .notANumber

/-- An end of a slice, none where the default is meant. -/
def sliceEnd (v : Value) : Except Problem (Option Int) :=
  match v with
  | .none => .ok Option.none
  | v =>
    match v.toInt? with
    | some i => .ok (some i)
    | Option.none => .error (.notAnIndex v.kind)

/-- Every `step`th item; `skip` items come before the next one. -/
def everyNth {α : Type} (step : Nat) : Nat → List α → List α
  | _, [] => []
  | 0, a :: rest => a :: everyNth step (step - 1) rest
  | skip + 1, _ :: rest => everyNth step skip rest

/-- The part of a list from `start` up to `stop` in steps. Ends below zero count from the back, and a
step below zero goes backward. -/
def sliceList {α : Type} (items : List α) (start stop : Option Int) (step : Int) : List α :=
  let n : Int := items.length
  let fromBack (i : Int) := if i < 0 then i + n else i
  if 0 < step then
    let low := max 0 (fromBack (start.getD 0))
    let high := min n (fromBack (stop.getD n))
    everyNth step.toNat 0 ((items.take high.toNat).drop low.toNat)
  else
    let high := min (n - 1) ((start.map fromBack).getD (n - 1))
    let low := max (-1) ((stop.map fromBack).getD (-1))
    everyNth step.natAbs 0 ((items.take (high + 1).toNat).drop (low + 1).toNat).reverse

/-- The part of a string or a list between two ends, in steps. -/
def slice (v start stop step : Value) : Except Problem Value := do
  let start ← start.sliceEnd
  let stop ← stop.sliceEnd
  let step := (← step.sliceEnd).getD 1
  if step = 0 then throw .zeroStep
  match v with
  | .string s => return .string (String.ofList (sliceList s.toList start stop step))
  | .list items => return .list (sliceList items start stop step)
  | .undefined _ => return .list []
  | .none => return .list []
  | v => throw (.notSliceable v.kind)

end Value

end Template

end HttpResource
