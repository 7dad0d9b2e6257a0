/-
# Rendering nodes of templates

* `Node.render`: the output of nodes, and the scope after them.
-/
import HttpResource.Template.Evaluate

namespace HttpResource

namespace Template

/-- The text of a value that is printed. A value that is undefined has none, unless it is so on
purpose. -/
def printed (v : Value) : Except Problem String :=
  match v with
  | .undefined false => .error .undefinedValue
  | v => .ok v.text

/-- What a loop over the value goes through. -/
def loopItems (v : Value) : Except Problem (List Value) :=
  match v with
  | .undefined false => .error .undefinedValue
  | v =>
    match v.items? with
    | some items => .ok items
    | none => .error (.notIterable v.kind)

/-- The items that targets take apart. -/
def unpack (count : Nat) (v : Value) : Except Problem (List Value) :=
  let checked (items : List Value) : Except Problem (List Value) :=
    if items.length = count then .ok items else .error (.wrongLength count items.length)
  match v with
  | .list items => checked items
  | .map entries => checked (entries.map (·.1))
  | _ => .error .notUnpackable

mutual

/-- The scope after an assignment. -/
def Target.assign (scope : Scope) (v : Value) : Target → Except Problem Scope
  | .name n => .ok (scope.assign n v)
  | .items targets => do
    let vs ← unpack targets.length v
    assignAll scope vs targets

/-- The scope after values have been assigned to targets in order. -/
def assignAll (scope : Scope) : List Value → List Target → Except Problem Scope
  | v :: vs, t :: ts => do
    let scope ← t.assign scope v
    assignAll scope vs ts
  | _, _ => .ok scope

end

/-- What the name `loop` stands for at one item of several. -/
def loopValue (items : List Value) (index : Nat) : Value :=
  let length := items.length
  let neighbour (v : Option Value) := v.getD (.undefined false)
  .ofNamed [("index0", .int index), ("index", .int (index + 1)), ("length", .int length),
    ("revindex", .int (length - index : Nat)), ("revindex0", .int (length - index - 1 : Nat)),
    ("first", .bool (index = 0)), ("last", .bool (index + 1 = length)), ("depth", .int 1),
    ("depth0", .int 0), ("previtem", neighbour (if index = 0 then none else items[index - 1]?)),
    ("nextitem", neighbour items[index + 1]?)]

/-- The scope inside a loop. -/
def Scope.push (s : Scope) : Scope := { s with frames := {} :: s.frames }

/-- The scope around a loop. -/
def Scope.pop (s : Scope) : Scope := { s with frames := s.frames.drop 1 }

/-- The scope at an item of a loop. -/
def Scope.atItem (s : Scope) (items : List Value) (index : Nat) : Scope :=
  match s.frames with
  | [] => s
  | f :: rest => { s with frames := { f with loop := some (loopValue items index) } :: rest }

/-- The items that pass the condition of a loop; each is assigned before the condition is looked at. -/
def passing (target : Target) (condition : Expr) (line : Nat) :
    Scope → List Value → Except Error (List Value)
  | _, [] => .ok []
  | scope, v :: rest => do
    let scope ← atLine line (target.assign scope v)
    let c ← condition.evaluate scope
    let passes ← atLine condition.line (decideOn c)
    let more ← passing target condition line scope rest
    return if passes then v :: more else more

/-- The value after filters. -/
def filtered (scope : Scope) (v : Value) : List FilterCall → Except Error Value
  | [] => .ok v
  | f :: rest => do
    let args ← Expr.evaluateArguments scope f.arguments
    let v ← atLine (Expr.argumentsLine f.line f.arguments) (Filter.apply scope.filters f.name v args)
    filtered scope v rest

/-- Runs a body at each item from an index on; the scope is the one inside the loop. -/
def runLoop (body : Scope → Except Error (String × Scope)) (target : Target) (line : Nat)
    (items : List Value) : Nat → List Value → Scope → Except Error (String × Scope)
  | _, [], scope => .ok ("", scope)
  | index, v :: rest, scope => do
    let scope ← atLine line (target.assign (scope.atItem items index) v)
    let (s, scope) ← body scope
    let (t, scope) ← runLoop body target line items (index + 1) rest scope
    return (s ++ t, scope)

mutual

/-- The output of a node, and the scope after it. -/
def Node.render (scope : Scope) : Node → Except Error (String × Scope)
  | .text s => .ok (String.ofList s, scope)
  | .output e => do
    let v ← e.evaluate scope
    return (← atLine e.line (printed v), scope)
  | .branch test yes no => do
    let v ← test.evaluate scope
    if ← atLine test.line (decideOn v) then renderAll scope yes else renderAll scope no
  | .assign target e => do
    let v ← e.evaluate scope
    return ("", ← atLine e.line (target.assign scope v))
  | .capture target filters body => do
    let (s, scope) ← renderAll scope body
    let v ← filtered scope (.string s) filters
    return ("", ← atLine 1 (target.assign scope v))
  | .loop target source condition body otherwise => do
    let v ← source.evaluate scope
    let items ← atLine source.line (loopItems v)
    let items ← match condition with
      | none => pure items
      | some c => passing target c source.line scope.push items
    if items.isEmpty then renderAll scope otherwise
    else
      let (s, inner) ←
        runLoop (fun scope => renderAll scope body) target source.line items 0 items scope.push
      return (s, inner.pop)

/-- The output of nodes one after another, and the scope after them. -/
def renderAll (scope : Scope) : List Node → Except Error (String × Scope)
  | [] => .ok ("", scope)
  | n :: rest => do
    let (s, scope) ← n.render scope
    let (t, scope) ← renderAll scope rest
    return (s ++ t, scope)

end

end Template

end HttpResource
