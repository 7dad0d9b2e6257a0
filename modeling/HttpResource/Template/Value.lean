/-
# Values of templates

What an expression of a template evaluates to. Integers are unbounded here; the operators bound them.

* `Value.ofJson`: the value of JSON data.
* `Value.text`, `Value.inner`: a value as it is printed by itself, and inside a list or a map.
* `Value.equal`, `Value.order`: equality, and a total order in which kinds come before contents.
* `Value.toJson?`: the value as JSON, where its keys allow it.
-/
import HttpResource.Json.Printer
import HttpResource.Text.Quoted

namespace HttpResource

namespace Template

/-- A value. One that is undefined may be so on purpose, when it stands for the branch that a
conditional expression does not have; that one is printed as nothing. -/
inductive Value
  | undefined (onPurpose : Bool)
  | none
  | bool (b : Bool)
  | int (n : Int)
  | double (x : Binary64)
  | string (s : String)
  | list (items : List Value)
  | map (entries : List (Value × Value))
deriving Repr, Inhabited

namespace Value

inductive Kind
  | undefined
  | none
  | bool
  | number
  | string
  | sequence
  | map
deriving DecidableEq, Repr

def Kind.name : Kind → String
  | undefined => "undefined"
  | none => "none"
  | bool => "bool"
  | number => "number"
  | string => "string"
  | sequence => "sequence"
  | map => "map"

/-- The place of a kind in the order of values. -/
def Kind.rank : Kind → Nat
  | undefined => 0
  | none => 1
  | bool => 2
  | number => 3
  | string => 4
  | sequence => 5
  | map => 6

def kind : Value → Kind
  | .undefined _ => .undefined
  | .none => .none
  | .bool _ => .bool
  | .int _ => .number
  | .double _ => .number
  | .string _ => .string
  | .list _ => .sequence
  | .map _ => .map

def isUndefined : Value → Bool
  | .undefined _ => true
  | _ => false

/-- Whether the value counts as true. -/
def isTrue : Value → Bool
  | .undefined _ => false
  | .none => false
  | .bool b => b
  | .int n => n != 0
  | .double x => !x.equal .zero
  | .string s => !s.isEmpty
  | .list items => !items.isEmpty
  | .map entries => !entries.isEmpty

mutual

/-- The value of JSON data. -/
def ofJson : Json → Value
  | .null => .none
  | .bool b => .bool b
  | .number (.int n) => .int n
  | .number (.double x) => .double x
  | .string s => .string s
  | .array items => .list (ofItems items)
  | .object fields => .map (ofFields fields)

/-- The values of items. -/
def ofItems : List Json → List Value
  | [] => []
  | v :: rest => ofJson v :: ofItems rest

/-- The entries of fields. -/
def ofFields : List (String × Json) → List (Value × Value)
  | [] => []
  | (name, v) :: rest => (.string name, ofJson v) :: ofFields rest

end

/-! ### Printing -/

mutual

/-- The value inside a list or a map: strings quoted, doubles with an exponent where that is shorter. -/
def inner : Value → String
  | .undefined _ => "undefined"
  | .none => "None"
  | .bool true => "True"
  | .bool false => "False"
  | .int n => toString n
  | .double x => x.render Binary64.messageLayout
  | .string s => Text.quoted s
  | .list items => "[" ++ innerItems items ++ "]"
  | .map entries => "\x7b" ++ innerEntries entries ++ "\x7d"

/-- The items with commas between them. -/
def innerItems : List Value → String
  | [] => ""
  | [v] => inner v
  | v :: rest => inner v ++ ", " ++ innerItems rest

/-- The entries with commas between them. -/
def innerEntries : List (Value × Value) → String
  | [] => ""
  | [(k, v)] => inner k ++ ": " ++ inner v
  | (k, v) :: rest => inner k ++ ": " ++ inner v ++ ", " ++ innerEntries rest

end

/-- The value by itself: strings as they are, doubles never with an exponent. -/
def text : Value → String
  | .undefined _ => ""
  | .double x => x.render Binary64.plainLayout
  | .string s => s
  | v => inner v

/-! ### Equality and order -/

/-- Two numbers or booleans as operands of one operation. -/
inductive Operands
  | integers (a b : Int)
  | doubles (x y : Binary64)
deriving DecidableEq, Repr

/-- The value as an integer: a boolean is zero or one, and a double counts if it is one. -/
def toInt? : Value → Option Int
  | .bool b => some (if b then 1 else 0)
  | .int n => some n
  | .double x => x.toInt?
  | _ => Option.none

/-- The value as a double; an integer that is no double counts only if rounding is allowed. -/
def toDouble? (rounding : Bool) : Value → Option Binary64
  | .bool b => some (.ofNat (if b then 1 else 0))
  | .int n =>
    let x := Binary64.ofInt n
    if rounding || x.toInt? = some n then some x else Option.none
  | .double x => some x
  | _ => Option.none

/-- The greatest magnitude of an integer in an operation. -/
def integerBound : Int := twoTo 127

/-- Whether an integer can be an operand or a result. -/
def isOperand (n : Int) : Bool := -integerBound ≤ n && n < integerBound

/-- Two values as numbers of one type: doubles if either is one, and else integers. -/
def operands? (rounding : Bool) (a b : Value) : Option Operands :=
  match a, b with
  | .double x, b => (b.toDouble? rounding).map fun y => .doubles x y
  | a, .double y => (a.toDouble? rounding).map fun x => .doubles x y
  | a, b => do
    let m ← a.toInt?
    let n ← b.toInt?
    if isOperand m && isOperand n then some (.integers m n) else Option.none

/-- Equality of values that hold no others. -/
def equalScalar (a b : Value) : Bool :=
  match a, b with
  | .undefined _, .undefined _ => true
  | .none, .none => true
  | .string s, .string t => s == t
  | a, b =>
    match operands? false a b with
    | some (.integers m n) => m == n
    | some (.doubles x y) => x.equal y
    | Option.none => false

mutual

/-- Equality: numbers and booleans by value, lists and maps by content. -/
def equal : Value → Value → Bool
  | .list a, .list b => equalItems a b
  | .map a, .map b => equalEntries a b
  | a, b => equalScalar a b

/-- Equality item by item. -/
def equalItems : List Value → List Value → Bool
  | [], [] => true
  | a :: r, b :: s => equal a b && equalItems r s
  | _, _ => false

/-- Equality entry by entry. -/
def equalEntries : List (Value × Value) → List (Value × Value) → Bool
  | [], [] => true
  | (k, v) :: r, (l, w) :: s => equal k l && equal v w && equalEntries r s
  | _, _ => false

end

/-- The total order of doubles: by value, a negative zero before a positive one, a NaN last. -/
def orderDoubles (x y : Binary64) : Ordering :=
  match x.compare? y with
  | some .eq => compare (if x.isNegative then 0 else 1) (if y.isNegative then 0 else 1)
  | some o => o
  | Option.none => compare (if x.isNan then 1 else 0) (if y.isNan then 1 else 0)

/-- The order of two values of one kind that hold no others. -/
def orderScalar (a b : Value) : Ordering :=
  match a, b with
  | .string s, .string t => compare s t
  | a, b =>
    match operands? true a b with
    | some (.integers m n) => compare m n
    | some (.doubles x y) => orderDoubles x y
    | Option.none => .eq

mutual

/-- The order of values: by kind, and within a kind by content. -/
def order : Value → Value → Ordering
  | .list a, .list b => orderItems a b
  | .map a, .map b => orderEntries a b
  | a, b => (compare a.kind.rank b.kind.rank).then (orderScalar a b)

/-- The order of lists, a beginning before the whole. -/
def orderItems : List Value → List Value → Ordering
  | [], [] => .eq
  | [], _ => .lt
  | _, [] => .gt
  | a :: r, b :: s => (order a b).then (orderItems r s)

/-- The order of maps, as lists of their entries. -/
def orderEntries : List (Value × Value) → List (Value × Value) → Ordering
  | [], [] => .eq
  | [], _ => .lt
  | _, [] => .gt
  | (k, v) :: r, (l, w) :: s => ((order k l).then (order v w)).then (orderEntries r s)

end

/-! ### Maps and lists -/

/-- Puts an entry at its place among ordered keys, over an equal key. -/
def insertEntry (key value : Value) : List (Value × Value) → List (Value × Value)
  | [] => [(key, value)]
  | (k, v) :: rest =>
    match key.order k with
    | .lt => (key, value) :: (k, v) :: rest
    | .eq => (k, value) :: rest
    | .gt => (k, v) :: insertEntry key value rest

/-- A map of entries, the last of equal keys winning. -/
def ofEntries (entries : List (Value × Value)) : Value :=
  .map (entries.foldl (fun sorted (key, value) => insertEntry key value sorted) [])

/-- A map with names for keys. -/
def ofNamed (entries : List (String × Value)) : Value :=
  ofEntries (entries.map fun (name, value) => (.string name, value))

/-- The value at a key of a map. -/
def lookup? (key : Value) (entries : List (Value × Value)) : Option Value :=
  entries.findSome? fun (k, v) => if key.order k == .eq then some v else Option.none

/-- The place that an index names in a sequence of some length; a negative one counts from the end. -/
def place? (length : Nat) (index : Value) : Option Nat := do
  let i ← index.toInt?
  if 0 ≤ i then some i.toNat
  else if i.natAbs ≤ length then some (length - i.natAbs) else Option.none

/-- The attribute of that name. -/
def attribute? (name : String) : Value → Option Value
  | .map entries => lookup? (.string name) entries
  | _ => Option.none

/-- The item at an index, or at a key. -/
def item? (v index : Value) : Option Value :=
  match v with
  | .map entries => lookup? index entries
  | .list items => do items[← place? items.length index]?
  | .string s => do
    let c ← s.toList[← place? s.length index]?
    return .string (String.singleton c)
  | _ => Option.none

/-- What a loop over the value goes through: items, keys or characters. Nothing is in what does not
exist. -/
def items? : Value → Option (List Value)
  | .undefined _ => some []
  | .none => some []
  | .string s => some (s.toList.map fun c => .string (String.singleton c))
  | .list items => some items
  | .map entries => some (entries.map (·.1))
  | _ => Option.none

/-- The number of characters, items or entries. -/
def length? : Value → Option Nat
  | .string s => some s.length
  | .list items => some items.length
  | .map entries => some entries.length
  | _ => Option.none

/-! ### JSON -/

/-- A key as the name of a JSON field. -/
def fieldName? : Value → Option String
  | .string s => some s
  | .int n => some (toString n)
  | .bool b => some (if b then "true" else "false")
  | .double x => if x.isFinite then some (Number.text (.double x)) else Option.none
  | _ => Option.none

mutual

/-- The value as JSON, what is undefined as null; none if a key is no name. -/
def toJson? : Value → Option Json
  | .undefined _ => some .null
  | .none => some .null
  | .bool b => some (.bool b)
  | .int n => some (.int n)
  | .double x => some (.number (.double x))
  | .string s => some (.string s)
  | .list items => (toItems? items).map .array
  | .map entries => (toFields? entries).map .object

/-- The items as JSON. -/
def toItems? : List Value → Option (List Json)
  | [] => some []
  | v :: rest => do
    let item ← toJson? v
    let items ← toItems? rest
    return item :: items

/-- The entries as fields in the same order. -/
def toFields? : List (Value × Value) → Option (List (String × Json))
  | [] => some []
  | (k, v) :: rest => do
    let name ← k.fieldName?
    let value ← toJson? v
    let fields ← toFields? rest
    return (name, value) :: fields

end

end Value

end Template

end HttpResource
