/-
# JSON values

`Json` is a JSON value; an object is a list of fields. Values that this library makes are canonical:
the fields of every object are in strictly ascending order of their names.

* `Json.canonical`: orders the fields at every depth, the last of equal names winning.
* `Json.ofFields`: a canonical object.
* `Json.same`: equality of canonical values, doubles by value and integers never equal to doubles.
* `Json.mergePatch`: the merge of a patch document into a target.
-/
import HttpResource.Binary64
import HttpResource.Table

namespace HttpResource

/-- A JSON number: an integer of 64 bits, signed or unsigned, or a double. -/
inductive Number
  | int (n : Int)
  | double (x : Binary64)
deriving DecidableEq, Repr, Inhabited

/-- The nearest double. -/
def Number.toBinary64 : Number → Binary64
  | .int n => .ofInt n
  | .double x => x

/-- Equality within one representation: an integer and a double are never the same. -/
def Number.same : Number → Number → Bool
  | .int a, .int b => a == b
  | .double x, .double y => x.equal y
  | _, _ => false

inductive Json
  | null
  | bool (b : Bool)
  | number (n : Number)
  | string (s : String)
  | array (items : List Json)
  | object (fields : List (String × Json))
deriving Repr, Inhabited

namespace Json

/-- A JSON integer. -/
def int (n : Int) : Json := .number (.int n)

def nat (n : Nat) : Json := .number (.int n)

/-! ### Objects -/

/-- The fields in ascending order, the last of equal names winning. -/
def sortFields (fields : List (String × Json)) : List (String × Json) :=
  fields.foldl (fun sorted (name, value) => insertEntry name value sorted) []

def ofFields (fields : List (String × Json)) : Json := .object (sortFields fields)

mutual

/-- The value with the fields of every object in ascending order. -/
def canonical : Json → Json
  | .array items => .array (canonicalItems items)
  | .object fields => .object (sortFields (canonicalFields fields))
  | v => v

/-- `canonical` on every item. -/
def canonicalItems : List Json → List Json
  | [] => []
  | v :: rest => canonical v :: canonicalItems rest

/-- `canonical` on every field's value. -/
def canonicalFields : List (String × Json) → List (String × Json)
  | [] => []
  | (name, v) :: rest => (name, canonical v) :: canonicalFields rest

end

/-- The field of that name, if the value is an object that has it. -/
def field? (name : String) : Json → Option Json
  | .object fields => fields.lookup name
  | _ => none

/-- The item at an index counted from the front, or from the back when negative. -/
def item? (index : Int) : Json → Option Json
  | .array items =>
    match index with
    | .ofNat i => items[i]?
    | .negSucc i => if i < items.length then items[items.length - 1 - i]? else none
  | _ => none

/-- The kinds of JSON values. -/
inductive Kind
  | null
  | boolean
  | number
  | string
  | array
  | object
deriving DecidableEq, Repr

def Kind.name : Kind → String
  | null => "null"
  | boolean => "boolean"
  | number => "number"
  | string => "string"
  | array => "array"
  | object => "object"

def kind : Json → Kind
  | .null => .null
  | .bool _ => .boolean
  | .number _ => .number
  | .string _ => .string
  | .array _ => .array
  | .object _ => .object

def bool? : Json → Option Bool
  | .bool b => some b
  | _ => none

def string? : Json → Option String
  | .string s => some s
  | _ => none

/-! ### Equality -/

mutual

/-- Equality of canonical values. -/
def same : Json → Json → Bool
  | .null, .null => true
  | .bool a, .bool b => a == b
  | .number a, .number b => a.same b
  | .string a, .string b => a == b
  | .array a, .array b => sameItems a b
  | .object a, .object b => sameFields a b
  | _, _ => false

/-- Equality item by item. -/
def sameItems : List Json → List Json → Bool
  | [], [] => true
  | v :: r, w :: s => same v w && sameItems r s
  | _, _ => false

/-- Equality field by field. -/
def sameFields : List (String × Json) → List (String × Json) → Bool
  | [], [] => true
  | (m, v) :: r, (n, w) :: s => m == n && same v w && sameFields r s
  | _, _ => false

end

/-! ### Merge patches -/

def removeField (name : String) (fields : List (String × Json)) : List (String × Json) :=
  fields.filter fun (n, _) => n != name

mutual

/-- Merges a patch into a target: an object sets its fields and removes those it gives as null, any
other patch replaces the target. -/
def mergePatch (target : Json) : Json → Json
  | .object changes =>
    let fields := match target with
      | .object fields => fields
      | _ => []
    .object (mergeFields fields changes)
  | patch => patch

/-- Applies the changes to the fields of a target one after another. -/
def mergeFields (fields : List (String × Json)) : List (String × Json) → List (String × Json)
  | [] => fields
  | (name, .null) :: rest => mergeFields (removeField name fields) rest
  | (name, change) :: rest =>
    mergeFields (insertEntry name (mergePatch ((fields.lookup name).getD .null) change) fields) rest

end

end Json

end HttpResource
