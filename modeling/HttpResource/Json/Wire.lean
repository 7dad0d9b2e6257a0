/-
# Values on the wire

A type of the wire is written as JSON and read back from it. A record is an object of its fields or, in
short, an array of them in declared order; fields that it does not know are skipped, and a field that
is known may not occur twice.

* `Wire`: the two directions of a type.
* `Json.record?`: the fields of a record.
* `required?`, `field?`: a field that must be there, and one with a default.
-/
import HttpResource.Json

namespace HttpResource

/-- A type with a JSON form. -/
class Wire (α : Type) where
  toJson : α → Json
  ofJson? : Json → Option α

namespace Wire

instance : Wire Json where
  toJson v := v
  ofJson? v := some v

instance : Wire String where
  toJson := .string
  ofJson? := Json.string?

instance : Wire Bool where
  toJson := .bool
  ofJson? := Json.bool?

/-- An integer within bounds. -/
def boundedInt? (low high : Int) : Json → Option Int
  | .number (.int n) => if low ≤ n && n ≤ high then some n else none
  | _ => none

instance : Wire UInt16 where
  toJson n := .nat n.toNat
  ofJson? v := (boundedInt? 0 65535 v).map fun n => .ofNat n.toNat

instance : Wire Int32 where
  toJson n := .int n.toInt
  ofJson? v := (boundedInt? (-2147483648) 2147483647 v).map Int32.ofInt

instance : Wire Int64 where
  toJson n := .int n.toInt
  ofJson? v := (boundedInt? (-9223372036854775808) 9223372036854775807 v).map Int64.ofInt

/-- What may be absent is written as null when it is. -/
instance {α : Type} [Wire α] : Wire (Option α) where
  toJson
    | some a => toJson a
    | none => .null
  ofJson?
    | .null => some none
    | v => (ofJson? v).map some

instance {α : Type} [Wire α] : Wire (List α) where
  toJson as := .array (as.map toJson)
  ofJson?
    | .array items => items.mapM ofJson?
    | _ => none

instance {α : Type} [Wire α] : Wire (Table α) where
  toJson t := .object (t.entries.map fun (name, a) => (name, toJson a))
  ofJson?
    | .object fields =>
      (fields.mapM fun (f : String × Json) =>
        (ofJson? f.2 : Option α).map fun a => (f.1, a)).map Table.ofList
    | _ => none

end Wire

/-- Whether a name of the list occurs more than once among the fields. -/
def repeatsField (names : List String) (fields : List (String × Json)) : Bool :=
  names.any fun name => 1 < (fields.filter (·.1 = name)).length

/-- The fields that a JSON value gives to a record with these names, in declared order. -/
def Json.record? (names : List String) : Json → Option (List (String × Json))
  | .object fields => if repeatsField names fields then none else some fields
  | .array items => if items.length ≤ names.length then some (names.zip items) else none
  | _ => none

/-- A field that must be there. -/
def required? {α : Type} [Wire α] (fields : List (String × Json)) (name : String) : Option α :=
  (fields.lookup name).bind Wire.ofJson?

/-- A field with a default for its absence. -/
def field? {α : Type} [Wire α] (fields : List (String × Json)) (name : String) (default : α) :
    Option α :=
  match fields.lookup name with
  | some v => Wire.ofJson? v
  | none => some default

/-- A record from its fields, those without a value left out. -/
def Json.ofPresent (fields : List (String × Option Json)) : Json :=
  .ofFields (fields.filterMap fun (name, v) => v.map (name, ·))

/-- The JSON of what may be absent, for a field that is left out then. -/
def present {α : Type} [Wire α] (a : Option α) : Option Json := a.map Wire.toJson

/-- The JSON of a collection, for a field that is left out when it is empty. -/
def presentUnless {α : Type} [Wire α] (isEmpty : α → Bool) (a : α) : Option Json :=
  if isEmpty a then none else some (Wire.toJson a)

end HttpResource
