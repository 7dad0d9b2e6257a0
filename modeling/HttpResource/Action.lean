/-
# Actions

What a request does to the external resource.

* `Action.impliedByMethod`: the action of a request that names none.
-/
import HttpResource.Json.Wire

namespace HttpResource

inductive Action
  | create
  | observe
  | update
  | remove
deriving DecidableEq, Repr

namespace Action

def name : Action → String
  | create => "CREATE"
  | observe => "OBSERVE"
  | update => "UPDATE"
  | remove => "REMOVE"

/-- The action of a name; removal has a second one. -/
def ofName? : String → Option Action
  | "CREATE" => some create
  | "OBSERVE" => some observe
  | "UPDATE" => some update
  | "REMOVE" => some remove
  | "DELETE" => some remove
  | _ => none

/-- Whether the action changes the external resource. -/
def isMutating : Action → Bool
  | observe => false
  | _ => true

/-- The action that a method stands for, in any mixture of ASCII case. -/
def impliedByMethod (method : String) : Option Action :=
  match method.map Char.toUpper with
  | "POST" => some create
  | "GET" => some observe
  | "PUT" => some update
  | "PATCH" => some update
  | "DELETE" => some remove
  | _ => none

/-- An action is its name, or an object with that name as the only field and null as its value. -/
instance : Wire Action where
  toJson a := .string a.name
  ofJson?
    | .string s => ofName? s
    | .object [(s, .null)] => ofName? s
    | _ => none

end Action

end HttpResource
