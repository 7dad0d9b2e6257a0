/-
# Filters of requests

The filters that templates of requests have besides those of the engine.

* `Filter`: what a filter makes of a value.
* `Filter.registered`: the filters by their names.
-/
import HttpResource.Template.Problem
import HttpResource.Text.Blank
import HttpResource.Text.Case

namespace HttpResource

namespace Template

/-- What a filter makes of a value and its arguments. Arguments with a name are one more, a map. -/
abbrev Filter := Value → List Value → Except Problem Value

/-- A value that must be a string. -/
def stringOf (v : Value) : Except Problem String :=
  match v with
  | .string s => .ok s
  | _ => .error .notAString

namespace Filter

/-- The value, unless it is undefined or none. -/
def fallback (v instead : Value) : Value :=
  match v with
  | .undefined _ => instead
  | .none => instead
  | v => v

/-- The filter with one argument that is used for a missing value. -/
def withFallback : Filter := fun v args =>
  match args with
  | [] => .error .missingArgument
  | [instead] => .ok (fallback v instead)
  | _ => .error .tooManyArguments

/-- The text that digits of base 64 stand for, blanks around them ignored. -/
def decodeBase64 (s : String) : Except Problem String :=
  match Base64.decode (Text.bytesOf (Text.trimmed s)) with
  | .error fault => .error (.badBase64 fault)
  | .ok bytes =>
    match Text.ofBytes? bytes with
    | some t => .ok t
    | none => .error .notText

/-- A filter that maps strings. -/
def onString (f : String → Except Problem String) : Filter := fun v args => do
  let s ← stringOf v
  if !args.isEmpty then throw .tooManyArguments
  return .string (← f s)

/-- The filters by their names. -/
def registered : List (String × Filter) := [
  ("default", withFallback),
  ("base64_encode", onString fun s => .ok (Base64.encodeText s)),
  ("base64_decode", onString decodeBase64),
  ("upper", onString fun s => .ok (String.ofList (Text.upper s.toList))),
  ("lower", onString fun s => .ok (String.ofList (Text.lower s.toList)))]

end Filter

end Template

end HttpResource
