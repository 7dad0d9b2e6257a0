/-
# Log formats

Logs are lines of text or JSON objects. The format is named in any mixture of ASCII case.

* `LogFormat.parse`: the format of a name.
-/
namespace HttpResource

inductive LogFormat
  | text
  | json
deriving DecidableEq, Repr

namespace LogFormat

def default : LogFormat := .text

def name : LogFormat → String
  | text => "text"
  | json => "json"

/-- The message for a name, in lower case, that is no format. -/
def unknownMessage (name : String) : String := s!"unknown log format '{name}' (expected text or json)"

def parse (name : String) : Except String LogFormat :=
  match name.map Char.toLower with
  | "text" => .ok .text
  | "json" => .ok .json
  | other => .error (unknownMessage other)

end LogFormat

end HttpResource
