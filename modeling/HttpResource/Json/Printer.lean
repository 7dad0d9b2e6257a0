/-
# JSON text

The text of a JSON value: compact, or indented. A string escapes the quote, the backslash and the
controls below the space; a double always has a point or an exponent.

* `Json.text`: the compact text.
* `Json.prettyText`: one field or item a line.
-/
import HttpResource.Json
import HttpResource.Binary64.Shortest

namespace HttpResource

/-- JSON numbers are positional from `0.00001` up to below `1e16`, and a positive power of ten has a
plus sign. -/
def Number.layout : Binary64.Layout := ⟨-5, 16, true⟩

def Number.text : Number → String
  | .int n => toString n
  | .double x => if x.isFinite then x.render Number.layout else "null"

namespace Json

/-- Two hexadecimal digits. -/
def hexByte (n : Nat) : List Char :=
  [Nat.digitChar (n / 16), Nat.digitChar (n % 16)]

/-- A character inside a JSON string. -/
def escapedChar (c : Char) : List Char :=
  if c = '\x22' then ['\\', '\x22']
  else if c = '\\' then ['\\', '\\']
  else if c = '\x08' then ['\\', 'b']
  else if c = '\t' then ['\\', 't']
  else if c = '\n' then ['\\', 'n']
  else if c = '\x0c' then ['\\', 'f']
  else if c = '\r' then ['\\', 'r']
  else if c.toNat < 0x20 then ['\\', 'u', '0', '0'] ++ hexByte c.toNat
  else [c]

/-- A string in quotes. -/
def stringText (s : String) : String :=
  String.ofList (['\x22'] ++ s.toList.flatMap escapedChar ++ ['\x22'])

mutual

/-- The compact text of a value. -/
def text : Json → String
  | .null => "null"
  | .bool true => "true"
  | .bool false => "false"
  | .number n => n.text
  | .string s => stringText s
  | .array items => "[" ++ itemsText items ++ "]"
  | .object fields => "\x7b" ++ fieldsText fields ++ "\x7d"

/-- The items, separated by commas. -/
def itemsText : List Json → String
  | [] => ""
  | [v] => text v
  | v :: rest => text v ++ "," ++ itemsText rest

/-- The fields, separated by commas. -/
def fieldsText : List (String × Json) → String
  | [] => ""
  | [(name, v)] => stringText name ++ ":" ++ text v
  | (name, v) :: rest => stringText name ++ ":" ++ text v ++ "," ++ fieldsText rest

end

/-- A line break and the indentation of a depth. -/
def newline (indent : String) (depth : Nat) : String :=
  "\n" ++ String.join (List.replicate depth indent)

mutual

/-- The text with one field or item a line, each level of depth indented once more. -/
def prettyText (indent : String) (depth : Nat) : Json → String
  | .array [] => "[]"
  | .array items =>
    "[" ++ newline indent (depth + 1) ++ prettyItems indent (depth + 1) items
      ++ newline indent depth ++ "]"
  | .object [] => "\x7b\x7d"
  | .object fields =>
    "\x7b" ++ newline indent (depth + 1) ++ prettyFields indent (depth + 1) fields
      ++ newline indent depth ++ "\x7d"
  | v => text v

/-- The items at a depth, each on its line. -/
def prettyItems (indent : String) (depth : Nat) : List Json → String
  | [] => ""
  | [v] => prettyText indent depth v
  | v :: rest =>
    prettyText indent depth v ++ "," ++ newline indent depth ++ prettyItems indent depth rest

/-- The fields at a depth, each on its line. -/
def prettyFields (indent : String) (depth : Nat) : List (String × Json) → String
  | [] => ""
  | [(name, v)] => stringText name ++ ": " ++ prettyText indent depth v
  | (name, v) :: rest =>
    stringText name ++ ": " ++ prettyText indent depth v ++ "," ++ newline indent depth
      ++ prettyFields indent depth rest

end

end Json

end HttpResource
