/-
# JSON values as YAML

Block style: one field or item a line, nested values indented by two, items at the level of the field
that holds them. Texts stand without quotes where they cannot be taken for anything else.

* `Json.yaml`: the document of a value.
-/
import HttpResource.Json.Printer
import HttpResource.Text.Split

namespace HttpResource

namespace Yaml

/-! ### Texts -/

/-- Words that mean something else than themselves. -/
def reserved : List String := ["~", "null", "Null", "NULL", "true", "True", "TRUE", "false", "False",
  "FALSE", ".nan", ".NaN", ".NAN", ".inf", ".Inf", ".INF"]

/-- Characters that give a text a meaning when it starts with them. -/
def isIndicator (c : Char) : Bool := "-?:,[]\x7b\x7d#&*!|>'\x22%@`".toList.contains c

/-- Whether a colon or a number sign in a text has a meaning. -/
def hasMark : List Char → Bool
  | ':' :: ' ' :: _ => true
  | [':'] => true
  | ' ' :: '#' :: _ => true
  | _ :: rest => hasMark rest
  | [] => false

/-- Whether a text could be a number. -/
def looksNumeric (s : List Char) : Bool :=
  match s with
  | [] => false
  | c :: _ => c.isDigit || (['+', '-', '.'].contains c && s.any Char.isDigit)

/-- Whether a text of one line means itself without quotes. -/
def isPlain (s : String) : Bool :=
  match s.toList with
  | [] => false
  | c :: rest =>
    !reserved.contains s && !isIndicator c && c ≠ ' ' && (c :: rest).getLast? ≠ some ' '
      && !hasMark (c :: rest) && !looksNumeric (c :: rest)

/-- A text in single quotes. A quote in it is written twice. -/
def singleQuoted (s : String) : String :=
  String.ofList ('\'' :: s.toList.flatMap (fun c => if c = '\'' then ['\'', '\''] else [c]) ++ ['\''])

/-- A text of one line. -/
def lineText (s : String) : String := if isPlain s then s else singleQuoted s

def indent (lines : List String) : List String :=
  lines.map fun line => if line.isEmpty then line else "  " ++ line

/-! ### Values -/

/-- The lines of a text, and what announces them. -/
def literalLines (s : String) : String × List String :=
  let lines := (Text.splitAll '\n' s.toList).map String.ofList
  if lines.getLast? = some "" then ("|", lines.dropLast) else ("|-", lines)

/-- A value: what stands beside its name, and the lines below. -/
structure Layout where
  beside : Option String
  below : List String
  /-- Whether the lines below keep the level of the name. -/
  isLevel : Bool := false

def Layout.inline (s : String) : Layout := ⟨some s, [], false⟩

def textLayout (s : String) : Layout :=
  if s.toList.contains '\n' then
    let (mark, lines) := literalLines s
    ⟨some mark, indent lines, true⟩
  else .inline (lineText s)

/-- The lines of a field. -/
def fieldLines (name : String) (l : Layout) : List String :=
  (match l.beside with
    | some s => s!"{lineText name}: {s}"
    | none => s!"{lineText name}:")
  :: (if l.isLevel then l.below else indent l.below)

/-- The lines of an item. -/
def itemLines (l : Layout) : List String :=
  match l.beside, l.below with
  | some s, lines => s!"- {s}" :: (if l.isLevel then lines else indent lines)
  | none, first :: rest => s!"- {first}" :: indent rest
  | none, [] => ["-"]

end Yaml

namespace Json

open Yaml

mutual

def yamlLayout : Json → Layout
  | null => .inline "null"
  | bool b => .inline (if b then "true" else "false")
  | number n => .inline n.text
  | string s => textLayout s
  | array [] => .inline "[]"
  | array items => ⟨none, yamlItems items, true⟩
  | object [] => .inline "\x7b\x7d"
  | object fields => ⟨none, yamlFields fields, false⟩

def yamlItems : List Json → List String
  | [] => []
  | v :: rest => itemLines v.yamlLayout ++ yamlItems rest

def yamlFields : List (String × Json) → List String
  | [] => []
  | (name, v) :: rest => fieldLines name v.yamlLayout ++ yamlFields rest

end

/-- The document of a value. -/
def yaml (v : Json) : String :=
  let l := v.yamlLayout
  let lines := (match l.beside with
    | some s => [s]
    | none => []) ++ l.below
  String.join (lines.map (· ++ "\n"))

end Json

end HttpResource
