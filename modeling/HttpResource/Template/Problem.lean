/-
# What can go wrong in a template

* `Problem`: a cause, found while reading a template or while rendering it.
* `Problem.message`: its class and its details.
* `Error`: a cause and the line where it was met.
-/
import HttpResource.Base64
import HttpResource.Template.Value

namespace HttpResource

namespace Template

/-- The classes of problems. -/
inductive ProblemClass
  | malformed
  | badEscape
  | undefinedValue
  | invalidOperation
  | unknownFilter
  | unknownTest
  | unknownFunction
  | unknownMethod
  | missingArgument
  | tooManyArguments
  | cannotUnpack
deriving DecidableEq, Repr

def ProblemClass.text : ProblemClass → String
  | malformed => "syntax error"
  | badEscape => "bad string escape"
  | undefinedValue => "undefined value"
  | invalidOperation => "invalid operation"
  | unknownFilter => "unknown filter"
  | unknownTest => "unknown test"
  | unknownFunction => "unknown function"
  | unknownMethod => "unknown method"
  | missingArgument => "missing argument"
  | tooManyArguments => "too many arguments"
  | cannotUnpack => "cannot unpack"

/-- A cause. What was found is given as messages name it. -/
inductive Problem
  -- reading
  | unexpected (found : String) (expected : Option String)
  | strayCharacter
  | unclosedString
  | unclosedComment
  | unclosedRaw
  | underscoreAfterNumber
  | badFloat
  | badInteger
  | badEscape
  | notAStatement (found : String)
  | unknownStatement (name : String)
  | reservedName (name : String)
  | positionalAfterNamed
  | tooDeep
  -- rendering
  | undefinedValue
  | unsupported (operator : String) (left right : Value.Kind)
  | noResult (operator : String) (left right : String)
  | notANumber
  | overflow
  | notACount (repeated : String)
  | notACollection
  | notIterable (kind : Value.Kind)
  | notCallable (kind : Value.Kind)
  | zeroStep
  | notAnIndex (kind : Value.Kind)
  | notSliceable (kind : Value.Kind)
  | notUnpackable
  | wrongLength (expected got : Nat)
  -- filters, tests and functions
  | unknownFilter (name : String)
  | unknownTest (name : String)
  | unknownFunction (name : String)
  | unknownMethod (kind : Value.Kind) (name : String)
  | missingArgument
  | tooManyArguments
  | unknownArgument (name : String)
  | notAString
  | noLength (kind : Value.Kind)
  | notJoinable (kind : Value.Kind)
  | noPairs
  | notJson
  | badBase64 (fault : Base64.Fault)
  | notText
  | emptyRangeStep
  | longRange
  /-- Any other problem of an engine, of the class and with the details that it gives. -/
  | other (kind : ProblemClass) (detail : Option String)
deriving Repr

namespace Problem

def classOf : Problem → ProblemClass
  | unexpected .. | strayCharacter | unclosedString | unclosedComment | unclosedRaw
  | underscoreAfterNumber | badFloat | badInteger | notAStatement _ | unknownStatement _
  | reservedName _ | positionalAfterNamed | tooDeep => .malformed
  | badEscape => .badEscape
  | undefinedValue => .undefinedValue
  | notUnpackable | wrongLength .. => .cannotUnpack
  | unknownFilter _ => .unknownFilter
  | unknownTest _ => .unknownTest
  | unknownFunction _ => .unknownFunction
  | unknownMethod .. => .unknownMethod
  | missingArgument => .missingArgument
  | tooManyArguments | unknownArgument _ => .tooManyArguments
  | other kind _ => kind
  | _ => .invalidOperation

/-- What a message says beyond the class. -/
def detail? : Problem → Option String
  | unexpected found none => s!"unexpected {found}"
  | unexpected found (some expected) => s!"unexpected {found}, expected {expected}"
  | strayCharacter => "unexpected character"
  | unclosedString => "unexpected end of string"
  | unclosedComment => "unexpected end of comment"
  | unclosedRaw => "unexpected end of raw block"
  | underscoreAfterNumber => some ("'_" ++ "' may not occur at end of number")
  | badFloat => "invalid float"
  | badInteger => "invalid integer"
  | badEscape => none
  | notAStatement found => s!"unknown {found}, expected statement"
  | unknownStatement name => s!"unknown statement {name}"
  | reservedName name => s!"cannot assign to reserved variable name {name}"
  | positionalAfterNamed => "non-keyword arg after keyword arg"
  | tooDeep => "template exceeds maximum recursion limits"
  | undefinedValue => none
  | unsupported operator left right =>
    s!"tried to use {operator} operator on unsupported types {left.name} and {right.name}"
  | noResult operator left right => s!"unable to calculate {left} {operator} {right}"
  | notANumber => none
  | overflow => "overflow"
  | notACount repeated => repeated ++ " can only be multiplied with integers"
  | notACollection => "cannot perform a containment check on this value"
  | notIterable kind => s!"{kind.name} is not iterable"
  | notCallable kind => s!"value of type {kind.name} is not callable"
  | zeroStep => "cannot slice by step size of 0"
  | notAnIndex kind => s!"cannot convert {kind.name} to i64"
  | notSliceable kind => s!"value of type {kind.name} cannot be sliced"
  | notUnpackable => "value is not iterable"
  | wrongLength expected got => s!"sequence of wrong length (expected {expected}, got {got})"
  | unknownFilter name => s!"filter {name} is unknown"
  | unknownTest name => s!"test {name} is unknown"
  | unknownFunction name => s!"{name} is unknown"
  | unknownMethod kind name => s!"{kind.name} has no method named {name}"
  | missingArgument => none
  | tooManyArguments => none
  | unknownArgument name => s!"unknown keyword argument '{name}'"
  | notAString => "value is not a string"
  | noLength kind => s!"cannot calculate length of value of type {kind.name}"
  | notJoinable kind => s!"cannot join value of type {kind.name}"
  | noPairs => "cannot convert value into pair list"
  | notJson => "cannot serialize to JSON"
  | badBase64 fault => s!"base64_decode: {fault.message}"
  | notText => "base64_decode: decoded bytes are not UTF-8 text"
  | emptyRangeStep => "cannot create range with step of 0"
  | longRange => "range has too many elements"
  | other _ detail => detail

def message (p : Problem) : String :=
  match p.detail? with
  | some detail => p.classOf.text ++ ": " ++ detail
  | none => p.classOf.text

end Problem

/-- A problem and the line where it was met, counted from one. -/
structure Error where
  problem : Problem
  line : Nat
deriving Repr

def Error.message (e : Error) : String := s!"{e.problem.message} (in <string>:{e.line})"

end Template

end HttpResource
