/-
# Response checks

A check gives a verdict on a response: by its status code, or by a predicate. The predicate is read
when the check is used, so one that is malformed fails there and not before.

* `Check.ofDeclaration`: the check that a declaration means.
* `Check.passes`: the verdict.
-/
import HttpResource.Declaration
import HttpResource.Duration
import HttpResource.Predicate

namespace HttpResource

/-- What is wrong with a declaration. -/
inductive ConfigError
  | missingLogic (field : String)
  | unknownCheck (field type : String)
  | missingNamespace (secret : String)
  | badTimeout (e : Duration.ParseError)
  | badInterval (e : Duration.ParseError)
deriving DecidableEq, Repr

def ConfigError.message : ConfigError → String
  | missingLogic field => s!"{field} is CUSTOM but has no logic"
  | unknownCheck field type => s!"{field} has unknown type '{type}' (expected DEFAULT or CUSTOM)"
  | missingNamespace secret =>
    s!"secretInjectionConfigs entry for secret '{secret}' must set a namespace"
  | badTimeout e => s!"waitTimeout: {e.message}"
  | badInterval e => s!"nextReconcile: {e.message}"

inductive Check
  /-- Passes on a status code of success. -/
  | success
  /-- Passes on status code 404. -/
  | notFound
  /-- Passes when the predicate of that text holds. -/
  | custom (logic : String)
deriving DecidableEq, Repr

namespace Check

/-- The predicate of a text that is not blank. -/
def ofLogic? (logic : Option String) : Option Check :=
  match logic.map Text.trimmed with
  | some logic => if logic.isEmpty then none else some (.custom logic)
  | none => none

/-- The check of a declaration in a field, the default one where nothing else is said. -/
def ofDeclaration (field : String) (default : Check) (d : Option CheckDeclaration) :
    Except ConfigError Check :=
  match d with
  | none => .ok default
  | some d =>
    if d.type = "" || d.type = "DEFAULT" then .ok default
    else if d.type = "CUSTOM" then
      match ofLogic? d.logic with
      | some check => .ok check
      | none => .error (.missingLogic field)
    else .error (.unknownCheck field d.type)

/-- The verdict on a response. -/
def passes (r : Response) : Check → Except Predicate.Error Bool
  | success => .ok r.isSuccess
  | notFound => .ok (r.statusCode = 404)
  | custom logic => do (← Predicate.parse logic).evaluate r.context

end Check

end HttpResource
