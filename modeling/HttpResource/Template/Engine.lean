/-
# Templates and the engine that renders them

Text that takes values from a context. `$` and a brace open an expression; a second dollar sign before
them makes them plain text. Everything else about the language is the engine's, and nothing is assumed
of it here.

* `Template.Engine`: what an engine does.
* `Template.context`: the values that a template may refer to.
* `Template.render`: the text of a template.
-/
import HttpResource.Declaration
import HttpResource.Template.Filter
import HttpResource.Text.Search

namespace HttpResource

namespace Template

/-- An engine for templates. A name that is not defined is an error for it. -/
class Engine where
  /-- The text of a template in a context, with filters by their names besides those of the engine. -/
  render (filters : List (String × Filter)) (context : Json) (template : List Char) :
    Except Error String

/-- The values that templates refer to: the payload, the last response unless there is none, and the
values of secrets by their aliases. -/
def context (payload : Payload) (response : Response) (secrets : Table String) : Json :=
  .ofPresent [
    ("payload", some (.ofFields [("baseUrl", .string (payload.baseUrl.getD "")),
      ("body", (payload.body.map Json.parseOrString).getD .null)])),
    ("response", if response.statusCode = 0 then none
      else some (.ofFields [("statusCode", Wire.toJson response.statusCode),
        ("headers", Wire.toJson response.headers), ("body", response.parsedBody)])),
    ("secrets", some (Wire.toJson secrets))]

/-- What opens an expression, a statement and a comment. -/
def delimiters : List (List Char) := [['$', '\x7b'], ['\x7b', '%'], ['\x7b', '#']]

/-- Whether a text has any delimiter. -/
def isTemplate (s : String) : Bool := delimiters.any (Text.holds · s.toList)

/-- An escaped opening delimiter. -/
def escapedOpening : List Char := ['$', '$', '\x7b']

/-- An opening delimiter that is plain text. -/
def plainOpening : List Char := ['$', '\x7b']

/-- What stands for an escaped opening delimiter while a template is rendered. -/
def standIn : List Char := "\x00__HTTP_PROVIDER_ESCAPED_DOLLAR_BRACE__\x00".toList

section

variable [Engine]

/-- The text of a template with a stand-in for what is escaped. -/
def renderEscaped (context : Json) (template : String) : Except Error String := do
  let out ← Engine.render Filter.registered context (Text.replace escapedOpening standIn template.toList)
  return String.ofList (Text.replace standIn plainOpening out.toList)

/-- The text of a template. A text without delimiters is returned as it is. -/
def render (context : Json) (template : String) : Except Error String :=
  if isTemplate template then renderEscaped context template else .ok template

end

end Template

end HttpResource
