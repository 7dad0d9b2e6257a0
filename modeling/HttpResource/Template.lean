/-
# The engine for templates that is built in

It has expressions with their operators, conditions, loops and assignments, and the filters, tests and
functions of `Template.Builtin`, which is a part of what engines of its kind have. No result about requests
depends on which part that is.

* `Template.rendered`: the text of a template.
* `Template.builtinEngine`: the engine.
-/
import HttpResource.Template.Engine
import HttpResource.Template.Parser
import HttpResource.Template.Render

namespace HttpResource

namespace Template

/-- The text of a template in a context. -/
def rendered (filters : List (String × Filter)) (context : Json) (s : List Char) : Except Error String := do
  let nodes ← parse s
  let (out, _) ← renderAll { frames := [{}], context := .ofJson context, filters } nodes
  return out

instance builtinEngine : Engine where
  render := rendered

end Template

end HttpResource
