/-
# Changes of declarations

The cluster reports every change of an object. Only a change of its generation is one of its
declaration.

* `specChanges`: the reports to act on.
-/
namespace HttpResource

/-- The name of an object in its namespace. -/
structure ObjectRef where
  name : String
  inNamespace : Option String
deriving DecidableEq, Repr

/-- A report on an object, or that the watch failed. -/
inductive WatchEvent (α : Type)
  | object (ref : ObjectRef) (generation : Option Int64) (value : α)
  | failure
deriving DecidableEq, Repr

/-- The last known generation of each object. -/
abbrev Generations := List (ObjectRef × Int64)

/-- The reports to act on after those that gave the known generations: every failure, every object
without a generation, and every object whose generation is not the last one known. -/
def specChangesFrom {α : Type} (known : Generations) : List (WatchEvent α) → List (WatchEvent α)
  | [] => []
  | .failure :: rest => .failure :: specChangesFrom known rest
  | .object ref none value :: rest => .object ref none value :: specChangesFrom known rest
  | .object ref (some g) value :: rest =>
    if known.lookup ref = some g then specChangesFrom known rest
    else .object ref (some g) value :: specChangesFrom ((ref, g) :: known) rest

/-- The reports to act on. -/
def specChanges {α : Type} (events : List (WatchEvent α)) : List (WatchEvent α) :=
  specChangesFrom [] events

end HttpResource
