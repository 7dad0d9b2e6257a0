/-
# The program on a real system

Arguments, variables and one file are read, and `CommandLine.run` says the rest. A start of the
controllers ends at once, because there is no connection to a cluster here.
-/
import HttpResource.CommandLine

namespace HttpResource

/-- Why the system could not read a file. -/
def fileErrorOf : IO.Error → CommandLine.FileError
  | .noFileOrDirectory .. => .notFound
  | .permissionDenied .. => .denied
  | .inappropriateType _ code _ => if code = 20 then .notDirectory else .isDirectory
  | e => .other (toString e)

/-- The variables of the environment that matter. -/
def readEnvironment : IO Environment := do
  let names := "HOME" :: Setting.all.map Setting.variableName
  let found ← names.mapM fun name => do
    return (← IO.getEnv name).map fun value => (name, value)
  return found.filterMap id

/-- The content of the file that is needed, if one is. -/
def readNeeded (path : Option String) : IO (Except CommandLine.FileError String) := do
  match path with
  | none => return .error .notFound
  | some path =>
    try
      return .ok (← IO.FS.readFile path)
    catch e =>
      return .error (fileErrorOf e)

end HttpResource

open HttpResource in
def main (arguments : List String) : IO UInt32 := do
  let env ← readEnvironment
  let content ← readNeeded (CommandLine.fileNeeded? env arguments)
  let exit := match CommandLine.run env arguments fun _ => content with
    | .ends exit => exit
    | .starts .. => CommandLine.failure "there is no connection to a cluster"
  IO.print exit.stdout
  IO.eprint exit.stderr
  return exit.code
