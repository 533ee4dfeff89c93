import UriRouting.CommandLine.Outcome

/-!
# The program

Reads the arguments, fetches the route file when the command needs one, and
prints what `Command.run` says.
-/

namespace UriRouting.CommandLine

/-- The content of a file, or the reason why there is none. -/
def fetch (name : Text) : IO (Except String Text) := do
  try
    return .ok (← IO.FS.readFile (String.ofList name)).toList
  catch
    | .noFileOrDirectory .. => return .error "No such file or directory (os error 2)"
    | error => return .error (toString error)

/-- The short description of the commands. -/
def usage : String :=
  "Usage: [-v] expand TEMPLATE [NAME=VALUE]...\n" ++
  "       [-v] match PATTERN URI\n" ++
  "       [-v] route [-r ROUTES] [-m METHOD] URI"

end UriRouting.CommandLine

open UriRouting UriRouting.CommandLine

/-- Runs the program and gives its exit code. -/
def main (args : List String) : IO UInt32 := do
  match Command.ofArguments (args.map String.toList) with
  | .error .help =>
      IO.println usage
      return 0
  | .error .usage =>
      IO.eprintln usage
      return 2
  | .ok command =>
      let content ←
        match command with
        | .route file _ _ => fetch file
        | _ => pure (.ok [])
      match command.run fun _ => content with
      | .ok (.line t) =>
          IO.println (String.ofList t)
          return 0
      | .ok (.json j) =>
          IO.println (String.ofList j.pretty)
          return 0
      | .error failure =>
          IO.eprintln failure.report
          return 1
