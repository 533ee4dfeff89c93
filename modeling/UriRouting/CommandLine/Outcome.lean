import UriRouting.CommandLine.Arguments
import UriRouting.Registry.Basic
import UriRouting.RouteFile.Reader
import UriRouting.Template.Expansion
import UriRouting.Url.Target

/-!
# What a command does

A command ends with a line of text, with a JSON object or with a failure, which
is a message and the list of its causes.  Files are read through a function that
is handed in, so that all of this is a function of its arguments.

In route files every service stands for itself: the service that is found is
printed by its id.
-/

namespace UriRouting.CommandLine

/-- A failed command. -/
structure Failure where
  /-- What failed. -/
  message : String
  /-- Why, the nearest cause first. -/
  causes : List String := []
  deriving DecidableEq, Repr

/-- What a successful command prints. -/
inductive Output where
  /-- A line of text. -/
  | line (t : Text)
  /-- A JSON object. -/
  | json (j : Json)

/-- The line breaks of a text, each followed by an indentation. -/
def indentLines (width : Nat) (s : String) : String :=
  String.ofList (s.toList.flatMap fun c =>
    if c = '\n' then c :: List.replicate width ' ' else [c])

/-- The report of a failure.  A single cause is indented, several are numbered. -/
def Failure.report (f : Failure) : String :=
  let causes :=
    match f.causes with
    | [] => ""
    | [cause] => "\n\nCaused by:\n    " ++ indentLines 4 cause
    | causes =>
        "\n\nCaused by:" ++ String.join (causes.zipIdx.map fun (cause, i) =>
          let number := toString i
          "\n" ++ String.ofList (List.replicate (5 - number.length) ' ') ++ number ++ ": " ++
            indentLines 7 cause)
  "Error: " ++ f.message ++ causes

/-- The failure to read a template or pattern. -/
def Failure.ofTemplateError (what : String) (source : Text) (fault : TemplateError) : Failure :=
  ⟨"Invalid " ++ what ++ " '" ++ String.ofList source ++ "'", [fault.message]⟩

/-- The failure to read a parameter. -/
def Failure.ofPair (pair : Text) : Failure :=
  ⟨"Expected NAME=VALUE, got '" ++ String.ofList pair ++ "'", []⟩

/-- The expansion of a template. -/
def runExpand (source : Text) (pairs : List Text) : Except Failure Output := do
  let template ← (Template.parse source).mapError (.ofTemplateError "template" source)
  let params ← (Parameters.ofPairs pairs).mapError .ofPair
  return .line (template.expand params)

/-- The outcome of resolving a URI against a pattern. -/
def runResolve (source uri : Text) : Except Failure Output := do
  let pattern ← (Pattern.parse source).mapError (.ofTemplateError "pattern" source)
  return .json (pattern.resolve Binder.standard (Url.requestTarget uri)).toJson

/-- The route file of a given name, read by `readFile`. -/
def loadRouteFile (readFile : Text → Except String Text) (name : Text) :
    Except Failure RouteFile := do
  let content ← (readFile name).mapError fun cause =>
    ⟨"Could not read route file " ++ String.ofList name, [cause]⟩
  match RouteFile.read? content with
  | some file => return file
  | none => .error ⟨"Failed to load " ++ String.ofList name, ["Invalid route file"]⟩

/-- What is printed about the service found for a path. -/
def dispatchJson (found : Dispatch Text) : Json :=
  .ofMembers [("service".toList, .text found.service),
    ("pattern".toList, .text found.pattern.source),
    ("status".toList, .text found.resolution.status.toList),
    ("bindings".toList, found.resolution.bindings.toJson)]

/-- The service that a route file assigns to a URI. -/
def runRoute (readFile : Text → Except String Text) (name method uri : Text) :
    Except Failure Output := do
  let method ← (Method.ofName method).mapError fun error => ⟨error.message, []⟩
  let file ← loadRouteFile readFile name
  let generators : Generators Text :=
    Dict.ofList (file.routes.map fun route => (route.service, route.service))
  let registry ← (Registry.ofRouteFile file generators).mapError fun error =>
    ⟨"Invalid route file", error.message :: error.causes⟩
  let target := Url.requestTarget uri
  match registry.get? target method with
  | some found => return .json (dispatchJson found)
  | none => .error ⟨"no match for " ++ method.name ++ " " ++ String.ofList target, []⟩

/-- What a command prints. -/
def Command.run (readFile : Text → Except String Text) : Command → Except Failure Output
  | expand template params => runExpand template params
  | resolve pattern uri => runResolve pattern uri
  | route file method uri => runRoute readFile file method uri

end UriRouting.CommandLine
