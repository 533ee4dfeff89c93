import UriRouting.RouteFile.Basic
import UriRouting.Yaml.Document

/-!
# Reading route files

A route file is a YAML document.  Its two keys, `settings` and `routes`, may both
be missing, and so may everything in the settings and the methods of a route.
Keys that mean nothing here are passed over, a key that does may not occur
twice.
-/

namespace UriRouting

/-- The value of a key in the entries of a mapping, if it occurs; nothing when it
occurs twice. -/
def fieldOf? (entries : List (Text × Yaml)) (key : String) : Option (Option Yaml) :=
  match entries.filter fun entry => entry.1 = key.toList with
  | [] => some none
  | [(_, value)] => some (some value)
  | _ => none

/-- A field that may be missing. -/
def optionalField? {α : Type} (entries : List (Text × Yaml)) (key : String) (missing : α)
    (read? : Yaml → Option α) : Option α :=
  match fieldOf? entries key with
  | some (some value) => read? value
  | some none => some missing
  | none => none

/-- A field that has to be there. -/
def requiredField? {α : Type} (entries : List (Text × Yaml)) (key : String)
    (read? : Yaml → Option α) : Option α := do
  read? (← (← fieldOf? entries key))

/-- A list of methods by name. -/
def methodsOfYaml? (node : Yaml) : Option (Option (List Method)) :=
  if node.isNull then some none
  else
    match node with
    | .sequence items => do
        let methods ← items.mapM fun item => do (Method.ofName (← item.text?)).toOption
        some (some methods)
    | _ => none

/-- A match rule by its short name. -/
def ruleOfYaml? (node : Yaml) : Option MatchRule := do
  let name ← node.scalar?
  [MatchRule.first, .best].find? fun rule => rule.name.toList = name

/-- A duplicate policy by its short name. -/
def duplicatesOfYaml? (node : Yaml) : Option DuplicatePolicy := do
  let name ← node.scalar?
  [DuplicatePolicy.replace, .reject].find? fun policy => policy.name.toList = name

namespace RouteSettings

/-- The settings that a node describes. -/
def ofYaml? (node : Yaml) : Option RouteSettings := do
  let entries ← node.entries?
  some {
    rule := ← optionalField? entries "match_rule" .best ruleOfYaml?
    duplicates := ← optionalField? entries "duplicates" .replace duplicatesOfYaml?
    methods := ← optionalField? entries "methods" none methodsOfYaml? }

end RouteSettings

/-- The route that a node describes. -/
def Route.ofYaml? (node : Yaml) : Option Route := do
  let entries ← node.entries?
  some {
    pattern := ← requiredField? entries "pattern" Yaml.text?
    service := ← requiredField? entries "service" Yaml.text?
    methods := ← optionalField? entries "methods" none methodsOfYaml? }

namespace RouteFile

/-- The routes that a node describes. -/
def routesOfYaml? (node : Yaml) : Option (List Route) := do
  (← node.items?).mapM Route.ofYaml?

/-- The route file that a node describes. -/
def ofYaml? (node : Yaml) : Option RouteFile := do
  let entries ← node.entries?
  some {
    settings := ← optionalField? entries "settings" {} RouteSettings.ofYaml?
    routes := ← optionalField? entries "routes" [] routesOfYaml? }

/-- The route file that a text is. -/
def read? (t : Text) : Option RouteFile := do
  ofYaml? (← Yaml.read? t)

end RouteFile
end UriRouting
