import UriRouting.Registry.Settings

/-!
# Route files

A route file holds the settings of a registry and the routes to be registered.
A route names its service by an id and lists its methods; a route without such a
list is for every supported method.
-/

namespace UriRouting

/-- One route of a route file. -/
structure Route where
  /-- The pattern, not yet read. -/
  pattern : Text
  /-- The id of the service. -/
  service : Text
  /-- The methods, if any are listed. -/
  methods : Option (List Method)
  deriving DecidableEq, Repr

/-- The settings in a route file. -/
structure RouteSettings where
  /-- The match rule. -/
  rule : MatchRule := .best
  /-- The duplicate policy. -/
  duplicates : DuplicatePolicy := .replace
  /-- The supported methods, if any are listed. -/
  methods : Option (List Method) := none
  deriving DecidableEq, Repr

/-- The content of a route file. -/
structure RouteFile where
  /-- The settings. -/
  settings : RouteSettings := {}
  /-- The routes, in order. -/
  routes : List Route := []
  deriving DecidableEq, Repr

/-- The registry settings that a route file asks for. -/
def RouteSettings.toRegistrySettings (s : RouteSettings) : RegistrySettings where
  methods := s.methods.getD Method.standard
  rule := s.rule
  duplicates := s.duplicates

end UriRouting
