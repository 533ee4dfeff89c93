import UriRouting.Pattern.Choice
import UriRouting.Registry.Method

/-!
# Settings of a registry

A registry supports a fixed list of methods, which may name a method twice.  Its
match rule decides between several matching patterns, and its duplicate policy
what happens when a pattern is registered again.
-/

namespace UriRouting

/-- What happens when a pattern is registered a second time for a method. -/
inductive DuplicatePolicy where
  /-- The new service takes the place of the old one. -/
  | replace
  /-- The registration fails. -/
  | reject
  deriving DecidableEq, Repr

/-- The short name of a policy. -/
def DuplicatePolicy.name : DuplicatePolicy → String
  | replace => "replace"
  | reject => "reject"

/-- How a registry behaves. -/
structure RegistrySettings where
  /-- The supported methods. -/
  methods : List Method := Method.standard
  /-- The choice between several matching patterns. -/
  rule : MatchRule := .best
  /-- The treatment of repeated patterns. -/
  duplicates : DuplicatePolicy := .replace
  deriving DecidableEq, Repr

end UriRouting
