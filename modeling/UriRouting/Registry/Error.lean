import UriRouting.Registry.Method
import UriRouting.Template.Error

/-!
# Failed registrations

Why a change of a registry is refused.  A refused change leaves the registry as
it was.
-/

namespace UriRouting

/-- Why a registry refuses a change. -/
inductive RegistryError where
  /-- The text is no pattern. -/
  | malformedPattern (pattern : Text) (fault : TemplateError)
  /-- The pattern is registered, and duplicates are to be rejected. -/
  | duplicatePattern (pattern : Text) (method : Method)
  /-- The registry has no table for the method. -/
  | unsupportedMethod (method : Method)
  /-- Nothing makes services under this id. -/
  | unknownGenerator (id : Text)
  deriving DecidableEq, Repr

namespace RegistryError

/-- The wording of the error. -/
def message : RegistryError → String
  | malformedPattern pattern fault =>
      "invalid pattern '" ++ String.ofList pattern ++ "': " ++ fault.message
  | duplicatePattern pattern method =>
      "pattern '" ++ String.ofList pattern ++ "' is already registered for " ++ method.name
  | unsupportedMethod method => "method " ++ method.name ++ " is not supported by this registry"
  | unknownGenerator id => "no generator registered under '" ++ String.ofList id ++ "'"

/-- The wordings of the errors that led to this one. -/
def causes : RegistryError → List String
  | malformedPattern _ fault => [fault.message]
  | _ => []

end RegistryError
end UriRouting
