import UriRouting.Dict
import UriRouting.Registry.Error
import UriRouting.Text.Quoted

/-!
# Generators

Route files name services by an id.  A table of generators says which service each id
stands for.

A generator makes a service anew for each route that names its id.  All that it makes count
as the same service here, so the table has the service and not the function that makes it;
what could tell two of them apart, such as a state of their own, is no part of `σ`.
-/

namespace UriRouting

/-- The services that ids stand for. -/
abbrev Generators (σ : Type) := Dict Text σ

namespace Generators

variable {σ : Type}

/-- The service of an id. -/
def create (generators : Generators σ) (id : Text) : Except RegistryError σ :=
  match generators.get? id with
  | some service => .ok service
  | none => .error (.unknownGenerator id)

/-- The ids, in code point order. -/
def ids (generators : Generators σ) : List Text := generators.keys.mergeSort Text.le

/-- The description of a table of generators by its ids. -/
def describe (generators : Generators σ) : String :=
  Text.describeNames "GeneratorRegistry" "ids" generators.keys

end Generators
end UriRouting
