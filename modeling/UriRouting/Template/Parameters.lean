import UriRouting.Dict
import UriRouting.OneOrMany
import UriRouting.Template.Token

/-!
# Parameters

The values that a caller gives to the variables of a template.  A parameter that
is an empty text or an empty list is present and yet undefined, and a variable
without a defined parameter falls back on its default, even an empty one.
-/

namespace UriRouting

/-- The values given to variables, by name. -/
abbrev Parameters := Dict Text (OneOrMany Text)

namespace Parameters

/-- The value of a variable: its parameter when that is defined, else its
default. -/
def lookup (params : Parameters) (v : Variable) : Option (OneOrMany Text) :=
  match params.get? v.name with
  | some value => if value.isDefined then some value else v.default.map .one
  | none => v.default.map .one

/-- Whether a variable has a value. -/
def defines (params : Parameters) (v : Variable) : Bool := (params.lookup v).isSome

/-- The variables that have a value, with their values. -/
def defined (params : Parameters) (vs : List Variable) : List (Variable × OneOrMany Text) :=
  vs.filterMap fun v => (params.lookup v).map fun value => (v, value)

/-- The parameters with one more value for a name: a name that has values
already gets the list of them all. -/
def add (params : Parameters) (name value : Text) : Parameters :=
  params.insert name <|
    match params.get? name with
    | none => .one value
    | some present => .many (present.items ++ [value])

/-- The parameters that `NAME=VALUE` pairs give, or the first text that is not
such a pair. -/
def ofPairs (pairs : List Text) : Except Text Parameters :=
  pairs.foldlM (fun params pair =>
    match pair.splitOnce '=' with
    | some (name, value) => .ok (params.add name value)
    | none => .error pair) Dict.empty

end Parameters
end UriRouting
