import UriRouting.Dict
import UriRouting.Json.Value
import UriRouting.OneOrMany

/-!
# Bound values

What a variable is bound to after its captured text has been decoded and read:
a scalar, or a list of scalars for a captured list.
-/

namespace UriRouting

/-- A single bound value. -/
inductive Scalar where
  | text (t : Text)
  | integer (n : Int)
  | decimal (x : Binary64)
  | boolean (b : Bool)
  deriving DecidableEq, Repr

namespace Scalar

/-- The value as plain text. -/
def toText : Scalar → Text
  | text t => t
  | integer n => writeInt n
  | decimal x => DecimalStyle.plain.write x
  | boolean true => "true".toList
  | boolean false => "false".toList

/-- The value as JSON. -/
def toJson : Scalar → Json
  | text t => .text t
  | integer n => .integer n
  | decimal x => .decimal x
  | boolean b => .bool b

end Scalar

/-- The value of a variable. -/
abbrev BoundValue := OneOrMany Scalar

namespace BoundValue

/-- The value as plain text, list items separated by commas. -/
def toText (value : BoundValue) : Text := Text.joined [','] (value.items.map Scalar.toText)

/-- The value as JSON. -/
def toJson : BoundValue → Json
  | .one s => s.toJson
  | .many ss => .array (ss.map Scalar.toJson)

/-- The text, when the value is one. -/
def text? : BoundValue → Option Text
  | .one (.text t) => some t
  | _ => none

/-- The integer, when the value is one. -/
def integer? : BoundValue → Option Int
  | .one (.integer n) => some n
  | _ => none

/-- The items, when the value is a list. -/
def list? : BoundValue → Option (List Scalar)
  | .many ss => some ss
  | _ => none

end BoundValue

/-- The values of variables, by name. -/
abbrev Bindings := Dict Text BoundValue

/-- Bindings as a JSON object. -/
def Bindings.toJson (bindings : Bindings) : Json :=
  .ofMembers (bindings.entries.map fun (name, value) => (name, value.toJson))

end UriRouting
