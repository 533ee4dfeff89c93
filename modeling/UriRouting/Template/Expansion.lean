import UriRouting.Percent.Codec
import UriRouting.Template.Basic
import UriRouting.Template.Parameters

/-!
# Expansion

Expansion writes a template with values in place of its variables.  It never
fails: a variable without a value contributes nothing.  Values are percent
encoded; only the operator `+` leaves delimiters in them.

The operators differ in what they put between and around the values that are
defined; `expandOperator` lists them.
-/

namespace UriRouting.Template

/-- The items of a value, encoded and separated by commas. -/
def joinItems (encode : Text → Text) (value : OneOrMany Text) : Text :=
  Text.joined [','] (value.items.map encode)

/-- The group `name=value`. -/
def pair (entry : Variable × OneOrMany Text) : Text :=
  entry.1.name ++ '=' :: joinItems Percent.encode entry.2

/-- The text of an operator under given parameters. -/
def expandOperator (op : Operator) (params : Parameters) : Text :=
  let defined := params.defined op.vars
  let items := defined.flatMap fun entry => entry.2.items.map Percent.encode
  match op.form with
  | .reserved =>
      Text.joined [','] (defined.map fun entry => joinItems Percent.encodeReserved entry.2)
  | .pathParameters => defined.flatMap fun entry => ';' :: pair entry
  | .queryParameters =>
      match defined with
      | [] => []
      | _ => '?' :: Text.joined ['&'] (defined.map pair)
  | .pathSegments => defined.flatMap fun entry => '/' :: joinItems Percent.encode entry.2
  | .join separator => Text.joined separator (defined.map pair)
  | .list separator => Text.joined separator items
  | .prefixed arg => items.flatMap fun item => arg ++ item
  | .suffixed arg => items.flatMap fun item => item ++ arg
  | .opt arg => if op.vars.any params.defines then [] else arg
  | .neg arg => if op.vars.all params.defines then arg else []

/-- The text of a token under given parameters. -/
def expandToken (params : Parameters) : Token → Text
  | .literal t => t
  | .wildcard => ['*']
  | .var v =>
      match params.lookup v with
      | some value => joinItems Percent.encode value
      | none => []
  | .operator op => expandOperator op params

/-- The text of a token sequence under given parameters. -/
def expandTokens (tokens : List Token) (params : Parameters) : Text :=
  tokens.flatMap (expandToken params)

/-- The text of a template under given parameters. -/
def expand (t : Template) (params : Parameters) : Text := expandTokens t.tokens params

end UriRouting.Template
