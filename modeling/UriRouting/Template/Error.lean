import UriRouting.Text

/-!
# Faults of a template

Every way in which a text can fail to be a template, with the position or the
piece of text that is at fault.  Positions are byte offsets into the template.
-/

namespace UriRouting

/-- Why a text is not a template. -/
inductive TemplateError where
  /-- A brace that opens inside an expression or closes outside one. -/
  | unbalancedBrace (position : Nat)
  /-- An expression, opened at `position`, without an end. -/
  | unclosedExpression (position : Nat)
  /-- An expression that begins with no known operator. -/
  | unknownOperator (operator : Text)
  /-- A named operator without its three parts, or a list of several variables. -/
  | malformedOperator (expression : Text)
  /-- A variable without a name. -/
  | emptyVariableName (position : Nat)
  /-- A name with a character that names may not have. -/
  | invalidVariableName (name : Text)
  /-- A type tag with a character that tags may not have. -/
  | invalidTypeTag (kind name : Text)
  /-- A name that occurs twice in one operator. -/
  | duplicateVariable (name : Text)
  deriving DecidableEq, Repr

namespace TemplateError

/-- The wording of a fault. -/
def message : TemplateError → String
  | unbalancedBrace position => s!"unbalanced brace at position {position}"
  | unclosedExpression position => s!"expression opened at position {position} is never closed"
  | unknownOperator operator => "unknown operator '" ++ String.ofList operator ++ "'"
  | malformedOperator expression =>
      "malformed operator expression '\x7b" ++ String.ofList expression ++
        "\x7d': expected '-name|arg|vars'"
  | emptyVariableName position => s!"empty variable name at position {position}"
  | invalidVariableName name => "invalid variable name '" ++ String.ofList name ++ "'"
  | invalidTypeTag kind name =>
      "invalid type tag '" ++ String.ofList kind ++ "' for variable '" ++ String.ofList name ++ "'"
  | duplicateVariable name =>
      "variable '" ++ String.ofList name ++ "' appears twice in the same expression"

/-- The fault with its position, if it has one, moved by `n` bytes. -/
def shift (n : Nat) : TemplateError → TemplateError
  | unbalancedBrace position => unbalancedBrace (position + n)
  | unclosedExpression position => unclosedExpression (position + n)
  | emptyVariableName position => emptyVariableName (position + n)
  | error => error

end TemplateError
end UriRouting
