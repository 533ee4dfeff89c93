import UriRouting.Template.Error
import UriRouting.Template.Token

/-!
# Reading a template

`parseTokens` reads a template from left to right and reports the first fault.
The scan is in one of two states: in plain text, where `*` is a token and every
character but a brace belongs to a literal, or inside an expression, where
everything up to the next `}` is its body.

* `parseVariable` --- the body of a variable, `type:name=default`;
* `parseVariables` --- the variables of an operator, separated by commas;
* `parseExpression` --- the body of an expression;
* `scan` --- the whole template.

Names and type tags begin with an ASCII letter, a digit or `_` and go on with
these, `.` and `-`.
-/

namespace UriRouting

/-- The characters that a name may begin with. -/
def isNameStart (c : Char) : Bool := c.isAlphanum || c == '_'

/-- The characters that a name may go on with. -/
def isNameChar (c : Char) : Bool := c.isAlphanum || c == '_' || c == '.' || c == '-'

/-- Whether a text may be the name of a variable, or a type tag. -/
def isName : Text → Bool
  | [] => false
  | c :: rest => isNameStart c && rest.all isNameChar

namespace Template

/-- The variable that `item`, found at a byte position, declares. -/
def parseVariable (item : Text) (position : Nat) : Except TemplateError Variable :=
  let (declaration, default) :=
    match item.splitOnce '=' with
    | some (declaration, default) => (declaration, some default)
    | none => (item, none)
  let (kind, name) :=
    match declaration.splitOnce ':' with
    | some (kind, name) => (some kind, name)
    | none => (none, declaration)
  if name.isEmpty then .error (.emptyVariableName position)
  else if !isName name then .error (.invalidVariableName name)
  else
    match kind with
    | some tag =>
        if isName tag then .ok { name, default, kind }
        else .error (.invalidTypeTag tag name)
    | none => .ok { name, default, kind }

/-- The variables that the items of a list declare, the first of them at a byte
position; `seen` holds the names declared before. -/
def parseItems (seen : List Text) (position : Nat) :
    List Text → Except TemplateError (List Variable)
  | [] => .ok []
  | item :: items => do
      let v ← parseVariable item position
      if seen.contains v.name then .error (.duplicateVariable v.name)
      else
        let vs ← parseItems (v.name :: seen) (position + item.utf8Size + 1) items
        .ok (v :: vs)

/-- The variables of an operator whose list begins at a byte position. -/
def parseVariables (list : Text) (position : Nat) : Except TemplateError (List Variable) :=
  parseItems [] position (list.fields ',')

/-- The operator `-name|text|variables`, given what follows the dash; the body of
the expression begins at a byte position. -/
def parseNamedOperator (afterDash : Text) (start : Nat) : Except TemplateError Token :=
  let body : Text := '-' :: afterDash
  let parts := afterDash.fieldsAtMost '|' 3
  let name := parts.headD []
  match OperatorForm.ofName? name with
  | none => .error (.unknownOperator ('-' :: name))
  | some form =>
      match parts with
      | [_, arg, list] => do
          let vs ← parseVariables list (start + body.utf8Size - list.utf8Size)
          match form arg, vs with
          | .list _, [_] => .ok (.operator ⟨form arg, vs⟩)
          | .list _, _ => .error (.malformedOperator body)
          | _, _ => .ok (.operator ⟨form arg, vs⟩)
      | _ => .error (.malformedOperator body)

/-- The token of an expression whose body begins at a byte position. -/
def parseExpression (body : Text) (start : Nat) : Except TemplateError Token :=
  match body with
  | [] => .error (.emptyVariableName start)
  | '-' :: rest => parseNamedOperator rest start
  | c :: rest =>
      match OperatorForm.ofSymbol? c with
      | some form => do
          let vs ← parseVariables rest (start + 1)
          .ok (.operator ⟨form, vs⟩)
      | none =>
          if isNameStart c then (parseVariable body start).map .var
          else .error (.unknownOperator [c])

/-- Where a scan stands. -/
inductive ScanState where
  /-- Outside any expression. -/
  | plain
  /-- In the expression opened at a byte position, its body so far in reverse. -/
  | inside (opened : Nat) (bodyRev : Text)

/-- The tokens with a character of literal text put in front. -/
def consLiteral (c : Char) : List Token → List Token
  | .literal t :: tokens => .literal (c :: t) :: tokens
  | tokens => .literal [c] :: tokens

/-- The tokens of what is left of a template, `position` bytes of which have been
read. -/
def scan (position : Nat) : ScanState → Text → Except TemplateError (List Token)
  | .plain, [] => .ok []
  | .plain, '{' :: rest => scan (position + 1) (.inside position []) rest
  | .plain, '}' :: _ => .error (.unbalancedBrace position)
  | .plain, '*' :: rest => (scan (position + 1) .plain rest).map (.wildcard :: ·)
  | .plain, c :: rest => (scan (position + c.utf8Size) .plain rest).map (consLiteral c)
  | .inside opened _, [] => .error (.unclosedExpression opened)
  | .inside _ _, '{' :: _ => .error (.unbalancedBrace position)
  | .inside opened bodyRev, '}' :: rest => do
      let token ← parseExpression bodyRev.reverse (opened + 1)
      let tokens ← scan (position + 1) .plain rest
      .ok (token :: tokens)
  | .inside opened bodyRev, c :: rest =>
      scan (position + c.utf8Size) (.inside opened (c :: bodyRev)) rest

/-- The tokens of a template. -/
def parseTokens (source : Text) : Except TemplateError (List Token) := scan 0 .plain source

end Template
end UriRouting
