import UriRouting.Text

/-!
# Tokens of a template

A template is a sequence of tokens: literal text, the wildcard `*`, a variable
`{type:name=default}`, or an operator over several variables.  Four operators are
single symbols, as in `{;x,y}`; the other six carry a text of their own and are
written `{-name|text|variables}`, as in `{-join|&|a,b}`.

`Token.text` writes a token the way a template spells it.
-/

namespace UriRouting

/-- A variable of a template. -/
structure Variable where
  /-- The name that parameters and bindings use. -/
  name : Text
  /-- The value that stands in for an undefined parameter. -/
  default : Option Text := none
  /-- The tag that selects how a captured value is read. -/
  kind : Option Text := none
  deriving DecidableEq, Repr

/-- What an operator does with its variables. -/
inductive OperatorForm where
  /-- `+`: values in which delimiters stay unescaped, separated by commas. -/
  | reserved
  /-- `;`: a group `;name=value` for each variable. -/
  | pathParameters
  /-- `?`: groups `name=value` after `?`, separated by `&`. -/
  | queryParameters
  /-- `/`: a segment `/value` for each variable. -/
  | pathSegments
  /-- Groups `name=value` with a separator between them. -/
  | join (separator : Text)
  /-- The items of one list with a separator between them. -/
  | list (separator : Text)
  /-- A text for the case that no variable is defined. -/
  | opt (text : Text)
  /-- A text for the case that every variable is defined. -/
  | neg (text : Text)
  /-- Every item with a text before it. -/
  | prefixed (text : Text)
  /-- Every item with a text after it. -/
  | suffixed (text : Text)
  deriving DecidableEq, Repr

/-- An operator applied to its variables. -/
structure Operator where
  /-- What is done with the variables. -/
  form : OperatorForm
  /-- The variables, in declaration order. -/
  vars : List Variable
  deriving DecidableEq, Repr

/-- One unit of a template. -/
inductive Token where
  /-- Text that stands for itself. -/
  | literal (text : Text)
  /-- Any run of characters. -/
  | wildcard
  /-- The value of one variable. -/
  | var (v : Variable)
  /-- The values of several variables, combined. -/
  | operator (op : Operator)
  deriving DecidableEq, Repr

namespace OperatorForm

/-- The operator that a single symbol stands for. -/
def ofSymbol? : Char → Option OperatorForm
  | '+' => some reserved
  | ';' => some pathParameters
  | '?' => some queryParameters
  | '/' => some pathSegments
  | _ => none

/-- The operators that carry a text, by name. -/
def named : List (Text × (Text → OperatorForm)) :=
  [("join".toList, join), ("list".toList, list), ("opt".toList, opt), ("neg".toList, neg),
    ("prefix".toList, prefixed), ("suffix".toList, suffixed)]

/-- The operator that a name stands for, still to be given its text. -/
def ofName? (name : Text) : Option (Text → OperatorForm) :=
  (named.find? fun entry => entry.1 = name).map Prod.snd

/-- The part of an expression before its variables. -/
def text : OperatorForm → Text
  | reserved => ['+']
  | pathParameters => [';']
  | queryParameters => ['?']
  | pathSegments => ['/']
  | join separator => "-join|".toList ++ separator ++ ['|']
  | list separator => "-list|".toList ++ separator ++ ['|']
  | opt arg => "-opt|".toList ++ arg ++ ['|']
  | neg arg => "-neg|".toList ++ arg ++ ['|']
  | prefixed arg => "-prefix|".toList ++ arg ++ ['|']
  | suffixed arg => "-suffix|".toList ++ arg ++ ['|']

end OperatorForm

/-- A variable as a template spells it: `type:name=default`. -/
def Variable.text (v : Variable) : Text :=
  (v.kind.elim [] fun kind => kind ++ [':']) ++ v.name ++
    (v.default.elim [] fun default => '=' :: default)

/-- The variable of an operator that has a given name. -/
def Operator.variable? (op : Operator) (name : Text) : Option Variable :=
  op.vars.find? fun v => v.name = name

/-- An operator as a template spells it, braces included. -/
def Operator.text (op : Operator) : Text :=
  '{' :: op.form.text ++ Text.joined [','] (op.vars.map Variable.text) ++ ['}']

namespace Token

/-- A token as a template spells it. -/
def text : Token → Text
  | literal t => t
  | wildcard => ['*']
  | var v => '{' :: v.text ++ ['}']
  | operator op => op.text

/-- The variables of a token, in declaration order. -/
def vars : Token → List Variable
  | literal _ => []
  | wildcard => []
  | var v => [v]
  | operator op => op.vars

/-- Whether a token is literal text. -/
def isLiteral : Token → Bool
  | literal _ => true
  | _ => false

/-- The number of code points of literal text in a token. -/
def literalLength : Token → Nat
  | literal t => t.length
  | _ => 0

/-- The text of a token sequence. -/
def textOf (tokens : List Token) : Text := tokens.flatMap text

end Token
end UriRouting
