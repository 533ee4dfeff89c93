import UriRouting.Decimal.Writer

/-!
# JSON values

The values that answers are made of, and the two ways in which they are written:
`Json.compact` on one line without blanks, `Json.pretty` over several lines with
an indentation of two.  Members of an object are written in the order of their
keys; `Json.ofMembers` sorts them by code point.
-/

namespace UriRouting

/-- A JSON value. -/
inductive Json where
  | null
  | bool (b : Bool)
  | integer (n : Int)
  | decimal (x : Binary64)
  | text (t : Text)
  | array (items : List Json)
  | object (members : List (Text × Json))

namespace Json

/-- An object whose members are in the order of their keys. -/
def ofMembers (members : List (Text × Json)) : Json :=
  object (members.mergeSort fun a b => Text.le a.1 b.1)

/-- A hexadecimal digit in lower case. -/
def hexDigit (n : Nat) : Char := if n < 10 then Char.ofNat (n + 48) else Char.ofNat (n + 87)

/-- A character as it stands between quotation marks. -/
def escapeChar (c : Char) : Text :=
  match c with
  | '"' => ['\\', '"']
  | '\\' => ['\\', '\\']
  | '\n' => ['\\', 'n']
  | '\r' => ['\\', 'r']
  | '\t' => ['\\', 't']
  | c =>
      if c.toNat = 8 then ['\\', 'b']
      else if c.toNat = 12 then ['\\', 'f']
      else if c.toNat < 32 then
        ['\\', 'u', '0', '0', hexDigit (c.toNat / 16), hexDigit (c.toNat % 16)]
      else [c]

/-- A text between quotation marks. -/
def quote (t : Text) : Text := '"' :: t.flatMap escapeChar ++ ['"']

mutual

/-- A value on one line. -/
def compact : Json → Text
  | null => "null".toList
  | bool true => "true".toList
  | bool false => "false".toList
  | integer n => writeInt n
  | decimal x => DecimalStyle.json.write x
  | text t => quote t
  | array items => '[' :: Text.joined [','] (compactItems items) ++ [']']
  | object members => '{' :: Text.joined [','] (compactMembers members) ++ ['}']

/-- The items of an array, each on one line. -/
def compactItems : List Json → List Text
  | [] => []
  | item :: items => compact item :: compactItems items

/-- The members of an object, each on one line. -/
def compactMembers : List (Text × Json) → List Text
  | [] => []
  | (key, value) :: members => (quote key ++ ':' :: compact value) :: compactMembers members

end

/-- The start of a line at a depth of indentation. -/
def newLine (depth : Nat) : Text := '\n' :: List.replicate (2 * depth) ' '

mutual

/-- A value over several lines, standing at a depth of indentation. -/
def prettyAt (depth : Nat) : Json → Text
  | array (item :: items) =>
      '[' :: Text.joined [','] (prettyItems (depth + 1) (item :: items)) ++ newLine depth ++ [']']
  | object (member :: members) =>
      '{' :: Text.joined [','] (prettyMembers (depth + 1) (member :: members)) ++
        newLine depth ++ ['}']
  | value => value.compact

/-- The items of an array, each on a line of its own. -/
def prettyItems (depth : Nat) : List Json → List Text
  | [] => []
  | item :: items => (newLine depth ++ prettyAt depth item) :: prettyItems depth items

/-- The members of an object, each on a line of its own. -/
def prettyMembers (depth : Nat) : List (Text × Json) → List Text
  | [] => []
  | (key, value) :: members =>
      (newLine depth ++ quote key ++ ':' :: ' ' :: prettyAt depth value) ::
        prettyMembers depth members

end

/-- A value over several lines. -/
def pretty (j : Json) : Text := prettyAt 0 j

end Json
end UriRouting
