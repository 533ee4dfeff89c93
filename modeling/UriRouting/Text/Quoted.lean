import UriRouting.Unicode.Hidden

/-!
# Quoted texts

Texts as they appear in descriptions: between quotation marks, with an escape for
every character that could not be told from its surroundings there.  Tables of
names are described by their names in order.
-/

namespace UriRouting.Text

/-- A character as it stands between quotation marks. -/
def quoteChar : Char → Text
  | '"' => ['\\', '"']
  | '\\' => ['\\', '\\']
  | '\n' => ['\\', 'n']
  | '\r' => ['\\', 'r']
  | '\t' => ['\\', 't']
  | '\x00' => ['\\', '0']
  | c =>
      if Unicode.isHidden c then
        '\\' :: 'u' :: '\x7b' :: Nat.toDigits 16 c.toNat ++ ['\x7d']
      else [c]

/-- A text between quotation marks. -/
def quoted (t : Text) : Text := '"' :: t.flatMap quoteChar ++ ['"']

/-- The description of a table by its title, the word for its names, and the
names in code point order. -/
def describeNames (title word : String) (names : List Text) : String :=
  title ++ " \x7b " ++ word ++ ": [" ++
    String.ofList (joined [',', ' '] ((names.mergeSort le).map quoted)) ++ "] \x7d"

end UriRouting.Text
