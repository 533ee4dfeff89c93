import UriRouting.Text

/-!
# Character classes and runs

A URI is made of unreserved characters, reserved characters and escapes, an
escape being `%` and two hexadecimal digits.  A *run* of a class is a longest
beginning of a text made of characters of the class and of whole escapes: an
escape is taken whole or not at all, and a `%` that opens none ends the run.

`CharClass.run` counts the characters of the run, `CharClass.runBytes` its UTF-8
bytes.  The two differ for `any` alone, since the other classes are ASCII.
-/

namespace UriRouting

/-- A hexadecimal digit, in either case. -/
def isHexDigit (c : Char) : Bool :=
  c.isDigit || ('a' ≤ c && c ≤ 'f') || ('A' ≤ c && c ≤ 'F')

/-- ASCII letters and digits and the marks that never need an escape. -/
def isUnreserved (c : Char) : Bool :=
  c.isAlphanum || c == '-' || c == '_' || c == '.' || c == '~'

/-- The characters that a URI uses as delimiters. -/
def reservedChars : List Char :=
  [':', '/', '?', '#', '[', ']', '@', '!', '$', '&', '\'', '(', ')', '*', '+', ',', ';', '=']

/-- Whether a character is one of the delimiters. -/
def isReserved (c : Char) : Bool := reservedChars.contains c

/-- Which characters a matched run may hold. -/
inductive CharClass where
  /-- Unreserved characters and escapes. -/
  | unreserved
  /-- Unreserved characters, commas and escapes. -/
  | unreservedList
  /-- Unreserved characters, delimiters and escapes. -/
  | reserved
  /-- Every character. -/
  | any
  deriving DecidableEq, Repr

namespace CharClass

/-- Whether a single character, escapes aside, belongs to the class. -/
def admits : CharClass → Char → Bool
  | unreserved, c => isUnreserved c
  | unreservedList, c => isUnreserved c || c == ','
  | reserved, c => isUnreserved c || isReserved c
  | any, _ => true

/-- The length of the longest beginning made of characters that `p` admits and
of whole escapes. -/
def runOf (p : Char → Bool) : Text → Nat
  | [] => 0
  | '%' :: x :: y :: rest => if isHexDigit x && isHexDigit y then runOf p rest + 3 else 0
  | c :: rest => if c != '%' && p c then runOf p rest + 1 else 0

/-- The number of characters in the longest run that a text begins with. -/
def run (k : CharClass) (t : Text) : Nat :=
  match k with
  | any => t.length
  | _ => runOf k.admits t

/-- The number of UTF-8 bytes in the longest run that a text begins with. -/
def runBytes (k : CharClass) (t : Text) : Nat := Text.utf8Size (t.take (k.run t))

end CharClass
end UriRouting
