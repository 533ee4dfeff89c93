import UriRouting.OneOrMany
import UriRouting.Template.Token

/-!
# Captures

Matching a URI against a pattern gives a list of captures, in the order in which
the pattern takes them, and the number of code points that literal text matched.
Captured text is still percent encoded.
-/

namespace UriRouting

/-- Text taken for a variable. -/
structure Capture where
  /-- The variable. -/
  var : Variable
  /-- The text, or the texts of a list. -/
  raw : OneOrMany Text
  deriving DecidableEq, Repr

/-- How a pattern matched a URI. -/
structure Match where
  /-- The captures, in the order in which they were taken. -/
  captures : List Capture
  /-- The number of code points that literal tokens matched. -/
  literalChars : Nat
  deriving DecidableEq, Repr

namespace Match

/-- The match of no tokens against no text. -/
def empty : Match := ⟨[], 0⟩

/-- A match with captures taken before it. -/
def withCaptures (captures : List Capture) (m : Match) : Match :=
  { m with captures := captures ++ m.captures }

/-- A match with literal text matched before it. -/
def withLiteral (literal : Text) (m : Match) : Match :=
  { m with literalChars := literal.length + m.literalChars }

end Match

/-- The captures of the operator `+`: a single variable takes the whole text,
several take the fields between commas, the last one all that is left. -/
def positionalCaptures (vs : List Variable) (raw : Text) : List Capture :=
  match vs with
  | [v] => [⟨v, .one raw⟩]
  | vs => (vs.zip (raw.fieldsAtMost ',' vs.length)).map fun (v, part) => ⟨v, .one part⟩

end UriRouting
