import UriRouting.Text

/-!
# Names that stand for nothing

Methods and match rules are chosen by name.  A name that none of them has is an
error of its own, which keeps the name as it was given.
-/

namespace UriRouting

/-- A name that is none of those expected. -/
inductive UnknownName where
  /-- No request method has this name. -/
  | method (name : Text)
  /-- No match rule has this name. -/
  | matchRule (name : Text)
  deriving DecidableEq, Repr

/-- The wording of the error. -/
def UnknownName.message : UnknownName → String
  | method name => "unknown HTTP method '" ++ String.ofList name ++ "'"
  | matchRule name =>
      "unknown match rule '" ++ String.ofList name ++ "': expected 'first' or 'best'"

end UriRouting
