import UriRouting.Domain.Label

/-!
# Domain names

`labels?` reads a domain name: it folds and composes the text, cuts it at the
full stops, and checks each label and the directions of all.
-/

namespace UriRouting.Domain

/-- The labels of a domain name, in the form that all its spellings share. -/
def labels? (t : Text) : Option (List Text) := do
  let folded ← foldText? t
  let labels ← ((Unicode.compose folded).fields '.').mapM label?
  if labels.any hasRightToLeft ∧ !labels.all isDirected then none else some labels

/-- A domain name in the form that all its spellings share. -/
def canonical? (t : Text) : Option Text := (labels? t).map (Text.joined ['.'])

end UriRouting.Domain
