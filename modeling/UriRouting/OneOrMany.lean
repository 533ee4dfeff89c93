import UriRouting.Text

/-!
# A value or a list of values

Template parameters, captured text and bound values all come either alone or as
a list.  A list of one item is not the item: which of the two a value is shows
in every answer, so the distinction is kept everywhere.
-/

namespace UriRouting

/-- A single value, or a list of values. -/
inductive OneOrMany (α : Type) where
  | one (value : α)
  | many (values : List α)
  deriving DecidableEq, Repr

namespace OneOrMany

variable {α β : Type}

/-- The values held, in order. -/
def items : OneOrMany α → List α
  | one a => [a]
  | many as => as

@[simp] theorem items_one (a : α) : (one a).items = [a] := rfl

@[simp] theorem items_many (as : List α) : (many as).items = as := rfl

/-- A list of exactly one item counts as the item. -/
def ofItems : List α → OneOrMany α
  | [a] => one a
  | as => many as

@[simp] theorem items_ofItems (as : List α) : (ofItems as).items = as := by
  rcases as with _ | ⟨a, _ | ⟨b, as⟩⟩ <;> rfl

/-- The image under a map that may fail; one failing item fails the whole. -/
def mapM? (f : α → Option β) : OneOrMany α → Option (OneOrMany β)
  | one a => (f a).map one
  | many as => (as.mapM f).map many

/-- The items of a text that separates them by commas. -/
def ofCommaSeparated (t : Text) : OneOrMany Text := ofItems (t.fields ',')

@[simp] theorem items_ofCommaSeparated (t : Text) : (ofCommaSeparated t).items = t.fields ',' :=
  items_ofItems _

/-- A text value is defined when it is a non-empty text or a non-empty list. -/
def isDefined : OneOrMany Text → Bool
  | one t => !t.isEmpty
  | many ts => !ts.isEmpty

end OneOrMany
end UriRouting
