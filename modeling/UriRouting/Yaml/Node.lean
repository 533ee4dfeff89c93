import UriRouting.Text

/-!
# Nodes of a document

What a document in YAML says, as far as route files need it: scalars, sequences
and mappings.  Whether a scalar was written plain or between quotation marks
matters, since only a plain one can mean that there is no value.
-/

namespace UriRouting

/-- A node of a document. -/
inductive Yaml where
  /-- A scalar without quotation marks, empty when there is none at all. -/
  | plain (t : Text)
  /-- A scalar between quotation marks. -/
  | quoted (t : Text)
  /-- A sequence. -/
  | sequence (items : List Yaml)
  /-- A mapping, in the order of its entries. -/
  | mapping (entries : List (Yaml × Yaml))

namespace Yaml

/-- The node that stands where nothing is written. -/
def absent : Yaml := plain []

/-- Whether a node says that there is no value. -/
def isNull : Yaml → Bool
  | plain t =>
      t.isEmpty || t == ['~'] || t == "null".toList || t == "Null".toList || t == "NULL".toList
  | _ => false

/-- The text of a scalar. -/
def scalar? : Yaml → Option Text
  | plain t => some t
  | quoted t => some t
  | _ => none

/-- The text that a scalar stands for where a text is expected.  A number or a
truth value counts by its spelling, nothing written is the empty text, and the
word for no value is no text. -/
def text? : Yaml → Option Text
  | plain [] => some []
  | node => if node.isNull then none else node.scalar?

/-- The items of a sequence; nothing written counts as no items. -/
def items? : Yaml → Option (List Yaml)
  | sequence items => some items
  | plain [] => some []
  | _ => none

/-- The entries of a mapping by the texts of their keys; nothing written counts
as no entries. -/
def entries? : Yaml → Option (List (Text × Yaml))
  | mapping entries => entries.mapM fun (key, value) => key.scalar?.map fun k => (k, value)
  | plain [] => some []
  | _ => none

end Yaml
end UriRouting
