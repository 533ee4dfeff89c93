import UriRouting.Binding.Value
import UriRouting.Decimal.Reader
import UriRouting.Text.Quoted

/-!
# Resolvers and binders

A resolver says which decoded texts it accepts, and reads a text as a typed value or
rejects it.  Anyone may write one, so it is two functions, and nothing makes the one agree
with the other.  Four are at hand: `Resolver.integer`, `Resolver.decimal`,
`Resolver.boolean` and `Resolver.choice`.  These read scalars, and so does every `Resolver`;
an `AnyResolver` may read values of any type, lists among them.

A binder knows the resolver of each type tag; text without a tag, or with a tag that the
binder does not know, is bound as it is.
-/

namespace UriRouting

/-- How the text of a typed variable is read, as a value of any type. -/
structure AnyResolver (α : Type) where
  /-- The value of a text, unless it is rejected. -/
  resolve : Text → Option α
  /-- Whether a text is accepted. -/
  accepts : Text → Bool := fun t => (resolve t).isSome

/-- The value of a text that is accepted. -/
def AnyResolver.read? {α : Type} (r : AnyResolver α) (t : Text) : Option α :=
  if r.accepts t then r.resolve t else none

/-- A resolver that accepts what it can read gives what it reads. -/
theorem AnyResolver.read?_eq_resolve {α : Type} {r : AnyResolver α} {t : Text}
    (h : r.accepts t = (r.resolve t).isSome) : r.read? t = r.resolve t := by
  rw [read?, h]
  cases r.resolve t <;> rfl

/-- A resolver that reads scalars. -/
abbrev Resolver := AnyResolver Scalar

/-- The truth value that a text names. -/
def readBoolean? (t : Text) : Option Bool :=
  let t := t.lower
  if t = "true".toList ∨ t = "yes".toList ∨ t = ['1'] then some true
  else if t = "false".toList ∨ t = "no".toList ∨ t = ['0'] then some false
  else none

namespace Resolver

/-- Integers of sixty-four bits. -/
def integer : Resolver where
  resolve t := (readInteger? t).map .integer

/-- Finite floating-point numbers. -/
def decimal : Resolver where
  resolve t := (readDecimal? t).map .decimal

/-- `true`, `yes`, `1` and `false`, `no`, `0`, in upper or lower case. -/
def boolean : Resolver where
  resolve t := (readBoolean? t).map .boolean

/-- One of a fixed set of texts. -/
def choice (allowed : List Text) : Resolver where
  resolve t := if allowed.contains t then some (.text t) else none
  accepts t := allowed.contains t

end Resolver

/-- The resolvers of the type tags that are known. -/
abbrev Binder := Dict Text Resolver

namespace Binder

/-- The binder that knows the tags `int`, `integer`, `decimal` and `boolean`. -/
def standard : Binder :=
  Dict.ofList [("int".toList, .integer), ("integer".toList, .integer),
    ("decimal".toList, .decimal), ("boolean".toList, .boolean)]

/-- The resolver for a variable's tag. -/
def resolver? (binder : Binder) (kind : Option Text) : Option Resolver :=
  kind.bind binder.get?

/-- The value of a decoded text for a variable with the given tag: a resolver reads only
what it accepts. -/
def bind (binder : Binder) (kind : Option Text) (t : Text) : Option Scalar :=
  match binder.resolver? kind with
  | some resolver => resolver.read? t
  | none => some (.text t)

/-- The description of a binder by its tags. -/
def describe (binder : Binder) : String := Text.describeNames "VariableBinder" "tags" binder.keys

end Binder
end UriRouting
