import UriRouting.Binding.Resolver
import UriRouting.Pattern.Basic
import UriRouting.Percent.Codec

/-!
# Resolution

Resolving a URI against a pattern matches it and binds the captures.  A capture
that cannot be decoded, or that its resolver rejects, is left out and does not
undo the match; a list is bound only if all its items are.  When a name is
captured several times, the last capture that can be bound counts.
-/

namespace UriRouting

/-- The outcome of resolving a URI against a pattern. -/
inductive Resolution where
  /-- The pattern does not match. -/
  | unresolved
  /-- The pattern matches and gives these bindings. -/
  | resolved (bindings : Bindings)

namespace Resolution

/-- The bindings, of which an unresolved URI has none. -/
def bindings : Resolution → Bindings
  | unresolved => Dict.empty
  | resolved bindings => bindings

/-- Whether the pattern matched. -/
def isResolved : Resolution → Bool
  | unresolved => false
  | resolved _ => true

/-- The word for the outcome. -/
def status : Resolution → String
  | unresolved => "unresolved"
  | resolved _ => "resolved"

/-- The value of a variable. -/
def get? (r : Resolution) (name : Text) : Option BoundValue := r.bindings.get? name

/-- The outcome as a JSON object. -/
def toJson (r : Resolution) : Json :=
  .ofMembers [("bindings".toList, r.bindings.toJson), ("status".toList, .text r.status.toList)]

end Resolution

/-- The value of one captured text. -/
def Binder.bindRaw (binder : Binder) (kind : Option Text) (raw : Text) : Option Scalar := do
  binder.bind kind (← Percent.decode raw)

/-- The value of a capture. -/
def Binder.bindCapture (binder : Binder) (capture : Capture) : Option BoundValue :=
  capture.raw.mapM? (binder.bindRaw capture.var.kind)

/-- The bindings of a list of captures added to given ones. -/
def Binder.bindAll (binder : Binder) (captures : List Capture) (bindings : Bindings) : Bindings :=
  captures.foldl (fun bindings capture =>
    match binder.bindCapture capture with
    | some value => bindings.insert capture.var.name value
    | none => bindings) bindings

/-- The outcome of resolving a URI against a pattern. -/
def Pattern.resolve (p : Pattern) (binder : Binder) (uri : Text) : Resolution :=
  match p.match? uri with
  | none => .unresolved
  | some m => .resolved (binder.bindAll m.captures Dict.empty)

end UriRouting
