import UriRouting.Binding.Resolution
import UriRouting.Registry.Generators
import UriRouting.Registry.Snapshot
import UriRouting.RouteFile.Basic

/-!
# Service registries

A registry dispatches a method and a path to a service.  It changes in four
ways: `register` adds one pattern, `reload` replaces everything by a list of
routes, `load` does so by the routes of a route file, and `clear` removes
everything.  A change that fails gives an error instead of a registry, so the
registry at hand stays what it was.

`get?` answers for a path that is itself the text of a registered pattern from
that registration and binds nothing.  For any other path it takes the pattern
that the match rule chooses and resolves the path against it.

A registry is a value.  Whoever keeps one goes on reading the registrations that
it held, whatever is registered later.
-/

namespace UriRouting

variable {σ : Type}

/-- A dispatch table from methods and paths to services. -/
structure Registry (σ : Type) where
  /-- The settings. -/
  settings : RegistrySettings
  /-- The resolvers for typed variables. -/
  binder : Binder
  /-- The current registrations. -/
  snapshot : Snapshot σ

/-- A service to be registered. -/
structure Registration (σ : Type) where
  /-- The service. -/
  service : σ
  /-- The pattern, not yet read. -/
  pattern : Text
  /-- The method; without one, every supported method. -/
  method : Option Method

/-- The service found for a path. -/
structure Dispatch (σ : Type) where
  /-- The service. -/
  service : σ
  /-- The pattern under which it was registered. -/
  pattern : Pattern
  /-- The outcome of resolving the path. -/
  resolution : Resolution

namespace Registry

/-- The registry without registrations. -/
def ofSettings (settings : RegistrySettings) : Registry σ where
  settings := settings
  binder := Binder.standard
  snapshot := .empty settings.methods

/-- The registry with another binder. -/
def withBinder (r : Registry σ) (binder : Binder) : Registry σ := { r with binder }

/-! ## Writing -/

/-- The pattern of a text to be registered. -/
def readPattern (source : Text) : Except RegistryError Pattern :=
  match Pattern.parse source with
  | .ok p => .ok p
  | .error fault => .error (.malformedPattern source fault)

/-- The methods that a registration is for: the listed ones, all of which have
to be supported, or else every supported one. -/
def targets (r : Registry σ) : Option (List Method) → Except RegistryError (List Method)
  | none => .ok r.settings.methods
  | some methods =>
      match methods.find? fun m => !r.settings.methods.contains m with
      | some m => .error (.unsupportedMethod m)
      | none => .ok methods

/-- The registry with one more registration.  A malformed pattern is reported
before an unsupported method, and both before a duplicate. -/
def register (r : Registry σ) (item : Registration σ) : Except RegistryError (Registry σ) := do
  let pattern ← readPattern item.pattern
  let methods ← r.targets (item.method.map ([·]))
  let snapshot ← r.snapshot.insertAll r.settings.duplicates ⟨pattern, item.service⟩ methods
  return { r with snapshot }

/-- The registry without any registration. -/
def clear (r : Registry σ) : Registry σ := { r with snapshot := .empty r.settings.methods }

/-- Reads a pattern and adds it with its service to a snapshot. -/
def stage (r : Registry σ) (snapshot : Snapshot σ) (service : σ) (pattern : Text)
    (methods : List Method) : Except RegistryError (Snapshot σ) := do
  let pattern ← readPattern pattern
  snapshot.insertAll r.settings.duplicates ⟨pattern, service⟩ methods

/-- The registry with the given registrations and no others.  For each of them
an unsupported method is reported first. -/
def reload (r : Registry σ) (items : List (Registration σ)) :
    Except RegistryError (Registry σ) := do
  let snapshot ← items.foldlM (fun snapshot item => do
    let methods ← r.targets (item.method.map ([·]))
    r.stage snapshot item.service item.pattern methods) (Snapshot.empty r.settings.methods)
  return { r with snapshot }

/-- The registry with the routes of a route file and no others.  For each of them
an unsupported method is reported first, then an unknown service. -/
def load (r : Registry σ) (file : RouteFile) (generators : Generators σ) :
    Except RegistryError (Registry σ) := do
  let snapshot ← file.routes.foldlM (fun snapshot route => do
    let methods ← r.targets route.methods
    let service ← generators.create route.service
    r.stage snapshot service route.pattern methods) (Snapshot.empty r.settings.methods)
  return { r with snapshot }

/-- The registry that a route file describes. -/
def ofRouteFile (file : RouteFile) (generators : Generators σ) :
    Except RegistryError (Registry σ) :=
  (ofSettings file.settings.toRegistrySettings).load file generators

/-! ## Reading -/

/-- The service for a path. -/
def get? (r : Registry σ) (path : Text) (method : Method) : Option (Dispatch σ) := do
  let table ← r.snapshot.table? method
  match table.exact.get? path with
  | some entry => some ⟨entry.service, entry.pattern, .resolved Dict.empty⟩
  | none =>
      let entry ← Pattern.choose? Entry.pattern r.settings.rule path table.entries
      some ⟨entry.service, entry.pattern, entry.pattern.resolve r.binder path⟩

/-- The texts of the patterns for a method, in the order of registration. -/
def patterns (r : Registry σ) (method : Method) : List Text := r.snapshot.patterns method

/-- The number of registrations, counted once for each method. -/
def size (r : Registry σ) : Nat := r.snapshot.size

/-- Whether there is no registration. -/
def isEmpty (r : Registry σ) : Bool := r.size == 0

end Registry
end UriRouting
