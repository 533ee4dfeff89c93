import UriRouting.Dict
import UriRouting.Registry.Error
import UriRouting.Registry.Settings

/-!
# Tables of registrations

What a registry holds at one moment: for each supported method a table of
patterns with their services.  A table keeps its entries twice, in a list in the
order of registration, from which the match rule chooses, and in a map by the
text of the pattern, which finds repeated patterns and answers for paths that
are such a text themselves.

`Snapshot.insert` is the only way to add to a table.
-/

namespace UriRouting

variable {σ : Type}

/-- A registered pattern with its service. -/
structure Entry (σ : Type) where
  /-- The pattern. -/
  pattern : Pattern
  /-- The service. -/
  service : σ

/-- The registrations for one method. -/
structure MethodTable (σ : Type) where
  /-- The entries by the text of their pattern. -/
  exact : Dict Text (Entry σ)
  /-- The entries in the order of registration. -/
  entries : List (Entry σ)

namespace MethodTable

/-- The table without registrations. -/
def empty : MethodTable σ := ⟨Dict.empty, []⟩

/-- The texts of the patterns, in order. -/
def patterns (t : MethodTable σ) : List Text := t.entries.map fun e => e.pattern.source

/-- The entries with a new one in the place of the first that has its pattern
text. -/
def replaceFirst (entry : Entry σ) : List (Entry σ) → List (Entry σ)
  | [] => []
  | e :: rest =>
      if e.pattern.source = entry.pattern.source then entry :: rest
      else e :: replaceFirst entry rest

/-- The table with an entry in the place of the one with the same pattern text,
or at the end when there is none. -/
def put (t : MethodTable σ) (entry : Entry σ) : MethodTable σ where
  exact := t.exact.insert entry.pattern.source entry
  entries :=
    if t.exact.contains entry.pattern.source then replaceFirst entry t.entries
    else t.entries ++ [entry]

end MethodTable

/-- The registrations for every supported method. -/
structure Snapshot (σ : Type) where
  /-- The table of each supported method. -/
  tables : Dict Method (MethodTable σ)

namespace Snapshot

/-- The table of a method, if the method is supported. -/
def table? (s : Snapshot σ) (method : Method) : Option (MethodTable σ) := s.tables.get? method

/-- Empty tables for the given methods. -/
def empty (methods : List Method) : Snapshot σ :=
  ⟨methods.foldl (fun tables m => tables.insert m .empty) Dict.empty⟩

/-- The snapshot with an entry added to the table of a method. -/
def insert (policy : DuplicatePolicy) (entry : Entry σ) (s : Snapshot σ) (method : Method) :
    Except RegistryError (Snapshot σ) :=
  match s.table? method with
  | none => .error (.unsupportedMethod method)
  | some table =>
      if table.exact.contains entry.pattern.source ∧ policy = .reject then
        .error (.duplicatePattern entry.pattern.source method)
      else .ok ⟨s.tables.insert method (table.put entry)⟩

/-- The snapshot with an entry added to the tables of several methods in turn. -/
def insertAll (policy : DuplicatePolicy) (entry : Entry σ) (methods : List Method)
    (s : Snapshot σ) : Except RegistryError (Snapshot σ) :=
  methods.foldlM (insert policy entry) s

/-- The texts of the patterns for a method, in order. -/
def patterns (s : Snapshot σ) (method : Method) : List Text :=
  (s.table? method).elim [] MethodTable.patterns

/-- The number of registrations. -/
def size (s : Snapshot σ) : Nat := (Method.all.flatMap s.patterns).length

/-- A method has a table in an empty snapshot exactly when it is supported. -/
theorem table?_empty (methods : List Method) (m : Method) :
    (empty methods : Snapshot σ).table? m = if m ∈ methods then some .empty else none := by
  suffices h : ∀ tables : Dict Method (MethodTable σ),
      (methods.foldl (fun tables m => tables.insert m .empty) tables).get? m =
        if m ∈ methods then some .empty else tables.get? m by
    simpa [empty, table?] using h Dict.empty
  induction methods with
  | nil => simp
  | cons first rest ih =>
      intro tables
      rw [List.foldl_cons, ih, Dict.get?_insert]
      grind

/-- An insertion changes the table of its method alone. -/
theorem table?_of_insert {policy : DuplicatePolicy} {entry : Entry σ} {s s' : Snapshot σ}
    {method : Method} (h : s.insert policy entry method = .ok s') (m : Method) :
    s'.table? m = if method = m then (s.table? m).map (·.put entry) else s.table? m := by
  unfold insert at h
  split at h
  · cases h
  · rename_i table htable
    split at h
    · cases h
    · cases h
      simp only [table?, Dict.get?_insert] at htable ⊢
      grind

end Snapshot
end UriRouting
