import UriRouting.Proofs.Registry.Refusal

/-!
# Refused changes leave no trace

A registry that changes in place keeps its tables in one cell.  A call does not work on
that cell: it builds the next tables aside, method by method and route by route, and the
cell is written once, when all of them are there.  So a call that fails halfway has built
something, which nobody ever sees.

## 1.  Work at a desk

A `Desk` has the tables that readers see and the draft of the next ones.  `Work` is done
step by step; a step that fails ends it, and the desk stays as the steps before have left
it.

## 2.  Drafting

`Work.Drafts` says that work leaves the published tables alone and computes a draft from
the desk.  It holds of each step and of steps in sequence.

## 3.  Calls

`Registry.draft` are the steps of a call up to the publication, and `Registry.write` is
the call with it.  `Registry.on_write` says that the call gives what `Registry.apply`
gives and publishes what `Registry.after` holds.  `Registry.refused_without_trace` is the
main result.
-/

namespace UriRouting

variable {σ α : Type}

/-! ## 1.  Work at a desk -/

/-- What a writer works on. -/
structure Desk (σ : Type) where
  /-- The tables that readers see. -/
  published : Snapshot σ
  /-- The tables that are built aside. -/
  draft : Snapshot σ

/-- Work at a desk that may fail at each step. -/
abbrev Work (σ α : Type) := ExceptT RegistryError (StateM (Desk σ)) α

namespace Work

/-- How work ends, and how it leaves the desk. -/
def on (w : Work σ α) (desk : Desk σ) : Except RegistryError α × Desk σ :=
  Id.run (StateT.run (ExceptT.run w) desk)

/-- A computation that does not look at the desk. -/
def check (x : Except RegistryError α) : Work σ α := ExceptT.mk (pure x)

/-- Begins the draft with given tables. -/
def start (s : Snapshot σ) : Work σ Unit := modify fun desk => { desk with draft := s }

/-- Begins the draft with the published tables. -/
def copy : Work σ Unit := modify fun desk => { desk with draft := desk.published }

/-- Adds an entry for a method to the draft. -/
def insert (policy : DuplicatePolicy) (entry : Entry σ) (m : Method) : Work σ Unit := do
  let desk ← get
  let draft ← check (desk.draft.insert policy entry m)
  set { desk with draft }

/-- Lets readers see the draft. -/
def publish : Work σ Unit := modify fun desk => { desk with published := desk.draft }

theorem on_bind {β : Type} (w : Work σ α) (k : α → Work σ β) (desk : Desk σ) :
    (w >>= k).on desk =
      match w.on desk with
      | (.ok a, desk') => (k a).on desk'
      | (.error e, desk') => (.error e, desk') := by
  unfold on ExceptT.run StateT.run Id.run
  simp only [bind, ExceptT.bind, ExceptT.mk, StateT.bind, ExceptT.bindCont]
  cases w desk with
  | mk result desk' => cases result <;> rfl

theorem on_check (x : Except RegistryError α) (desk : Desk σ) : (check x).on desk = (x, desk) := rfl

/-! ## 2.  Drafting -/

/-- Work that leaves the published tables alone and makes a draft of the desk, or fails,
as `f` says.  What it leaves of the draft when it fails is not said. -/
def Drafts (w : Work σ Unit) (f : Desk σ → Except RegistryError (Snapshot σ)) : Prop :=
  ∀ desk, ∃ draft, w.on desk = ((f desk).map fun _ => (), ⟨desk.published, draft⟩) ∧
    ∀ s, f desk = .ok s → draft = s

theorem drafts_start (s : Snapshot σ) : (start s).Drafts fun _ => .ok s :=
  fun _ => ⟨s, rfl, fun _ h => Except.ok.inj h⟩

theorem drafts_copy : (copy : Work σ Unit).Drafts fun desk => .ok desk.published :=
  fun desk => ⟨desk.published, rfl, fun _ h => Except.ok.inj h⟩

theorem drafts_insert (policy : DuplicatePolicy) (entry : Entry σ) (m : Method) :
    (insert policy entry m).Drafts fun desk => desk.draft.insert policy entry m := by
  intro desk
  have hon : (insert policy entry m).on desk =
      match desk.draft.insert policy entry m with
      | .ok draft => (.ok (), ⟨desk.published, draft⟩)
      | .error e => (.error e, desk) := by
    unfold insert
    rw [on_bind]
    show (check (desk.draft.insert policy entry m) >>= _).on desk = _
    rw [on_bind, on_check]
    cases desk.draft.insert policy entry m <;> rfl
  rw [hon]
  show ∃ draft, _ = ((desk.draft.insert policy entry m).map fun _ => (), _) ∧
    ∀ s, desk.draft.insert policy entry m = .ok s → _
  cases desk.draft.insert policy entry m with
  | ok s => exact ⟨s, rfl, fun _ h => Except.ok.inj h⟩
  | error e =>
    refine ⟨desk.draft, rfl, fun s h => ?_⟩
    cases h

/-- Looking at something else first. -/
theorem drafts_check {x : Except RegistryError α} {k : α → Work σ Unit}
    {f : α → Desk σ → Except RegistryError (Snapshot σ)} (h : ∀ a, (k a).Drafts (f a)) :
    (check x >>= k).Drafts fun desk => x >>= fun a => f a desk := by
  intro desk
  cases x with
  | ok a => exact h a desk
  | error e =>
    refine ⟨desk.draft, rfl, fun s h => ?_⟩
    cases h

/-- Going on with a draft. -/
theorem Drafts.bind {v w : Work σ Unit} {f g : Desk σ → Except RegistryError (Snapshot σ)}
    (hv : v.Drafts f) (hw : w.Drafts g) :
    (v >>= fun _ => w).Drafts fun desk => f desk >>= fun s => g ⟨desk.published, s⟩ := by
  intro desk
  obtain ⟨mid, hmid, hdraft⟩ := hv desk
  rw [on_bind, hmid]
  show ∃ draft, _ = ((f desk >>= fun s => g ⟨desk.published, s⟩).map fun _ => (), _) ∧
    ∀ s, (f desk >>= fun s => g ⟨desk.published, s⟩) = .ok s → _
  cases hf : f desk with
  | error e =>
    refine ⟨mid, rfl, fun s h => ?_⟩
    cases h
  | ok s =>
    obtain rfl := hdraft s hf
    exact hw ⟨desk.published, mid⟩

/-- **A run of drafting steps is a fold of what the steps compute.** -/
theorem drafts_forM {w : α → Work σ Unit} {f : Snapshot σ → α → Except RegistryError (Snapshot σ)}
    (h : ∀ a, (w a).Drafts fun desk => f desk.draft a) (as : List α) :
    (as.forM w).Drafts fun desk => as.foldlM f desk.draft := by
  induction as with
  | nil => exact fun desk => ⟨desk.draft, rfl, fun _ h => Except.ok.inj h⟩
  | cons a as ih => exact (h a).bind ih

end Work

/-! ## 3.  Calls -/

namespace Registry

/-- Adds an entry to the draft for several methods in turn. -/
def draftEntry (r : Registry σ) (service : σ) (source : Text) (methods : List Method) :
    Work σ Unit := do
  let pattern ← Work.check (readPattern source)
  methods.forM (Work.insert r.settings.duplicates ⟨pattern, service⟩)

/-- Adds a registration to the draft. -/
def draftItem (r : Registry σ) (item : Registration σ) : Work σ Unit := do
  let methods ← Work.check (r.targets (item.method.map ([·])))
  r.draftEntry item.service item.pattern methods

/-- Adds a route to the draft. -/
def draftRoute (r : Registry σ) (generators : Generators σ) (route : Route) : Work σ Unit := do
  let methods ← Work.check (r.targets route.methods)
  let service ← Work.check (generators.create route.service)
  r.draftEntry service route.pattern methods

/-- The steps of a call up to the publication. -/
def draft (r : Registry σ) : Change σ → Work σ Unit
  | .register item => do
      let pattern ← Work.check (readPattern item.pattern)
      let methods ← Work.check (r.targets (item.method.map ([·])))
      Work.copy
      methods.forM (Work.insert r.settings.duplicates ⟨pattern, item.service⟩)
  | .reload items => do
      Work.start (.empty r.settings.methods)
      items.forM r.draftItem
  | .load file generators => do
      Work.start (.empty r.settings.methods)
      file.routes.forM (r.draftRoute generators)
  | .clear => Work.start (.empty r.settings.methods)

/-- A call: the next tables are built aside and then published in one step. -/
def write (r : Registry σ) (change : Change σ) : Work σ Unit := do
  r.draft change
  Work.publish

variable {r : Registry σ}

theorem drafts_draftEntry (service : σ) (source : Text) (methods : List Method) :
    (r.draftEntry service source methods).Drafts fun desk =>
      r.stage desk.draft service source methods :=
  Work.drafts_check fun _ => Work.drafts_forM (Work.drafts_insert _ _) methods

theorem drafts_draftItem (item : Registration σ) :
    (r.draftItem item).Drafts fun desk => r.stageItem desk.draft item :=
  Work.drafts_check fun methods => drafts_draftEntry item.service item.pattern methods

theorem drafts_draftRoute (generators : Generators σ) (route : Route) :
    (r.draftRoute generators route).Drafts fun desk =>
      r.stageRoute generators desk.draft route :=
  Work.drafts_check fun methods => Work.drafts_check fun service =>
    drafts_draftEntry service route.pattern methods

/-- What is drafted are the tables of the registry that the call gives. -/
theorem exists_drafts_draft (r : Registry σ) (change : Change σ) :
    ∃ f, (r.draft change).Drafts f ∧ ∀ draft : Snapshot σ,
      r.apply change = f ⟨r.snapshot, draft⟩ >>= fun s => pure { r with snapshot := s } := by
  cases change with
  | register item =>
    refine ⟨_, Work.drafts_check fun p => Work.drafts_check fun targets =>
      Work.drafts_copy.bind (Work.drafts_forM (Work.drafts_insert _ _) targets), fun draft => ?_⟩
    simp only [bind_assoc]
    rfl
  | reload items =>
    exact ⟨_, (Work.drafts_start _).bind (Work.drafts_forM drafts_draftItem items), fun _ => rfl⟩
  | load file generators =>
    exact ⟨_, (Work.drafts_start _).bind
      (Work.drafts_forM (drafts_draftRoute generators) file.routes), fun _ => rfl⟩
  | clear => exact ⟨_, Work.drafts_start _, fun _ => rfl⟩

/-- A call ends as `apply` says, and readers then see what `after` holds. -/
theorem on_write (r : Registry σ) (change : Change σ) (draft : Snapshot σ) :
    ∃ draft', (r.write change).on ⟨r.snapshot, draft⟩ =
      ((r.apply change).map fun _ => (), ⟨(r.after change).snapshot, draft'⟩) := by
  obtain ⟨f, hdrafts, happly⟩ := exists_drafts_draft r change
  obtain ⟨draft', hon, hdraft⟩ := hdrafts ⟨r.snapshot, draft⟩
  refine ⟨draft', ?_⟩
  unfold write after
  rw [Work.on_bind, hon, happly draft]
  cases hf : f ⟨r.snapshot, draft⟩ with
  | error e => rfl
  | ok s =>
    obtain rfl := hdraft s hf
    rfl

/-- **A refused change leaves no trace.**  A call fails with the error of the first route
that cannot be added, the faults of that route being looked at in the order of the entry
point.  The registry is then what it was, so every read answers as before: at whatever
step the call has failed, it has worked on the draft alone. -/
theorem refused_without_trace (h : r.Reachable) (change : Change σ) (e : RegistryError) :
    (r.apply change = .error e ↔ r.Refuses change e) ∧
      (r.apply change = .error e → r.after change = r ∧
        ∀ draft, ∃ draft', (r.write change).on ⟨r.snapshot, draft⟩ =
          (.error e, ⟨r.snapshot, draft'⟩)) := by
  refine ⟨apply_eq_error_iff h.coherent, fun herror => ?_⟩
  have hafter : r.after change = r := by
    unfold after
    rw [herror]
  refine ⟨hafter, fun draft => ?_⟩
  obtain ⟨draft', hon⟩ := on_write r change draft
  rw [herror, hafter] at hon
  exact ⟨draft', hon⟩

/-- The second route can be added for one of its two methods.  The third one, which is
wrong in two ways, is not looked at. -/
theorem refused_without_trace_secondMethod :
    ∃ (r : Registry Nat) (items : List (Registration Nat)), r.Reachable ∧
      r.settings.methods = [.get, .post] ∧ r.patterns .get = ["/old".toList] ∧
      items = [⟨1, "/a".toList, some .post⟩, ⟨2, "/a".toList, none⟩, ⟨3, ['{'], some .put⟩] ∧
      r.Refuses (.reload items) (.duplicatePattern "/a".toList .post) ∧
      r.after (.reload items) = r ∧
      ∃ draft', (r.write (.reload items)).on ⟨r.snapshot, r.snapshot⟩ =
          (.error (.duplicatePattern "/a".toList .post), ⟨r.snapshot, draft'⟩) ∧
        draft'.patterns .get = ["/a".toList] := by
  let items : List (Registration Nat) :=
    [⟨1, "/a".toList, some .post⟩, ⟨2, "/a".toList, none⟩, ⟨3, ['{'], some .put⟩]
  let first : Registry Nat := ofSettings { methods := [.get, .post], duplicates := .reject }
  let r : Registry Nat := first.after (.register ⟨0, "/old".toList, none⟩)
  have hreachable : r.Reachable := (Reachable.ofSettings _).after _
  have herror : r.apply (.reload items) = .error (.duplicatePattern "/a".toList .post) := by rfl
  obtain ⟨hrefuses, htrace⟩ := refused_without_trace hreachable (.reload items)
    (.duplicatePattern "/a".toList .post)
  obtain ⟨hafter, hdraft⟩ := htrace herror
  obtain ⟨draft', hon⟩ := hdraft r.snapshot
  refine ⟨r, items, hreachable, rfl, by decide +kernel, rfl, hrefuses.1 herror, hafter, draft',
    hon, ?_⟩
  have hpatterns : ((r.write (.reload items)).on ⟨r.snapshot, r.snapshot⟩).2.draft.patterns .get =
      ["/a".toList] := by decide +kernel
  rw [hon] at hpatterns
  exact hpatterns

end Registry
end UriRouting
