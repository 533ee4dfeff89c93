import UriRouting.Proofs.Pattern.Choice
import UriRouting.Proofs.Registry.Coherence
import UriRouting.Proofs.Registry.Loading

/-!
# Which error a refused change reports

A registration can be wrong in four ways, and in several of them at once.  What is wrong
with it is read off the registration and the registry, one fault at a time and without
regard to the others; the entry points differ only in the order in which they look.

## 1.  Insertions

`Snapshot.mem_patterns_of_insert` says which texts a method has after an insertion, and
`Snapshot.errorOf?_insertAll` when inserting for several methods in turn fails: at the
first method that has the text already, or that the same call has served before
(`firstHeld?`).

## 2.  Faults

* `Registry.unsupported?`: a listed method without a table;
* `unknown?`: a service id that stands for nothing;
* `malformed?`: a text that is no pattern;
* `Registry.duplicate?`: a text that a method has already, where this is to be rejected.

`Registry.errorOf?_register`, `Registry.errorOf?_stageItem` and
`Registry.errorOf?_stageRoute` put them in order.

## 3.  Refused changes

`Registry.Refuses` says which error each call reports: for a list of routes, the one of
the first route that cannot be added to those before it.  `Registry.apply_eq_error_iff`
is the comparison with what the call does.
-/

namespace UriRouting

variable {σ : Type}

/-! ## 1.  Insertions -/

/-- The first method that is held, the methods before it being held from then on. -/
def firstHeld? (held : Method → Bool) : List Method → Option Method
  | [] => none
  | m :: methods =>
      if held m then some m else firstHeld? (fun m' => held m' || decide (m' = m)) methods

/-- No method is held when none is to begin with and none occurs twice. -/
theorem firstHeld?_eq_none_iff {held : Method → Bool} {methods : List Method} :
    firstHeld? held methods = none ↔ methods.Nodup ∧ ∀ m ∈ methods, held m = false := by
  induction methods generalizing held with
  | nil => simp [firstHeld?]
  | cons m methods ih =>
    rw [firstHeld?, List.nodup_cons, List.forall_mem_cons]
    cases hm : held m with
    | true => simp
    | false =>
      rw [if_neg Bool.false_ne_true, ih]
      simp only [Bool.or_eq_false_iff, decide_eq_false_iff_not]
      constructor
      · rintro ⟨hnodup, hheld⟩
        refine ⟨⟨fun hmem => ?_, hnodup⟩, trivial, fun m' hm' => (hheld m' hm').1⟩
        exact (hheld m hmem).2 rfl
      · rintro ⟨⟨hnotMem, hnodup⟩, -, hheld⟩
        refine ⟨hnodup, fun m' hm' => ⟨hheld m' hm', fun heq => hnotMem ?_⟩⟩
        rw [← heq]
        exact hm'

namespace MethodTable

theorem Coherent.mem_patterns_put {t : MethodTable σ} (h : t.Coherent) (entry : Entry σ)
    (text : Text) :
    text ∈ (t.put entry).patterns ↔ text ∈ t.patterns ∨ text = entry.pattern.source := by
  cases hcontains : t.exact.contains entry.pattern.source with
  | true =>
    have hmem : entry.pattern.source ∈ t.patterns := (h.mem_patterns_iff _).2 hcontains
    rw [patterns_put_of_contains hcontains]
    constructor
    · exact Or.inl
    · rintro (htext | rfl)
      · exact htext
      · exact hmem
  | false => rw [patterns_put_of_not_contains hcontains, List.mem_append, List.mem_singleton]

end MethodTable

namespace Snapshot

variable {methods : List Method} {policy : DuplicatePolicy} {entry : Entry σ} {s s' : Snapshot σ}

theorem Coherent.exists_table (hs : s.Coherent methods) {m : Method} (hm : m ∈ methods) :
    ∃ table, s.table? m = some table ∧ table.Coherent ∧ s.patterns m = table.patterns := by
  obtain ⟨table, htable⟩ := Option.isSome_iff_exists.1 ((hs.supported m).2 hm)
  refine ⟨table, htable, hs.tables m table htable, ?_⟩
  rw [patterns, htable]
  rfl

/-- Inserting fails when the method has the text and duplicates are to be rejected. -/
theorem Coherent.errorOf?_insert (hs : s.Coherent methods) {m : Method} (hm : m ∈ methods) :
    errorOf? (s.insert policy entry m) =
      if entry.pattern.source ∈ s.patterns m ∧ policy = .reject then
        some (.duplicatePattern entry.pattern.source m)
      else none := by
  obtain ⟨table, htable, hcoherent, hpatterns⟩ := hs.exists_table hm
  have hmem : entry.pattern.source ∈ s.patterns m ↔
      table.exact.contains entry.pattern.source = true := by
    rw [hpatterns, hcoherent.mem_patterns_iff]
  unfold Snapshot.insert
  rw [htable]
  by_cases hcollides : table.exact.contains entry.pattern.source = true ∧ policy = .reject
  · simp [hmem, hcollides]
  · simp [hmem, hcollides]

/-- After an insertion, the method has one more text. -/
theorem Coherent.mem_patterns_of_insert (hs : s.Coherent methods) {m : Method}
    (hm : m ∈ methods) (h : s.insert policy entry m = .ok s') (m' : Method) (text : Text) :
    text ∈ s'.patterns m' ↔ text ∈ s.patterns m' ∨ m' = m ∧ text = entry.pattern.source := by
  have htable' := table?_of_insert h m'
  by_cases hm' : m = m'
  · subst hm'
    obtain ⟨table, htable, hcoherent, hpatterns⟩ := hs.exists_table hm
    rw [if_pos rfl, htable] at htable'
    have hpatterns' : s'.patterns m = (table.put entry).patterns := by
      rw [patterns, htable']
      rfl
    rw [hpatterns', hpatterns, hcoherent.mem_patterns_put]
    simp
  · have hpatterns' : s'.patterns m' = s.patterns m' := by
      rw [patterns, patterns, htable', if_neg hm']
    rw [hpatterns']
    simp [Ne.symm hm']

/-- Inserting for several methods in turn fails at the first one that has the text, be it
from before or from this call. -/
theorem Coherent.errorOf?_insertAll (hs : s.Coherent methods) {targets : List Method}
    (htargets : ∀ m ∈ targets, m ∈ methods) :
    errorOf? (s.insertAll policy entry targets) =
      if policy = .reject then
        (firstHeld? (fun m => decide (entry.pattern.source ∈ s.patterns m)) targets).map
          (.duplicatePattern entry.pattern.source)
      else none := by
  induction targets generalizing s with
  | nil =>
    rw [firstHeld?, Option.map_none, ite_self]
    rfl
  | cons m targets ih =>
    obtain ⟨hm, htargets⟩ := List.forall_mem_cons.1 htargets
    have herror : errorOf? (s.insert policy entry m) = _ := hs.errorOf?_insert hm
    rw [Snapshot.insertAll, List.foldlM_cons, firstHeld?]
    cases hinsert : s.insert policy entry m with
    | error e =>
      rw [hinsert] at herror
      split at herror
      · rename_i hcollides
        simp [hcollides.1, hcollides.2, ← herror]
        rfl
      · cases herror
    | ok s' =>
      rw [hinsert] at herror
      have hfree : ¬(entry.pattern.source ∈ s.patterns m ∧ policy = .reject) := by
        intro hcollides
        rw [if_pos hcollides] at herror
        cases herror
      refine Eq.trans (ih (hs.insert hinsert) htargets) ?_
      by_cases hpolicy : policy = .reject
      · have hnotMem : entry.pattern.source ∉ s.patterns m := fun hmem => hfree ⟨hmem, hpolicy⟩
        have hheld : ∀ m', decide (entry.pattern.source ∈ s'.patterns m') =
            (decide (entry.pattern.source ∈ s.patterns m') || decide (m' = m)) := by
          intro m'
          simp [hs.mem_patterns_of_insert hm hinsert, Bool.decide_or]
        simp [hpolicy, hnotMem, hheld]
      · simp [hpolicy]

end Snapshot

/-! ## 2.  Faults -/

/-- The fault of a service id that stands for nothing. -/
def unknown? (generators : Generators σ) (id : Text) : Option RegistryError :=
  if generators.contains id then none else some (.unknownGenerator id)

/-- The fault of a text that is no pattern. -/
def malformed? (source : Text) : Option RegistryError :=
  match Pattern.parse source with
  | .ok _ => none
  | .error fault => some (.malformedPattern source fault)

theorem errorOf?_create (generators : Generators σ) (id : Text) :
    errorOf? (generators.create id) = unknown? generators id := by
  unfold Generators.create unknown? Dict.contains
  cases generators.get? id <;> rfl

theorem malformed?_eq_none_iff {source : Text} :
    malformed? source = none ↔ ∃ p, Pattern.parse source = .ok p := by
  unfold malformed?
  cases Pattern.parse source <;> simp

namespace Registry

variable {r r' : Registry σ}

/-- The methods that a registration is for. -/
def targeted (r : Registry σ) (methods : Option (List Method)) : List Method :=
  methods.getD r.settings.methods

/-- The fault of a list of methods of which some is not supported. -/
def unsupported? (r : Registry σ) (methods : Option (List Method)) : Option RegistryError :=
  ((methods.getD []).find? fun m => decide (m ∉ r.settings.methods)).map .unsupportedMethod

/-- The fault of a text that a targeted method has already, or for which a method is
targeted twice, where duplicates are to be rejected. -/
def duplicate? (r : Registry σ) (methods : Option (List Method)) (source : Text) :
    Option RegistryError :=
  if r.settings.duplicates = .reject then
    (firstHeld? (fun m => decide (source ∈ r.patterns m)) (r.targeted methods)).map
      (.duplicatePattern source)
  else none

theorem errorOf?_readPattern (source : Text) :
    errorOf? (readPattern source) = malformed? source := by
  unfold readPattern malformed?
  cases Pattern.parse source <;> rfl

theorem errorOf?_targets (r : Registry σ) (methods : Option (List Method)) :
    errorOf? (r.targets methods) = r.unsupported? methods := by
  cases methods with
  | none => rfl
  | some methods =>
    have hcontains : (fun m => !r.settings.methods.contains m) =
        fun m => decide (m ∉ r.settings.methods) := by
      funext m
      simp
    rw [targets, unsupported?, Option.getD_some, hcontains]
    cases methods.find? fun m => decide (m ∉ r.settings.methods) <;> rfl

/-- When no listed method is unsupported, the targeted ones have a table. -/
theorem unsupported?_eq_none_iff {methods : Option (List Method)} :
    r.unsupported? methods = none ↔ ∀ m ∈ r.targeted methods, m ∈ r.settings.methods := by
  cases methods with
  | none => simp [unsupported?, targeted]
  | some methods => simp [unsupported?, targeted]

theorem targets_eq_ok_iff {methods : Option (List Method)} {targets : List Method} :
    r.targets methods = .ok targets ↔
      targets = r.targeted methods ∧ ∀ m ∈ targets, m ∈ r.settings.methods := by
  cases methods with
  | none =>
    constructor
    · intro h
      cases h
      exact ⟨rfl, fun m hm => hm⟩
    · rintro ⟨rfl, -⟩
      rfl
  | some methods =>
    rw [targets_some_eq_ok_iff]
    constructor
    · rintro ⟨rfl, h⟩
      exact ⟨rfl, h⟩
    · rintro ⟨rfl, h⟩
      exact ⟨rfl, h⟩

/-- Inserting a registration for its methods fails on a duplicate alone. -/
theorem errorOf?_insertAll_targeted (hr : r.snapshot.Coherent r.settings.methods)
    {methods : Option (List Method)} {targets : List Method}
    (htargets : r.targets methods = .ok targets) {p : Pattern} {source : Text}
    (hp : p.source = source) (service : σ) :
    errorOf? (r.snapshot.insertAll r.settings.duplicates ⟨p, service⟩ targets) =
      r.duplicate? methods source := by
  obtain ⟨rfl, hsupported⟩ := targets_eq_ok_iff.1 htargets
  subst hp
  exact hr.errorOf?_insertAll hsupported

/-- What is looked at when a registration is made, in this order. -/
def registerFaults (r : Registry σ) (item : Registration σ) : List (Option RegistryError) :=
  [malformed? item.pattern, r.unsupported? (item.method.map ([·])),
    r.duplicate? (item.method.map ([·])) item.pattern]

/-- What is looked at when a registration is one of a list, in this order. -/
def reloadFaults (r : Registry σ) (item : Registration σ) : List (Option RegistryError) :=
  [r.unsupported? (item.method.map ([·])), malformed? item.pattern,
    r.duplicate? (item.method.map ([·])) item.pattern]

/-- What is looked at when a route is one of a file, in this order. -/
def loadFaults (r : Registry σ) (generators : Generators σ) (route : Route) :
    List (Option RegistryError) :=
  [r.unsupported? route.methods, unknown? generators route.service, malformed? route.pattern,
    r.duplicate? route.methods route.pattern]

/-- The first fault of a list. -/
def firstFault? (faults : List (Option RegistryError)) : Option RegistryError :=
  faults.findSome? id

@[simp] theorem firstFault?_nil : firstFault? [] = none := rfl

@[simp] theorem firstFault?_cons (fault : Option RegistryError)
    (faults : List (Option RegistryError)) :
    firstFault? (fault :: faults) = fault.or (firstFault? faults) := by
  cases fault <;> rfl

theorem errorOf?_stage (hr : r.snapshot.Coherent r.settings.methods)
    {methods : Option (List Method)} {targets : List Method}
    (htargets : r.targets methods = .ok targets) (service : σ) (source : Text) :
    errorOf? (r.stage r.snapshot service source targets) =
      (malformed? source).or (r.duplicate? methods source) := by
  rw [stage, ← errorOf?_readPattern]
  refine errorOf?_bind fun p hp => ?_
  have hsource := Pattern.parse_eq_ok_iff.1 (readPattern_eq_ok_iff.1 hp)
  exact errorOf?_insertAll_targeted hr htargets hsource service

theorem errorOf?_register (hr : r.snapshot.Coherent r.settings.methods) (item : Registration σ) :
    errorOf? (r.register item) = firstFault? (r.registerFaults item) := by
  simp only [registerFaults, firstFault?_cons, firstFault?_nil, Option.or_none]
  rw [register, ← errorOf?_readPattern, ← errorOf?_targets]
  refine errorOf?_bind fun p hp => errorOf?_bind fun targets htargets => ?_
  have hsource := Pattern.parse_eq_ok_iff.1 (readPattern_eq_ok_iff.1 hp)
  rw [← errorOf?_insertAll_targeted hr htargets hsource item.service]
  exact errorOf?_bind_pure

theorem errorOf?_stageItem (hr : r.snapshot.Coherent r.settings.methods)
    (item : Registration σ) :
    errorOf? (r.stageItem r.snapshot item) = firstFault? (r.reloadFaults item) := by
  simp only [reloadFaults, firstFault?_cons, firstFault?_nil, Option.or_none]
  rw [stageItem, ← errorOf?_targets]
  exact errorOf?_bind fun targets htargets => errorOf?_stage hr htargets item.service item.pattern

theorem errorOf?_stageRoute (hr : r.snapshot.Coherent r.settings.methods)
    (generators : Generators σ) (route : Route) :
    errorOf? (r.stageRoute generators r.snapshot route) =
      firstFault? (r.loadFaults generators route) := by
  simp only [loadFaults, firstFault?_cons, firstFault?_nil, Option.or_none]
  rw [stageRoute, ← errorOf?_targets, ← errorOf?_create]
  exact errorOf?_bind fun targets htargets => errorOf?_bind fun service _ =>
    errorOf?_stage hr htargets service route.pattern

/-! ## 3.  Refused changes -/

/-- A call reports an error.  Registering reports the first fault of the registration.
With a list of routes, it is the first fault of the first route that cannot be added to
those before it. -/
def Refuses (r : Registry σ) (change : Change σ) (e : RegistryError) : Prop :=
  match change with
  | .register item => firstFault? (r.registerFaults item) = some e
  | .reload items => ∃ before item after r', items = before ++ item :: after ∧
      r.reload before = .ok r' ∧ firstFault? (r'.reloadFaults item) = some e
  | .load file generators => ∃ before route after r', file.routes = before ++ route :: after ∧
      r.load { file with routes := before } generators = .ok r' ∧
        firstFault? (r'.loadFaults generators route) = some e
  | .clear => False

/-- A fold onto the empty snapshot fails where its steps do. -/
theorem bind_snapshot_eq_error_iff {x : Except RegistryError (Snapshot σ)} {e : RegistryError} :
    (x >>= fun s => pure { r with snapshot := s }) = .error e ↔ x = .error e := by
  rw [← errorOf?_eq_some_iff, errorOf?_bind_pure, errorOf?_eq_some_iff]

/-- What is loaded does not depend on what was registered before, so it agrees. -/
theorem coherent_of_reload {items : List (Registration σ)} (h : r.reload items = .ok r') :
    r'.snapshot.Coherent r.settings.methods :=
  (coherent_of_apply (r := r.clear) (.reload items) (Snapshot.coherent_empty _) h).2

theorem coherent_of_load {file : RouteFile} {generators : Generators σ}
    (h : r.load file generators = .ok r') : r'.snapshot.Coherent r.settings.methods :=
  (coherent_of_apply (r := r.clear) (.load file generators) (Snapshot.coherent_empty _) h).2

/-- A list is refused for the first fault of the first of its members that cannot be added
to those before it, whatever the members are. -/
theorem run_eq_error_iff {α : Type} (run : List α → Except RegistryError (Registry σ))
    (step : Snapshot σ → α → Except RegistryError (Snapshot σ))
    (faults : Registry σ → α → List (Option RegistryError))
    (hrun : ∀ as, run as = as.foldlM step (.empty r.settings.methods) >>= fun s =>
      pure { r with snapshot := s })
    (hcoherent : ∀ as r', run as = .ok r' → r'.snapshot.Coherent r.settings.methods)
    (hfaults : ∀ (s : Snapshot σ) (a : α), s.Coherent r.settings.methods →
      errorOf? (step s a) = firstFault? (faults { r with snapshot := s } a))
    {as : List α} {e : RegistryError} :
    run as = .error e ↔ ∃ before a after r', as = before ++ a :: after ∧
      run before = .ok r' ∧ firstFault? (faults r' a) = some e := by
  rw [hrun, bind_snapshot_eq_error_iff, foldlM_eq_error_iff]
  constructor
  · rintro ⟨before, a, after, s, has, hbefore, herror⟩
    have hok : run before = .ok { r with snapshot := s } :=
      (hrun before).trans (bind_snapshot_eq_ok_iff.2 ⟨s, hbefore, rfl⟩)
    have hfault := hfaults s a (hcoherent before _ hok)
    exact ⟨before, a, after, _, has, hok, hfault.symm.trans (errorOf?_eq_some_iff.2 herror)⟩
  · rintro ⟨before, a, after, r', has, hok, hfirst⟩
    obtain ⟨s, hbefore, rfl⟩ := bind_snapshot_eq_ok_iff.1 ((hrun before).symm.trans hok)
    have hfault := hfaults s a (hcoherent before _ hok)
    exact ⟨before, a, after, s, has, hbefore, errorOf?_eq_some_iff.1 (hfault.trans hfirst)⟩

theorem reload_eq_error_iff {items : List (Registration σ)} {e : RegistryError} :
    r.reload items = .error e ↔ r.Refuses (.reload items) e :=
  run_eq_error_iff r.reload r.stageItem reloadFaults (fun _ => rfl)
    (fun _ _ h => coherent_of_reload h)
    fun s item hs => errorOf?_stageItem (r := { r with snapshot := s }) hs item

theorem load_eq_error_iff {file : RouteFile} {generators : Generators σ} {e : RegistryError} :
    r.load file generators = .error e ↔ r.Refuses (.load file generators) e :=
  run_eq_error_iff (fun routes => r.load { file with routes } generators)
    (r.stageRoute generators) (fun r => r.loadFaults generators) (fun _ => rfl)
    (fun _ _ h => coherent_of_load h)
    fun s route hs => errorOf?_stageRoute (r := { r with snapshot := s }) hs generators route

/-- **A refused change reports the first fault of the first route that cannot be added.** -/
theorem apply_eq_error_iff (hr : r.snapshot.Coherent r.settings.methods) {change : Change σ}
    {e : RegistryError} : r.apply change = .error e ↔ r.Refuses change e := by
  cases change with
  | register item =>
    have herror := errorOf?_register hr item
    rw [apply, ← errorOf?_eq_some_iff, herror]
    rfl
  | reload items => exact reload_eq_error_iff
  | load file generators => exact load_eq_error_iff
  | clear =>
    constructor
    · intro h
      cases h
    · intro h
      cases h

end Registry
end UriRouting
