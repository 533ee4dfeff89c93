import UriRouting.Proofs.Except
import UriRouting.Registry.Basic

/-!
# Loading is registering one by one

`reload` and `load` build their tables aside and check in another order than `register`
does.  They succeed exactly when clearing the registry and registering one by one does,
and then they give the same registry.

* `Registry.stageItem` is the step of `reload` and of `register`
  (`Registry.register_eq_ok_iff`), so a fold of either is a fold of it
  (`Registry.registerAll_eq_ok_iff`).
* `Route.registrations` spells a route out: one registration for each method that it
  lists, or one for every method when it has no list.  Staging the route is staging these
  (`Registry.stageRoute_eq_ok_iff`).
* `Registry.reload_load_eq_registerAll` is the comparison.

A route with an empty list of methods registers nothing, which is not what one without a
list does (`Registry.load_emptyMethods`).
-/

namespace UriRouting

variable {σ : Type}

/-- The registrations that a route stands for when its service is given: one for each
listed method, or one for all of them without a list. -/
def Route.registrations (route : Route) (service : σ) : List (Registration σ) :=
  match route.methods with
  | none => [⟨service, route.pattern, none⟩]
  | some methods => methods.map fun m => ⟨service, route.pattern, some m⟩

/-- The registrations that the routes of a file stand for, in order. -/
def RouteFile.registrations (file : RouteFile) (generators : Generators σ) :
    List (Registration σ) :=
  file.routes.flatMap fun route =>
    (generators.get? route.service).elim [] route.registrations

/-- A route file whose services are known and whose patterns can be read. -/
def RouteFile.Readable (file : RouteFile) (generators : Generators σ) : Prop :=
  ∀ route ∈ file.routes, (∃ service, generators.create route.service = .ok service) ∧
    ∃ p, Pattern.parse route.pattern = .ok p

namespace Registry

/-- The registry with several registrations, made one after another. -/
def registerAll (r : Registry σ) (items : List (Registration σ)) :
    Except RegistryError (Registry σ) :=
  items.foldlM register r

variable {r r' : Registry σ} {s s' : Snapshot σ}

/-! ## One registration -/

/-- A registration added to a snapshot, as `reload` does it. -/
def stageItem (r : Registry σ) (s : Snapshot σ) (item : Registration σ) :
    Except RegistryError (Snapshot σ) := do
  let methods ← r.targets (item.method.map ([·]))
  r.stage s item.service item.pattern methods

/-- A route added to a snapshot, as `load` does it. -/
def stageRoute (r : Registry σ) (generators : Generators σ) (s : Snapshot σ) (route : Route) :
    Except RegistryError (Snapshot σ) := do
  let methods ← r.targets route.methods
  let service ← generators.create route.service
  r.stage s service route.pattern methods

theorem readPattern_eq_ok_iff {source : Text} {p : Pattern} :
    readPattern source = .ok p ↔ Pattern.parse source = .ok p := by
  rw [readPattern]
  cases Pattern.parse source with
  | ok q => simp
  | error fault => simp

theorem targets_some_eq_ok_iff {methods methods' : List Method} :
    r.targets (some methods) = .ok methods' ↔
      methods' = methods ∧ ∀ m ∈ methods, m ∈ r.settings.methods := by
  rw [targets]
  cases hfind : methods.find? fun m => !r.settings.methods.contains m with
  | some m =>
    have hunsupported := List.find?_some hfind
    have hmem := List.mem_of_find?_eq_some hfind
    simp only [Bool.not_eq_true', List.contains_eq_mem, decide_eq_false_iff_not] at hunsupported
    constructor
    · intro h
      cases h
    · rintro ⟨-, hall⟩
      exact absurd (hall m hmem) hunsupported
  | none =>
    rw [List.find?_eq_none] at hfind
    simp only [List.contains_eq_mem, Bool.not_eq_true', decide_eq_false_iff_not,
      Decidable.not_not] at hfind
    constructor
    · intro h
      cases h
      exact ⟨rfl, hfind⟩
    · rintro ⟨rfl, -⟩
      rfl

theorem stage_eq_ok_iff {service : σ} {pattern : Text} {methods : List Method} :
    r.stage s service pattern methods = .ok s' ↔ ∃ p, Pattern.parse pattern = .ok p ∧
      s.insertAll r.settings.duplicates ⟨p, service⟩ methods = .ok s' := by
  rw [stage, except_bind_eq_ok_iff]
  simp only [readPattern_eq_ok_iff]

/-- Registering is staging onto the current snapshot. -/
theorem register_eq_ok_iff {item : Registration σ} :
    r.register item = .ok r' ↔
      ∃ s, r.stageItem r.snapshot item = .ok s ∧ r' = { r with snapshot := s } := by
  have hpure : ∀ s : Snapshot σ, (pure { r with snapshot := s } : Except RegistryError _) = .ok r' ↔
      r' = { r with snapshot := s } := by
    intro s
    exact ⟨fun h => (Except.ok.inj h).symm, fun h => h ▸ rfl⟩
  simp only [register, stageItem, stage_eq_ok_iff, except_bind_eq_ok_iff, readPattern_eq_ok_iff,
    hpure]
  constructor
  · rintro ⟨p, hp, targets, htargets, s, hs, rfl⟩
    exact ⟨s, ⟨targets, htargets, p, hp, hs⟩, rfl⟩
  · rintro ⟨s, ⟨targets, htargets, p, hp, hs⟩, rfl⟩
    exact ⟨p, hp, targets, htargets, s, hs, rfl⟩

/-- A registration for one method needs the method to be supported and is one insertion. -/
theorem stageItem_some_eq_ok_iff {service : σ} {pattern : Text} {p : Pattern}
    (hp : Pattern.parse pattern = .ok p) {m : Method} :
    r.stageItem s ⟨service, pattern, some m⟩ = .ok s' ↔
      m ∈ r.settings.methods ∧ s.insert r.settings.duplicates ⟨p, service⟩ m = .ok s' := by
  simp only [stageItem, Option.map_some, except_bind_eq_ok_iff, targets_some_eq_ok_iff,
    stage_eq_ok_iff, hp, Except.ok.injEq, Snapshot.insertAll, List.mem_singleton, forall_eq]
  constructor
  · rintro ⟨_, ⟨rfl, hm⟩, _, rfl, h⟩
    obtain ⟨mid, hmid, h⟩ := foldlM_cons_eq_ok_iff.1 h
    obtain rfl := foldlM_nil_eq_ok_iff.1 h
    exact ⟨hm, hmid⟩
  · rintro ⟨hm, h⟩
    exact ⟨[m], ⟨rfl, hm⟩, p, rfl, foldlM_cons_eq_ok_iff.2 ⟨s', h, rfl⟩⟩

/-! ## One route -/

/-- Registrations for several methods, one after another, need all of them to be supported
and are one insertion for each. -/
theorem foldlM_stageItem_eq_ok_iff {service : σ} {pattern : Text} {p : Pattern}
    (hp : Pattern.parse pattern = .ok p) {methods : List Method} :
    (methods.map fun m => (⟨service, pattern, some m⟩ : Registration σ)).foldlM r.stageItem s =
        .ok s' ↔
      (∀ m ∈ methods, m ∈ r.settings.methods) ∧
        s.insertAll r.settings.duplicates ⟨p, service⟩ methods = .ok s' := by
  induction methods generalizing s with
  | nil =>
    simp only [List.map_nil, List.not_mem_nil, false_imp_iff, implies_true, true_and]
    exact Iff.rfl
  | cons m methods ih =>
    rw [List.map_cons, foldlM_cons_eq_ok_iff, Snapshot.insertAll, foldlM_cons_eq_ok_iff,
      List.forall_mem_cons]
    simp only [stageItem_some_eq_ok_iff hp, ih, Snapshot.insertAll]
    constructor
    · rintro ⟨mid, ⟨hm, hmid⟩, hmethods, h⟩
      exact ⟨⟨hm, hmethods⟩, mid, hmid, h⟩
    · rintro ⟨⟨hm, hmethods⟩, mid, hmid, h⟩
      exact ⟨mid, ⟨hm, hmid⟩, hmethods, h⟩

/-- Staging a route is staging the registrations that it stands for. -/
theorem stageRoute_eq_ok_iff {generators : Generators σ} {route : Route} {service : σ}
    (hservice : generators.create route.service = .ok service) {p : Pattern}
    (hp : Pattern.parse route.pattern = .ok p) :
    r.stageRoute generators s route = .ok s' ↔
      (route.registrations service).foldlM r.stageItem s = .ok s' := by
  have hstage : r.stageRoute generators s route = .ok s' ↔ ∃ targets,
      r.targets route.methods = .ok targets ∧ r.stage s service route.pattern targets = .ok s' := by
    simp only [stageRoute, except_bind_eq_ok_iff, hservice, Except.ok.injEq, exists_eq_left']
  rw [hstage, Route.registrations]
  cases route.methods with
  | none =>
    rw [foldlM_cons_eq_ok_iff]
    simp only [foldlM_nil_eq_ok_iff, stageItem, Option.map_none, except_bind_eq_ok_iff,
      exists_eq_right']
  | some methods =>
    rw [foldlM_stageItem_eq_ok_iff hp]
    simp only [targets_some_eq_ok_iff, stage_eq_ok_iff, hp, Except.ok.injEq]
    constructor
    · rintro ⟨_, ⟨rfl, hmethods⟩, _, rfl, h⟩
      exact ⟨hmethods, h⟩
    · rintro ⟨hmethods, h⟩
      exact ⟨methods, ⟨rfl, hmethods⟩, p, rfl, h⟩

/-! ## Whole lists -/

/-- Registering one by one is staging one by one, since every registry on the way has the
settings of the first. -/
theorem registerAll_eq_ok_iff {items : List (Registration σ)} :
    r.registerAll items = .ok r' ↔
      ∃ s, items.foldlM r.stageItem r.snapshot = .ok s ∧ r' = { r with snapshot := s } := by
  induction items generalizing r with
  | nil =>
    rw [registerAll, foldlM_nil_eq_ok_iff]
    simp only [foldlM_nil_eq_ok_iff, exists_eq_left]
  | cons item items ih =>
    rw [registerAll, foldlM_cons_eq_ok_iff]
    constructor
    · rintro ⟨mid, hmid, h⟩
      obtain ⟨s, hs, rfl⟩ := register_eq_ok_iff.1 hmid
      obtain ⟨last, hlast, rfl⟩ := ih.1 h
      exact ⟨last, foldlM_cons_eq_ok_iff.2 ⟨s, hs, hlast⟩, rfl⟩
    · rintro ⟨last, hlast, rfl⟩
      obtain ⟨s, hs, h⟩ := foldlM_cons_eq_ok_iff.1 hlast
      exact ⟨{ r with snapshot := s }, register_eq_ok_iff.2 ⟨s, hs, rfl⟩, ih.2 ⟨last, h, rfl⟩⟩

/-- A fold onto the empty snapshot, put in the place of the current one. -/
theorem bind_snapshot_eq_ok_iff {x : Except RegistryError (Snapshot σ)} :
    (x >>= fun s => pure { r with snapshot := s }) = .ok r' ↔
      ∃ s, x = .ok s ∧ r' = { r with snapshot := s } := by
  rw [except_bind_eq_ok_iff]
  exact exists_congr fun s =>
    and_congr_right fun _ => ⟨fun h => (Except.ok.inj h).symm, fun h => h ▸ rfl⟩

/-- **Loading is registering one by one.**  Reloading a list of registrations gives a
registry exactly when clearing and registering each of them does, and the same one, so
that every read answers alike; and so does loading a readable route file when each route
is registered once for each method that it lists, or once for all of them when it has no
list. -/
theorem reload_load_eq_registerAll (r : Registry σ) :
    (∀ (items : List (Registration σ)) (r' : Registry σ),
      r.reload items = .ok r' ↔ r.clear.registerAll items = .ok r') ∧
      ∀ (file : RouteFile) (generators : Generators σ), file.Readable generators →
        ∀ r' : Registry σ, r.load file generators = .ok r' ↔
          r.clear.registerAll (file.registrations generators) = .ok r' := by
  refine ⟨fun items r' => ?_, fun file generators hreadable r' => ?_⟩
  · rw [registerAll_eq_ok_iff]
    exact bind_snapshot_eq_ok_iff
  · have hroutes : ∀ s' : Snapshot σ,
        file.routes.foldlM (r.stageRoute generators) (Snapshot.empty r.settings.methods) = .ok s' ↔
          (file.registrations generators).foldlM r.stageItem (Snapshot.empty r.settings.methods) =
            .ok s' := by
      intro s'
      rw [RouteFile.registrations, foldlM_flatMap_eq_ok_iff]
      refine foldlM_eq_ok_congr fun route hroute s s' => ?_
      obtain ⟨⟨service, hservice⟩, p, hp⟩ := hreadable route hroute
      have hget : generators.get? route.service = some service := by
        rw [Generators.create] at hservice
        split at hservice
        · cases hservice
          assumption
        · cases hservice
      rw [hget]
      exact stageRoute_eq_ok_iff hservice hp
    rw [registerAll_eq_ok_iff]
    refine Iff.trans bind_snapshot_eq_ok_iff (exists_congr fun s' => and_congr_left fun _ => ?_)
    exact hroutes s'

/-- A route that lists a method twice, and one without a list for the same text. -/
theorem reload_load_eq_registerAll_repeated :
    ∃ (file : RouteFile) (generators : Generators Nat) (loaded : Registry Nat),
      file.Readable generators ∧
        (ofSettings {} : Registry Nat).load file generators = .ok loaded ∧
        (ofSettings {} : Registry Nat).clear.registerAll
          [⟨1, ['a'], some .put⟩, ⟨1, ['a'], some .put⟩, ⟨2, ['a'], none⟩] = .ok loaded := by
  let file : RouteFile :=
    { routes := [⟨['a'], ['s'], some [.put, .put]⟩, ⟨['a'], ['t'], none⟩] }
  let generators : Generators Nat := Dict.ofList [(['s'], 1), (['t'], 2)]
  have hreadable : file.Readable generators := by
    intro route hroute
    simp only [file, List.mem_cons, List.not_mem_nil, or_false] at hroute
    rcases hroute with rfl | rfl
    · exact ⟨⟨1, rfl⟩, _, rfl⟩
    · exact ⟨⟨2, rfl⟩, _, rfl⟩
  obtain ⟨loaded, hloaded⟩ :
      ∃ loaded, (ofSettings {} : Registry Nat).load file generators = .ok loaded := ⟨_, rfl⟩
  exact ⟨file, generators, loaded, hreadable, hloaded,
    ((reload_load_eq_registerAll _).2 file generators hreadable loaded).1 hloaded⟩

/-- A route with an empty list of methods can be loaded and registers nothing, whereas
registering it once without a method registers it for every supported one. -/
theorem load_emptyMethods :
    ∃ (file : RouteFile) (generators : Generators Nat) (loaded registered : Registry Nat),
      file.Readable generators ∧ file.routes = [⟨['a'], ['s'], some []⟩] ∧
        generators.create ['s'] = .ok 1 ∧
        (ofSettings {} : Registry Nat).load file generators = .ok loaded ∧
        (ofSettings {} : Registry Nat).clear.registerAll [⟨1, ['a'], none⟩] = .ok registered ∧
        loaded.patterns .get = [] ∧ registered.patterns .get = [['a']] := by
  refine ⟨{ routes := [⟨['a'], ['s'], some []⟩] }, Dict.ofList [(['s'], 1)], _, _, ?_, rfl, rfl,
    rfl, rfl, rfl, rfl⟩
  intro route hroute
  rw [List.mem_singleton.1 hroute]
  exact ⟨⟨1, rfl⟩, _, rfl⟩

end Registry
end UriRouting
