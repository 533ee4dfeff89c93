import UriRouting.Proofs.Registry.Refusal

/-!
# When a registration is a duplicate

With the policy `reject`, a text is to be registered once for a method.  Whether that
holds is looked at method by method while the registration is being made, so that a call
can also collide with itself.

## 1.  What a run of insertions registers

`Snapshot.Coherent.mem_patterns_of_insertAll` and `Registry.mem_patterns_of_load`: what
was registered before, and the text of each registration for the methods that it targets.

## 2.  Duplicates

`Registry.duplicate?_eq_none_iff` says when a registration has no duplicate.  The main
result, `Registry.duplicatePattern_iff`, follows for a registration and for a route file:
the error is reported if and only if the text is there already, or two routes have it for
one method, or a registration targets a method twice.

## 3.  Colliding with itself

Settings and routes may list a method twice.  A registration for such a list fails in an
empty registry, although nothing is registered (`Registry.exists_register_collides`).
-/

namespace UriRouting

variable {σ : Type}

/-! ## 1.  What a run of insertions registers -/

namespace Snapshot

variable {methods : List Method} {policy : DuplicatePolicy} {entry : Entry σ} {s s' : Snapshot σ}

/-- After inserting for several methods, each of them has one more text. -/
theorem Coherent.mem_patterns_of_insertAll (hs : s.Coherent methods) {targets : List Method}
    (htargets : ∀ m ∈ targets, m ∈ methods) (h : s.insertAll policy entry targets = .ok s')
    (m : Method) (text : Text) :
    text ∈ s'.patterns m ↔
      text ∈ s.patterns m ∨ m ∈ targets ∧ text = entry.pattern.source := by
  induction targets generalizing s with
  | nil =>
    obtain rfl := foldlM_nil_eq_ok_iff.1 h
    simp
  | cons first targets ih =>
    obtain ⟨hfirst, htargets⟩ := List.forall_mem_cons.1 htargets
    obtain ⟨mid, hmid, h⟩ := foldlM_cons_eq_ok_iff.1 h
    rw [ih (hs.insert hmid) htargets h, hs.mem_patterns_of_insert hfirst hmid, List.mem_cons,
      or_and_right, or_assoc]

end Snapshot

namespace Registry

variable {r r' : Registry σ}

/-- A route that can be added is registered for the methods that it targets. -/
theorem mem_patterns_of_stageRoute {generators : Generators σ} {s s' : Snapshot σ} {route : Route}
    (hs : s.Coherent r.settings.methods) (h : r.stageRoute generators s route = .ok s')
    (m : Method) (text : Text) :
    text ∈ s'.patterns m ↔
      text ∈ s.patterns m ∨ m ∈ r.targeted route.methods ∧ text = route.pattern := by
  obtain ⟨targets, htargets, h⟩ := except_bind_eq_ok_iff.1 h
  obtain ⟨service, -, h⟩ := except_bind_eq_ok_iff.1 h
  obtain ⟨p, hp, h⟩ := stage_eq_ok_iff.1 h
  obtain ⟨rfl, hsupported⟩ := targets_eq_ok_iff.1 htargets
  have hsource : p.source = route.pattern := Pattern.parse_eq_ok_iff.1 hp
  rw [← hsource]
  exact hs.mem_patterns_of_insertAll hsupported h m text

theorem coherent_of_stageRoute {generators : Generators σ} {s s' : Snapshot σ} {route : Route}
    (hs : s.Coherent r.settings.methods) (h : r.stageRoute generators s route = .ok s') :
    s'.Coherent r.settings.methods := by
  obtain ⟨targets, -, h⟩ := except_bind_eq_ok_iff.1 h
  obtain ⟨service, -, h⟩ := except_bind_eq_ok_iff.1 h
  exact coherent_of_stage hs h

theorem mem_patterns_of_foldlM_stageRoute {generators : Generators σ} {s s' : Snapshot σ}
    {routes : List Route} (hs : s.Coherent r.settings.methods)
    (h : routes.foldlM (r.stageRoute generators) s = .ok s') (m : Method) (text : Text) :
    text ∈ s'.patterns m ↔ text ∈ s.patterns m ∨
      ∃ route ∈ routes, m ∈ r.targeted route.methods ∧ text = route.pattern := by
  induction routes generalizing s with
  | nil =>
    obtain rfl := foldlM_nil_eq_ok_iff.1 h
    simp
  | cons route routes ih =>
    obtain ⟨mid, hmid, h⟩ := foldlM_cons_eq_ok_iff.1 h
    rw [ih (coherent_of_stageRoute hs hmid) h, mem_patterns_of_stageRoute hs hmid]
    simp only [List.mem_cons, exists_eq_or_imp, or_assoc]

/-- A loaded registry has the texts of the routes, for the methods that they target. -/
theorem mem_patterns_of_load {file : RouteFile} {generators : Generators σ}
    (h : r.load file generators = .ok r') (m : Method) (text : Text) :
    text ∈ r'.patterns m ↔
      ∃ route ∈ file.routes, m ∈ r.targeted route.methods ∧ text = route.pattern := by
  obtain ⟨s, hfold, rfl⟩ := bind_snapshot_eq_ok_iff.1 h
  have hempty : text ∉ (Snapshot.empty r.settings.methods : Snapshot σ).patterns m := by
    unfold Snapshot.patterns
    rw [Snapshot.table?_empty]
    split <;> exact List.not_mem_nil
  have hfold := mem_patterns_of_foldlM_stageRoute (Snapshot.coherent_empty _) hfold m text
  exact hfold.trans (or_iff_right hempty)

/-! ## 2.  Duplicates -/

/-- A registration has no duplicate when it targets no method twice and none that has the
text. -/
theorem duplicate?_eq_none_iff (hpolicy : r.settings.duplicates = .reject)
    (methods : Option (List Method)) (source : Text) :
    r.duplicate? methods source = none ↔
      (r.targeted methods).Nodup ∧ ∀ m ∈ r.targeted methods, source ∉ r.patterns m := by
  rw [duplicate?, if_pos hpolicy, Option.map_eq_none_iff, firstHeld?_eq_none_iff]
  simp only [decide_eq_false_iff_not]

/-- A duplicate is reported as such. -/
theorem exists_duplicatePattern_iff {methods : Option (List Method)} {source : Text} :
    (∃ text m, r.duplicate? methods source = some (.duplicatePattern text m)) ↔
      r.duplicate? methods source ≠ none := by
  unfold duplicate?
  split
  · cases firstHeld? (fun m => decide (source ∈ r.patterns m)) (r.targeted methods) <;> simp
  · simp

/-- Of a registration that can be read and whose methods are supported, the only fault that
is left is a duplicate. -/
theorem errorOf?_register_of_readable (hr : r.snapshot.Coherent r.settings.methods)
    {item : Registration σ} {p : Pattern} (hp : Pattern.parse item.pattern = .ok p)
    (hmethod : ∀ m ∈ item.method, m ∈ r.settings.methods) :
    errorOf? (r.register item) = r.duplicate? (item.method.map ([·])) item.pattern := by
  have hmalformed : malformed? item.pattern = none := malformed?_eq_none_iff.2 ⟨p, hp⟩
  have hunsupported : r.unsupported? (item.method.map ([·])) = none := by
    rw [unsupported?_eq_none_iff]
    cases h : item.method with
    | none => exact fun m hm => hm
    | some m => simpa [targeted] using hmethod m h
  rw [errorOf?_register hr, registerFaults, hmalformed, hunsupported]
  simp

/-- So it is for a route whose service is known as well. -/
theorem firstFault?_loadFaults_of_readable {generators : Generators σ} {route : Route}
    (hservice : ∃ service, generators.create route.service = .ok service)
    (hp : ∃ p, Pattern.parse route.pattern = .ok p)
    (hmethods : ∀ m ∈ r.targeted route.methods, m ∈ r.settings.methods) :
    firstFault? (r.loadFaults generators route) = r.duplicate? route.methods route.pattern := by
  have hunsupported : r.unsupported? route.methods = none := unsupported?_eq_none_iff.2 hmethods
  have hunknown : unknown? generators route.service = none := by
    rw [← errorOf?_create, errorOf?_eq_none_iff]
    exact hservice
  rw [loadFaults, hunsupported, hunknown, malformed?_eq_none_iff.2 hp]
  simp

/-- Two routes register the same text for the same method. -/
def Collide (r : Registry σ) (a b : Route) : Prop :=
  a.pattern = b.pattern ∧ ∃ m ∈ r.targeted a.methods, m ∈ r.targeted b.methods

theorem Collide.symm {a b : Route} (h : r.Collide a b) : r.Collide b a := by
  obtain ⟨hpattern, m, ha, hb⟩ := h
  exact ⟨hpattern.symm, m, hb, ha⟩

/-- Behind routes that can be loaded, a route has a duplicate when it targets a method
twice or collides with one of them. -/
theorem duplicate?_ne_none_iff_of_load (hpolicy : r.settings.duplicates = .reject)
    {file : RouteFile} {generators : Generators σ} (h : r.load file generators = .ok r')
    (route : Route) :
    r'.duplicate? route.methods route.pattern ≠ none ↔
      ¬(r.targeted route.methods).Nodup ∨ ∃ earlier ∈ file.routes, r.Collide earlier route := by
  have hpatterns := mem_patterns_of_load h
  obtain ⟨s, -, rfl⟩ := bind_snapshot_eq_ok_iff.1 h
  have hnone := duplicate?_eq_none_iff (r := { r with snapshot := s }) hpolicy route.methods
    route.pattern
  rw [Ne, hnone, Classical.not_and_iff_not_or_not]
  refine or_congr Iff.rfl ?_
  constructor
  · intro hheld
    simp only [Classical.not_forall, Classical.not_not] at hheld
    obtain ⟨m, hm, htext⟩ := hheld
    obtain ⟨earlier, hearlier, hm', heq⟩ := (hpatterns m _).1 htext
    exact ⟨earlier, hearlier, heq.symm, m, hm', hm⟩
  · rintro ⟨earlier, hearlier, heq, m, hm', hm⟩ hfree
    exact hfree m hm ((hpatterns m _).2 ⟨earlier, hearlier, hm', heq.symm⟩)

/-- In a file that can be loaded, a route has no fault behind those before it. -/
theorem firstFault?_eq_none_of_load {file : RouteFile} {generators : Generators σ}
    (h : r.load file generators = .ok r') {before after : List Route} {route : Route}
    (hroutes : file.routes = before ++ route :: after) :
    ∃ mid, r.load { file with routes := before } generators = .ok mid ∧
      firstFault? (mid.loadFaults generators route) = none := by
  obtain ⟨last, hfold, -⟩ := bind_snapshot_eq_ok_iff.1 h
  rw [hroutes, List.foldlM_append, except_bind_eq_ok_iff] at hfold
  obtain ⟨s, hbefore, hfold⟩ := hfold
  obtain ⟨next, hroute, -⟩ := foldlM_cons_eq_ok_iff.1 hfold
  have hload : r.load { file with routes := before } generators = .ok { r with snapshot := s } :=
    bind_snapshot_eq_ok_iff.2 ⟨s, hbefore, rfl⟩
  have hcoherent : s.Coherent r.settings.methods := coherent_of_load hload
  have herror := errorOf?_stageRoute (r := { r with snapshot := s }) hcoherent generators route
  exact ⟨_, hload, herror.symm.trans (errorOf?_eq_none_iff.2 ⟨next, hroute⟩)⟩

/-- Loading a readable file reports a duplicate exactly when some route targets a method
twice or collides with an earlier one. -/
theorem load_duplicatePattern_iff (hpolicy : r.settings.duplicates = .reject) {file : RouteFile}
    {generators : Generators σ} (hreadable : file.Readable generators)
    (hmethods : ∀ route ∈ file.routes, ∀ m ∈ r.targeted route.methods, m ∈ r.settings.methods) :
    (∃ text m, r.load file generators = .error (.duplicatePattern text m)) ↔
      ∃ before route after, file.routes = before ++ route :: after ∧
        (¬(r.targeted route.methods).Nodup ∨ ∃ earlier ∈ before, r.Collide earlier route) := by
  -- What is looked at in a route of the file, behind those before it.
  have hfault : ∀ before route after (s : Snapshot σ), file.routes = before ++ route :: after →
      firstFault? (loadFaults { r with snapshot := s } generators route) =
        duplicate? { r with snapshot := s } route.methods route.pattern := by
    intro before route after s hroutes
    have hroute : route ∈ file.routes := by
      rw [hroutes]
      simp
    obtain ⟨hservice, hp⟩ := hreadable route hroute
    exact firstFault?_loadFaults_of_readable hservice hp (hmethods route hroute)
  constructor
  · rintro ⟨text, m, h⟩
    obtain ⟨before, route, after, r', hroutes, hload, hfirst⟩ := load_eq_error_iff.1 h
    refine ⟨before, route, after, hroutes, ?_⟩
    rw [← duplicate?_ne_none_iff_of_load hpolicy hload]
    obtain ⟨s, -, rfl⟩ := bind_snapshot_eq_ok_iff.1 hload
    rw [hfault before route after s hroutes] at hfirst
    rw [hfirst]
    exact Option.some_ne_none _
  · rintro ⟨before, route, after, hroutes, hbad⟩
    cases hload : r.load file generators with
    | error e =>
      obtain ⟨before', route', after', r', hroutes', hload', hfirst⟩ := load_eq_error_iff.1 hload
      obtain ⟨s, -, rfl⟩ := bind_snapshot_eq_ok_iff.1 hload'
      rw [hfault before' route' after' s hroutes'] at hfirst
      obtain ⟨text, m, hduplicate⟩ := exists_duplicatePattern_iff.2
        (hfirst ▸ Option.some_ne_none e)
      have he : e = .duplicatePattern text m := Option.some.inj (hfirst.symm.trans hduplicate)
      exact ⟨text, m, congrArg Except.error he⟩
    | ok loaded =>
      -- The route has been added to those before it, with which it has a duplicate.
      obtain ⟨mid, hmid, hfirst⟩ := firstFault?_eq_none_of_load hload hroutes
      obtain ⟨s, -, rfl⟩ := bind_snapshot_eq_ok_iff.1 hmid
      rw [hfault before route after s hroutes] at hfirst
      exact absurd hfirst ((duplicate?_ne_none_iff_of_load hpolicy hmid route).2 hbad)

/-- An entry stands behind those of smaller index. -/
theorem exists_split_of_lt {l : List Route} {i j : Nat} {a b : Route} (hij : i < j)
    (ha : l[i]? = some a) (hb : l[j]? = some b) :
    ∃ before after, l = before ++ b :: after ∧ a ∈ before := by
  obtain ⟨hj, rfl⟩ := List.getElem?_eq_some_iff.1 hb
  refine ⟨l.take j, l.drop (j + 1), ?_, ?_⟩
  · rw [← List.drop_eq_getElem_cons hj, List.take_append_drop]
  · refine List.mem_of_getElem? (i := i) ?_
    rw [List.getElem?_take, if_pos hij, ha]

/-- Some route collides with an earlier one exactly when two different routes collide. -/
theorem exists_collide_iff {l : List Route} :
    (∃ before b after, l = before ++ b :: after ∧ ∃ a ∈ before, r.Collide a b) ↔
      ∃ (i j : Nat) (a b : Route), i ≠ j ∧ l[i]? = some a ∧ l[j]? = some b ∧ r.Collide a b := by
  constructor
  · rintro ⟨before, b, after, rfl, a, ha, hcollide⟩
    obtain ⟨i, hi⟩ := List.getElem?_of_mem ha
    have hlt : i < before.length := (List.getElem?_eq_some_iff.1 hi).1
    refine ⟨i, before.length, a, b, by omega, ?_, ?_, hcollide⟩
    · rw [List.getElem?_append_left hlt, hi]
    · rw [List.getElem?_append_right (Nat.le_refl _)]
      simp
  · rintro ⟨i, j, a, b, hij, ha, hb, hcollide⟩
    rcases Nat.lt_or_gt_of_ne hij with hlt | hlt
    · obtain ⟨before, after, hl, hmem⟩ := exists_split_of_lt hlt ha hb
      exact ⟨before, b, after, hl, a, hmem, hcollide⟩
    · obtain ⟨before, after, hl, hmem⟩ := exists_split_of_lt hlt hb ha
      exact ⟨before, a, after, hl, b, hmem, hcollide.symm⟩

/-- **When a registration is a duplicate.**  With the policy `reject`, a registration that
can be read and is for supported methods fails with `duplicatePattern` if and only if its
text is there for a targeted method, or a method is targeted twice; and so does loading a
readable route file if and only if two different routes register the same text for the
same method, or a route targets a method twice. -/
theorem duplicatePattern_iff (r : Registry σ) (hpolicy : r.settings.duplicates = .reject) :
    (r.Reachable → ∀ (item : Registration σ) (p : Pattern),
      Pattern.parse item.pattern = .ok p → (∀ m ∈ item.method, m ∈ r.settings.methods) →
        ((∃ text m, r.register item = .error (.duplicatePattern text m)) ↔
          (∃ m ∈ r.targeted (item.method.map ([·])), item.pattern ∈ r.patterns m) ∨
            ¬(r.targeted (item.method.map ([·]))).Nodup)) ∧
      ∀ (file : RouteFile) (generators : Generators σ), file.Readable generators →
        (∀ route ∈ file.routes, ∀ methods ∈ route.methods, ∀ m ∈ methods,
          m ∈ r.settings.methods) →
        ((∃ text m, r.load file generators = .error (.duplicatePattern text m)) ↔
          (∃ (i j : Nat) (a b : Route), i ≠ j ∧ file.routes[i]? = some a ∧
            file.routes[j]? = some b ∧ r.Collide a b) ∨
            ∃ route ∈ file.routes, ¬(r.targeted route.methods).Nodup) := by
  refine ⟨fun hreachable item p hp hmethod => ?_, fun file generators hreadable hmethods => ?_⟩
  · have herror := errorOf?_register_of_readable hreachable.coherent hp hmethod
    have hreported : (∃ text m, r.register item = .error (.duplicatePattern text m)) ↔
        r.duplicate? (item.method.map ([·])) item.pattern ≠ none := by
      rw [← exists_duplicatePattern_iff, ← herror]
      simp only [errorOf?_eq_some_iff]
    rw [hreported, Ne, duplicate?_eq_none_iff hpolicy, Classical.not_and_iff_not_or_not,
      or_comm]
    simp
  · have htargeted : ∀ route ∈ file.routes, ∀ m ∈ r.targeted route.methods,
        m ∈ r.settings.methods := by
      intro route hroute m hm
      cases h : route.methods with
      | none => simpa [targeted, h] using hm
      | some methods =>
        rw [h] at hm
        exact hmethods route hroute methods h m hm
    rw [load_duplicatePattern_iff hpolicy hreadable htargeted, ← exists_collide_iff]
    constructor
    · rintro ⟨before, route, after, hroutes, htwice | hcollide⟩
      · refine Or.inr ⟨route, ?_, htwice⟩
        rw [hroutes]
        simp
      · exact Or.inl ⟨before, route, after, hroutes, hcollide⟩
    · rintro (⟨before, route, after, hroutes, hcollide⟩ | ⟨route, hroute, htwice⟩)
      · exact ⟨before, route, after, hroutes, Or.inr hcollide⟩
      · obtain ⟨before, after, hroutes⟩ := List.append_of_mem hroute
        exact ⟨before, route, after, hroutes, Or.inl htwice⟩

/-- A text that one of the targeted methods has, and two routes of which the second is for
every method. -/
theorem duplicatePattern_iff_oneOfTwo :
    ∃ (r : Registry Nat) (file : RouteFile) (generators : Generators Nat), r.Reachable ∧
      r.settings.duplicates = .reject ∧ r.settings.methods = [.get, .post] ∧
      r.patterns .get = [] ∧ r.patterns .post = ["/a".toList] ∧
      file.routes = [⟨"/b".toList, ['s'], some [.post]⟩, ⟨"/b".toList, ['t'], none⟩] ∧
      file.Readable generators ∧
      (∃ text m, r.register ⟨1, "/a".toList, none⟩ = .error (.duplicatePattern text m)) ∧
      ∃ text m, r.load file generators = .error (.duplicatePattern text m) := by
  let first : Registry Nat := ofSettings { methods := [.get, .post], duplicates := .reject }
  let r : Registry Nat := first.after (.register ⟨0, "/a".toList, some .post⟩)
  let a : Route := ⟨"/b".toList, ['s'], some [.post]⟩
  let b : Route := ⟨"/b".toList, ['t'], none⟩
  let file : RouteFile := { routes := [a, b] }
  let generators : Generators Nat := Dict.ofList [(['s'], 1), (['t'], 2)]
  have hreachable : r.Reachable := (Reachable.ofSettings _).after _
  have hreadable : file.Readable generators := by
    intro route hroute
    simp only [file, List.mem_cons, List.not_mem_nil, or_false] at hroute
    rcases hroute with rfl | rfl
    · exact ⟨⟨1, rfl⟩, _, rfl⟩
    · exact ⟨⟨2, rfl⟩, _, rfl⟩
  have hmethods : ∀ route ∈ file.routes, ∀ methods ∈ route.methods, ∀ m ∈ methods,
      m ∈ r.settings.methods := by decide
  have hcollide : r.Collide a b := ⟨rfl, .post, by decide, by decide⟩
  obtain ⟨hregister, hload⟩ := duplicatePattern_iff r rfl
  refine ⟨r, file, generators, hreachable, rfl, rfl, by decide +kernel, by decide +kernel, rfl,
    hreadable, ?_, ?_⟩
  · refine (hregister hreachable ⟨1, "/a".toList, none⟩ _ rfl (by decide)).2 (Or.inl ?_)
    exact ⟨.post, by decide, by decide +kernel⟩
  · refine (hload file generators hreadable hmethods).2 (Or.inl ?_)
    exact ⟨0, 1, a, b, by decide, rfl, rfl, hcollide⟩

/-! ## 3.  Colliding with itself -/

/-- When the settings name a method twice, a registration for every method fails in a
registry without any registration; and so does a route that lists a method twice. -/
theorem exists_register_collides :
    ∃ (r : Registry Nat) (file : RouteFile) (generators : Generators Nat), r.Reachable ∧
      r.settings.duplicates = .reject ∧ r.settings.methods = [.get, .get] ∧
      (∀ m, r.patterns m = []) ∧
      r.register ⟨1, "/a".toList, none⟩ = .error (.duplicatePattern "/a".toList .get) ∧
      file.routes = [⟨"/a".toList, ['s'], some [.get, .get]⟩] ∧ file.Readable generators ∧
      r.load file generators = .error (.duplicatePattern "/a".toList .get) := by
  refine ⟨ofSettings { methods := [.get, .get], duplicates := .reject },
    { routes := [⟨"/a".toList, ['s'], some [.get, .get]⟩] }, Dict.ofList [(['s'], 1)],
    Reachable.ofSettings _, rfl, rfl, ?_, rfl, rfl, ?_, rfl⟩
  · intro m
    cases m <;> rfl
  · intro route hroute
    rw [List.mem_singleton.1 hroute]
    exact ⟨⟨1, rfl⟩, _, rfl⟩

end Registry
end UriRouting
