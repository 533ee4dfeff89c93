import UriRouting.Proofs.Except
import UriRouting.Registry.Basic

/-!
# Both halves of a table agree

A method table keeps its entries twice, in a list and in a map.  Whatever is done to a
registry, the two hold the same entries.

## 1.  States

A `Registry.Change` is one call that changes a registry, and `Registry.after` is the
registry that the call leaves behind: the old one if the call fails.
`Registry.Reachable` are the registries that calls can lead to.

## 2.  Tables

`MethodTable.Coherent` says that the two halves of a table agree.  Adding an entry
keeps it (`MethodTable.Coherent.put`), whether the entry is appended or takes the place
of another one; that one is the only one with its text, which is what makes replacing
the first enough.

## 3.  Snapshots and registries

`Snapshot.Coherent` adds that exactly the supported methods have a table.  Every call
that succeeds is a fold of insertions, so it is kept (`Registry.coherent_after`), and
holds of every reachable registry (`Registry.Reachable.coherent`).
-/

namespace UriRouting

variable {σ : Type}

/-! ## 1.  States -/

namespace Registry

/-- A call that changes a registry. -/
inductive Change (σ : Type) where
  /-- Adds one registration. -/
  | register (item : Registration σ)
  /-- Replaces everything by registrations. -/
  | reload (items : List (Registration σ))
  /-- Replaces everything by the routes of a route file. -/
  | load (file : RouteFile) (generators : Generators σ)
  /-- Removes everything. -/
  | clear

/-- The outcome of a call. -/
def apply (r : Registry σ) : Change σ → Except RegistryError (Registry σ)
  | .register item => r.register item
  | .reload items => r.reload items
  | .load file generators => r.load file generators
  | .clear => .ok r.clear

/-- The registry that a call leaves behind.  One that fails changes nothing. -/
def after (r : Registry σ) (change : Change σ) : Registry σ :=
  match r.apply change with
  | .ok r' => r'
  | .error _ => r

/-- The registries that calls lead to, successful ones or not. -/
inductive Reachable : Registry σ → Prop where
  | ofSettings (settings : RegistrySettings) : Reachable (ofSettings settings)
  | ofRouteFile {file : RouteFile} {generators : Generators σ} {r : Registry σ}
      (h : ofRouteFile file generators = .ok r) : Reachable r
  | withBinder {r : Registry σ} (h : Reachable r) (binder : Binder) :
      Reachable (r.withBinder binder)
  | after {r : Registry σ} (h : Reachable r) (change : Change σ) : Reachable (r.after change)

/-- Any finite sequence of calls leads from a reachable registry to a reachable one. -/
theorem Reachable.foldl_after {r : Registry σ} (h : r.Reachable) (changes : List (Change σ)) :
    (changes.foldl Registry.after r).Reachable := by
  induction changes generalizing r with
  | nil => exact h
  | cons change changes ih => exact ih (h.after change)

end Registry

/-! ## 2.  Tables -/

namespace MethodTable

/-- The list and the map of a table hold the same entries. -/
structure Coherent (t : MethodTable σ) : Prop where
  /-- No two entries of the list have the same pattern text. -/
  distinct : t.patterns.Nodup
  /-- The keys of the map are the pattern texts of the list. -/
  keys : ∀ text, text ∈ t.exact.keys ↔ text ∈ t.patterns
  /-- Under the text of an entry of the list, the map holds that entry. -/
  entry : ∀ e ∈ t.entries, t.exact.get? e.pattern.source = some e

theorem coherent_empty : (empty : MethodTable σ).Coherent :=
  ⟨List.nodup_nil, fun _ => Iff.rfl, fun _ h => absurd h List.not_mem_nil⟩

/-- Replacing an entry by one with the same pattern text keeps the list of texts. -/
theorem map_source_replaceFirst (entry : Entry σ) (entries : List (Entry σ)) :
    (replaceFirst entry entries).map (fun e => e.pattern.source) =
      entries.map fun e => e.pattern.source := by
  induction entries with
  | nil => rfl
  | cons e entries ih =>
    rw [replaceFirst]
    split
    · rename_i h
      rw [List.map_cons, List.map_cons, h]
    · rw [List.map_cons, List.map_cons, ih]

/-- When no text occurs twice, no entry with the text of the new one is left. -/
theorem eq_or_of_mem_replaceFirst {entry e : Entry σ} {entries : List (Entry σ)}
    (hdistinct : (entries.map fun e => e.pattern.source).Nodup)
    (h : e ∈ replaceFirst entry entries) :
    e = entry ∨ e ∈ entries ∧ e.pattern.source ≠ entry.pattern.source := by
  induction entries with
  | nil => cases h
  | cons first entries ih =>
    rw [List.map_cons, List.nodup_cons] at hdistinct
    rw [replaceFirst] at h
    split at h
    · rename_i hfirst
      rcases List.mem_cons.1 h with rfl | hmem
      · exact Or.inl rfl
      · refine Or.inr ⟨List.mem_cons_of_mem _ hmem, fun hsame => hdistinct.1 ?_⟩
        rw [hfirst, ← hsame]
        exact List.mem_map_of_mem hmem
    · rename_i hfirst
      rcases List.mem_cons.1 h with rfl | hmem
      · exact Or.inr ⟨List.mem_cons_self, hfirst⟩
      · exact (ih hdistinct.2 hmem).imp_right fun h => ⟨List.mem_cons_of_mem _ h.1, h.2⟩

theorem Coherent.mem_patterns_iff {t : MethodTable σ} (h : t.Coherent) (text : Text) :
    text ∈ t.patterns ↔ t.exact.contains text = true := by
  rw [Dict.contains_iff_mem_keys, h.keys]

/-- Putting an entry into a table that holds its text keeps the list of texts. -/
theorem patterns_put_of_contains {t : MethodTable σ} {entry : Entry σ}
    (h : t.exact.contains entry.pattern.source = true) : (t.put entry).patterns = t.patterns := by
  rw [patterns, put, if_pos h, map_source_replaceFirst]
  rfl

/-- Putting an entry into a table without its text puts the text at the end. -/
theorem patterns_put_of_not_contains {t : MethodTable σ} {entry : Entry σ}
    (h : t.exact.contains entry.pattern.source = false) :
    (t.put entry).patterns = t.patterns ++ [entry.pattern.source] := by
  rw [patterns, put, h, if_neg Bool.false_ne_true, List.map_append]
  rfl

/-- **Adding an entry keeps both halves in agreement.** -/
theorem Coherent.put {t : MethodTable σ} (h : t.Coherent) (entry : Entry σ) :
    (t.put entry).Coherent := by
  have hget : ∀ e : Entry σ, (t.put entry).exact.get? e.pattern.source =
      if entry.pattern.source = e.pattern.source then some entry
      else t.exact.get? e.pattern.source :=
    fun e => Dict.get?_insert _ _ _ _
  have hkeys : ∀ text, text ∈ (t.put entry).exact.keys ↔
      text = entry.pattern.source ∨ text ∈ t.patterns := by
    intro text
    rw [← h.keys]
    exact Dict.mem_keys_insert _ _ _ _
  cases hcontains : t.exact.contains entry.pattern.source with
  | true =>
    have hpatterns := patterns_put_of_contains hcontains
    have hmem : entry.pattern.source ∈ t.patterns := (h.mem_patterns_iff _).2 hcontains
    refine ⟨hpatterns ▸ h.distinct, fun text => ?_, fun e he => ?_⟩
    · rw [hkeys, hpatterns]
      exact ⟨fun htext => htext.elim (fun heq => heq ▸ hmem) id, Or.inr⟩
    · have he' : e ∈ replaceFirst entry t.entries := by
        rw [MethodTable.put, if_pos hcontains] at he
        exact he
      rw [hget]
      rcases eq_or_of_mem_replaceFirst h.distinct he' with rfl | ⟨hmem, hne⟩
      · rw [if_pos rfl]
      · rw [if_neg hne.symm, h.entry e hmem]
  | false =>
    have hpatterns := patterns_put_of_not_contains hcontains
    have hnotMem : entry.pattern.source ∉ t.patterns := by
      rw [h.mem_patterns_iff, hcontains]
      exact Bool.false_ne_true
    refine ⟨?_, fun text => ?_, fun e he => ?_⟩
    · rw [hpatterns, List.nodup_append]
      refine ⟨h.distinct, List.pairwise_singleton _ _, fun a ha b hb hab => hnotMem ?_⟩
      rw [← List.mem_singleton.1 hb, ← hab]
      exact ha
    · rw [hkeys, hpatterns, List.mem_append, List.mem_singleton, or_comm]
    · have he' : e ∈ t.entries ++ [entry] := by
        rw [MethodTable.put, hcontains, if_neg Bool.false_ne_true] at he
        exact he
      rw [hget]
      rcases List.mem_append.1 he' with hmem | hlast
      · have hne : entry.pattern.source ≠ e.pattern.source := by
          intro hsame
          exact hnotMem (hsame ▸ List.mem_map_of_mem hmem)
        rw [if_neg hne, h.entry e hmem]
      · rw [List.mem_singleton.1 hlast, if_pos rfl]

end MethodTable

/-! ## 3.  Snapshots and registries -/

namespace Snapshot

/-- Exactly the given methods have a table, and both halves of each table agree. -/
structure Coherent (methods : List Method) (s : Snapshot σ) : Prop where
  /-- A method has a table when it is one of the given ones. -/
  supported : ∀ m, (s.table? m).isSome = true ↔ m ∈ methods
  /-- Both halves of every table agree. -/
  tables : ∀ m table, s.table? m = some table → table.Coherent

theorem coherent_empty (methods : List Method) : (empty methods : Snapshot σ).Coherent methods := by
  refine ⟨fun m => ?_, fun m table htable => ?_⟩
  · rw [table?_empty]
    split <;> simp_all
  · rw [table?_empty] at htable
    split at htable
    · cases htable
      exact MethodTable.coherent_empty
    · cases htable

variable {methods : List Method} {policy : DuplicatePolicy} {entry : Entry σ} {s s' : Snapshot σ}

/-- An insertion changes one table, by putting the entry into it. -/
theorem Coherent.insert (hs : s.Coherent methods) {method : Method}
    (h : s.insert policy entry method = .ok s') : s'.Coherent methods := by
  have htable := table?_of_insert h
  refine ⟨fun m => ?_, fun m table hm => ?_⟩
  · rw [← hs.supported, htable]
    split
    · rw [Option.isSome_map]
    · rfl
  · rw [htable] at hm
    split at hm
    · obtain ⟨old, hold, rfl⟩ := Option.map_eq_some_iff.1 hm
      exact (hs.tables m old hold).put entry
    · exact hs.tables m table hm

theorem Coherent.insertAll (hs : s.Coherent methods) {targets : List Method}
    (h : s.insertAll policy entry targets = .ok s') : s'.Coherent methods :=
  foldlM_invariant (fun _ _ _ hs h => hs.insert h) hs h

end Snapshot

namespace Registry

variable {r r' : Registry σ}

/-- Staging a registration is one fold of insertions. -/
theorem coherent_of_stage {methods : List Method} {s s' : Snapshot σ} (hs : s.Coherent methods)
    {service : σ} {pattern : Text} {targets : List Method}
    (h : r.stage s service pattern targets = .ok s') : s'.Coherent methods := by
  obtain ⟨p, -, h⟩ := except_bind_eq_ok_iff.1 h
  exact hs.insertAll h

/-- What a call that succeeds does: it keeps the settings, and the new tables agree. -/
theorem coherent_of_apply (change : Change σ) (hr : r.snapshot.Coherent r.settings.methods)
    (h : r.apply change = .ok r') :
    r'.settings = r.settings ∧ r'.snapshot.Coherent r.settings.methods := by
  cases change with
  | register item =>
    obtain ⟨p, -, h⟩ := except_bind_eq_ok_iff.1 h
    obtain ⟨targets, -, h⟩ := except_bind_eq_ok_iff.1 h
    obtain ⟨s, hinsert, h⟩ := except_bind_eq_ok_iff.1 h
    cases h
    exact ⟨rfl, hr.insertAll hinsert⟩
  | reload items =>
    obtain ⟨s, hfold, h⟩ := except_bind_eq_ok_iff.1 h
    cases h
    refine ⟨rfl, foldlM_invariant (fun s item s' hs h => ?_) (Snapshot.coherent_empty _) hfold⟩
    obtain ⟨targets, -, h⟩ := except_bind_eq_ok_iff.1 h
    exact coherent_of_stage hs h
  | load file generators =>
    obtain ⟨s, hfold, h⟩ := except_bind_eq_ok_iff.1 h
    cases h
    refine ⟨rfl, foldlM_invariant (fun s route s' hs h => ?_) (Snapshot.coherent_empty _) hfold⟩
    obtain ⟨targets, -, h⟩ := except_bind_eq_ok_iff.1 h
    obtain ⟨service, -, h⟩ := except_bind_eq_ok_iff.1 h
    exact coherent_of_stage hs h
  | clear =>
    cases h
    exact ⟨rfl, Snapshot.coherent_empty _⟩

/-- A call keeps the agreement, whether it succeeds or fails. -/
theorem coherent_after (hr : r.snapshot.Coherent r.settings.methods) (change : Change σ) :
    (r.after change).snapshot.Coherent (r.after change).settings.methods := by
  rw [after]
  cases h : r.apply change with
  | error e => exact hr
  | ok r' =>
    obtain ⟨hsettings, hcoherent⟩ := coherent_of_apply change hr h
    show r'.snapshot.Coherent r'.settings.methods
    rw [hsettings]
    exact hcoherent

/-- Every way to a reachable registry keeps the agreement. -/
theorem Reachable.coherent (h : r.Reachable) : r.snapshot.Coherent r.settings.methods := by
  induction h with
  | ofSettings settings => exact Snapshot.coherent_empty _
  | ofRouteFile h =>
    have hload := coherent_of_apply (.load _ _) (Snapshot.coherent_empty _) h
    rw [hload.1]
    exact hload.2
  | withBinder h binder ih => exact ih
  | after h change ih => exact coherent_after ih change

/-- **In every reachable registry, both halves of every table agree**, and the methods
that have a table are those of the settings. -/
theorem coherent_of_reachable (h : r.Reachable) : r.snapshot.Coherent r.settings.methods :=
  h.coherent

/-- A method that the settings name twice, a text registered again for one method
alone, and a call that fails. -/
theorem coherent_of_reachable_repeated :
    ∃ r : Registry Nat, r.Reachable ∧ r.snapshot.Coherent r.settings.methods ∧
      r.settings.methods = [.get, .get, .post] ∧
      r.patterns .get = ["/\x7bx\x7d".toList, "/b".toList] ∧
      r.patterns .post = ["/\x7bx\x7d".toList] ∧ r.patterns .put = [] := by
  have hstart : Reachable (ofSettings { methods := [.get, .get, .post] } : Registry Nat) :=
    Reachable.ofSettings _
  have hreachable := hstart.foldl_after
    [.register ⟨1, "/\x7bx\x7d".toList, none⟩, .register ⟨2, "/b".toList, some .get⟩,
      .register ⟨3, "/\x7bx\x7d".toList, some .post⟩, .register ⟨4, "/c".toList, some .put⟩]
  exact ⟨_, hreachable, coherent_of_reachable hreachable, by decide +kernel, by decide +kernel,
    by decide +kernel, by decide +kernel⟩

end Registry
end UriRouting
