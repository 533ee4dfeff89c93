import UriRouting.Proofs.Pattern.Sorting
import UriRouting.Proofs.Registry.ExactText

/-!
# What a lookup answers

A lookup first asks the map of a table for the path itself and then lets the match rule
choose from the list.  Since both hold the same registrations, the list of pattern texts
decides the answer alone: whether there is one, under which pattern, and what it binds.

## 1.  Reading the list

The texts of the registered patterns read as these patterns, in the same order
(`Registry.mapM_parse_patterns`).  It makes no difference whether the match rule chooses
from registrations or from their patterns (`Pattern.exists_chosenIndex?`).

## 2.  The two answers

`Registry.get?_of_mem_entries` is the answer for a registered text and
`Registry.get?_of_notMem_patterns` the one for every other path.  A method without a table
has no texts and no answers, so neither needs to speak of tables.

## 3.  The specification

`Registry.get?_characterized` says of any path when there is an answer, and what it is.
-/

namespace UriRouting

variable {σ : Type}

/-! ## 1.  Reading the list -/

namespace Pattern

theorem mapM_parse_source (ps : List Pattern) : (ps.map source).mapM parse = .ok ps := by
  induction ps with
  | nil => rfl
  | cons p ps ih =>
    rw [List.map_cons, List.mapM_cons, parse_eq_ok_iff.2 rfl, ih]
    rfl

/-- What is chosen has its pattern at the index that is chosen. -/
theorem exists_chosenIndex? {α : Type} {pattern : α → Pattern} {rule : MatchRule} {uri : Text}
    {as : List α} {a : α} (h : choose? pattern rule uri as = some a) :
    ∃ i, chosenIndex? rule uri (as.map pattern) = some i ∧
      (as.map pattern)[i]? = some (pattern a) := by
  have hpattern : choose? id rule uri (as.map pattern) = some (pattern a) := by
    rw [choose?_map, Function.id_comp, h]
    rfl
  rw [choose?_eq_getElem?] at hpattern
  exact Option.bind_eq_some_iff.1 hpattern

end Pattern

namespace Registry

variable {r : Registry σ} {m : Method} {e : Entry σ} {path : Text}

theorem patterns_eq (r : Registry σ) (m : Method) :
    r.patterns m = (r.entries m).map fun e => e.pattern.source := by
  rw [patterns, Snapshot.patterns, entries]
  cases r.snapshot.table? m <;> rfl

theorem mem_patterns_iff {text : Text} :
    text ∈ r.patterns m ↔ ∃ e ∈ r.entries m, e.pattern.source = text := by
  rw [patterns_eq, List.mem_map]

/-- The registered texts read as the registered patterns. -/
theorem mapM_parse_patterns (r : Registry σ) (m : Method) :
    (r.patterns m).mapM Pattern.parse = .ok ((r.entries m).map Entry.pattern) := by
  have hmap : r.patterns m = ((r.entries m).map Entry.pattern).map Pattern.source := by
    rw [patterns_eq, List.map_map]
    rfl
  rw [hmap, Pattern.mapM_parse_source]

/-! ## 2.  The two answers -/

/-- The text of a registered pattern is answered by its registration, and binds nothing. -/
theorem get?_of_mem_entries (hr : r.Reachable) (he : e ∈ r.entries m) :
    r.get? e.pattern.source m = some ⟨e.service, e.pattern, .resolved Dict.empty⟩ := by
  obtain ⟨table, htable, hmem⟩ := exists_table_of_mem_entries he
  exact get?_source htable (hr.coherent.tables m table htable) hmem

/-- Any other path is answered by the registration that the match rule chooses. -/
theorem get?_of_notMem_patterns (hr : r.Reachable) (hpath : path ∉ r.patterns m) :
    r.get? path m = (Pattern.choose? Entry.pattern r.settings.rule path (r.entries m)).map
      fun e => ⟨e.service, e.pattern, e.pattern.resolve r.binder path⟩ := by
  cases htable : r.snapshot.table? m with
  | none =>
    rw [get?, entries, htable]
    cases r.settings.rule <;> rfl
  | some table =>
    have hcoherent : table.Coherent := hr.coherent.tables m table htable
    have hpatterns : r.patterns m = table.patterns := by
      rw [patterns, Snapshot.patterns, htable]
      rfl
    -- The map has no registration for a text that the list does not have.
    have hexact : table.exact.get? path = none := by
      rw [hpatterns, hcoherent.mem_patterns_iff, Dict.contains, Option.not_isSome_iff_eq_none]
        at hpath
      exact hpath
    rw [get?, htable, entries_eq htable, Option.bind_eq_bind, Option.bind_some, hexact]
    cases Pattern.choose? Entry.pattern r.settings.rule path table.entries <;> rfl

/-! ## 3.  The specification -/

/-- **The list of pattern texts decides every answer.**  In a reachable registry there is
one exactly if some text for the method equals the path or reads as a pattern that matches
it.  An answer is always resolved, under a pattern whose text is in the list.  For a path
that is in the list itself, that text is the path, and nothing is bound; for any other
path the pattern is the one that the match rule chooses from the list, and the bindings are
those of resolving the path against it. -/
theorem get?_characterized (hr : r.Reachable) (path : Text) (m : Method) :
    ((r.get? path m).isSome = true ↔ ∃ text ∈ r.patterns m, text = path ∨
      ∃ p, Pattern.parse text = .ok p ∧ p.isMatch path = true) ∧
    ∃ ps, (r.patterns m).mapM Pattern.parse = .ok ps ∧
      ∀ found, r.get? path m = some found →
        found.resolution.isResolved = true ∧ found.pattern.source ∈ r.patterns m ∧
        (path ∈ r.patterns m →
          found.pattern.source = path ∧ found.resolution.bindings = Dict.empty) ∧
        (path ∉ r.patterns m →
          ∃ i, Pattern.chosenIndex? r.settings.rule path ps = some i ∧
            ps[i]? = some found.pattern ∧
            found.resolution = found.pattern.resolve r.binder path) := by
  by_cases hpath : path ∈ r.patterns m
  · obtain ⟨e, he, rfl⟩ := mem_patterns_iff.1 hpath
    have hget := get?_of_mem_entries hr he
    refine ⟨⟨fun _ => ⟨_, hpath, Or.inl rfl⟩, fun _ => ?_⟩, _, mapM_parse_patterns r m,
      fun found hfound => ?_⟩
    · rw [hget, Option.isSome_some]
    · obtain rfl := Option.some.inj (hget.symm.trans hfound)
      exact ⟨rfl, hpath, fun _ => ⟨rfl, rfl⟩, fun hnot => absurd hpath hnot⟩
  · have hget := get?_of_notMem_patterns hr hpath
    refine ⟨⟨fun hsome => ?_, ?_⟩, _, mapM_parse_patterns r m, fun found hfound => ?_⟩
    · rw [hget, Option.isSome_map, Option.isSome_iff_exists] at hsome
      obtain ⟨e, hchosen⟩ := hsome
      obtain ⟨he, hmatch⟩ := Pattern.mem_of_choose?_eq_some hchosen
      exact ⟨_, mem_patterns_iff.2 ⟨e, he, rfl⟩, Or.inr ⟨_, Pattern.parse_eq_ok_iff.2 rfl, hmatch⟩⟩
    · rintro ⟨text, htext, rfl | ⟨p, hparse, hmatch⟩⟩
      · exact absurd htext hpath
      · obtain ⟨e, he, hsource⟩ := mem_patterns_iff.1 htext
        obtain rfl : e.pattern = p :=
          Pattern.eq_of_source_eq (hsource.trans (Pattern.parse_eq_ok_iff.1 hparse).symm)
        rw [hget, Option.isSome_map, Option.isSome_iff_ne_none]
        intro hnone
        rw [Pattern.choose?_eq_none_iff.1 hnone e he] at hmatch
        cases hmatch
    · rw [hget, Option.map_eq_some_iff] at hfound
      obtain ⟨e, hchosen, rfl⟩ := hfound
      obtain ⟨he, hmatch⟩ := Pattern.mem_of_choose?_eq_some hchosen
      obtain ⟨i, hi, hpattern⟩ := Pattern.exists_chosenIndex? hchosen
      refine ⟨?_, mem_patterns_iff.2 ⟨e, he, rfl⟩, fun hmem => absurd hmem hpath,
        fun _ => ⟨i, hi, hpattern, rfl⟩⟩
      obtain ⟨match', hmatch'⟩ := Option.isSome_iff_exists.1 hmatch
      show (e.pattern.resolve r.binder path).isResolved = true
      rw [Pattern.resolve, hmatch']
      rfl

/-- A path that is a text for one method and matched by two equally specific patterns for the
other; of these, the first one binds an integer. -/
theorem get?_characterized_exactAndMatched :
    ∃ (r : Registry Nat) (ps : List Pattern) (onGet onPost : Dispatch Nat), r.Reachable ∧
      r.patterns .get = ["/a/\x7bint:n\x7d".toList, "/a/*".toList, "/\x7bx\x7d/7".toList] ∧
      r.patterns .post = ["/a/\x7bint:n\x7d".toList, "/a/7".toList] ∧
      (r.patterns .get).mapM Pattern.parse = .ok ps ∧
      r.get? "/a/7".toList .get = some onGet ∧ r.get? "/a/7".toList .post = some onPost ∧
      onGet.resolution.isResolved = true ∧ onGet.pattern.source ∈ r.patterns .get ∧
      (∃ i, Pattern.chosenIndex? r.settings.rule "/a/7".toList ps = some i ∧
        ps[i]? = some onGet.pattern ∧
        onGet.resolution = onGet.pattern.resolve r.binder "/a/7".toList) ∧
      onGet.service = 4 ∧ onGet.resolution.get? ['n'] = some (.one (.integer 7)) ∧
      onPost.pattern.source = "/a/7".toList ∧ onPost.resolution.bindings = Dict.empty := by
  let r : Registry Nat := List.foldl Registry.after (ofSettings {})
    [.register ⟨1, "/a/\x7bint:n\x7d".toList, none⟩, .register ⟨2, "/a/*".toList, some .get⟩,
      .register ⟨3, "/a/7".toList, some .post⟩, .register ⟨4, "/a/\x7bint:n\x7d".toList, some .get⟩,
      .register ⟨5, "/\x7bx\x7d/7".toList, some .get⟩]
  have hr : r.Reachable := (Reachable.ofSettings _).foldl_after _
  obtain ⟨-, ps, hps, hanswers⟩ := get?_characterized hr "/a/7".toList .get
  obtain ⟨onGet, hget⟩ : ∃ found, r.get? "/a/7".toList .get = some found :=
    Option.isSome_iff_exists.1 (by decide +kernel)
  obtain ⟨onPost, hpost⟩ : ∃ found, r.get? "/a/7".toList .post = some found :=
    Option.isSome_iff_exists.1 (by decide +kernel)
  obtain ⟨hresolved, hpattern, -, hmatched⟩ := hanswers onGet hget
  obtain ⟨-, qs, -, hanswers'⟩ := get?_characterized hr "/a/7".toList .post
  obtain ⟨-, -, hexact, -⟩ := hanswers' onPost hpost
  have hservice : (r.get? "/a/7".toList .get).map Dispatch.service = some 4 := by decide +kernel
  have hbound : (r.get? "/a/7".toList .get).bind (fun found => found.resolution.get? ['n']) =
      some (.one (.integer 7)) := by decide +kernel
  rw [hget] at hservice hbound
  refine ⟨r, ps, onGet, onPost, hr, by decide +kernel, by decide +kernel, hps, hget, hpost,
    hresolved, hpattern, hmatched (by decide +kernel), Option.some.inj hservice, hbound,
    hexact (by decide +kernel)⟩

end Registry
end UriRouting
