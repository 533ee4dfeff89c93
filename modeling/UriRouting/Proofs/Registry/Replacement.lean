import Mathlib.Data.List.Dedup
import UriRouting.Proofs.Registry.ExactText
import UriRouting.Proofs.Registry.Noninterference

/-!
# What a registration changes

A registration may be for several methods, of which some have the text and some do not, and
the settings may list a method twice.  Each table that is targeted changes once: where the
text is, its service is replaced, and elsewhere the text is put at the end.

## 1.  Tables

The entry that is replaced is the only one with its text, so the others stand before it and
behind it as they did (`MethodTable.Coherent.entries_put_of_contains`).  To put an entry a
second time changes nothing (`MethodTable.Coherent.put_put`).

## 2.  Runs of insertions

Hence what a run of insertions does to the table of a method does not depend on how often the
method is targeted (`Snapshot.Coherent.table?_of_insertAll_eq`), and the number of
registrations grows by the methods that got a new text, each counted once
(`Snapshot.Coherent.size_of_insertAll`).

## 3.  Registrations

`Registry.register_replace_or_append` puts this together for a reachable registry.
-/

namespace UriRouting

variable {σ : Type}

/-! ## 1.  Tables -/

namespace MethodTable

variable {t : MethodTable σ} {entry old : Entry σ} {before after : List (Entry σ)}

/-- The first entry with the text is replaced. -/
theorem replaceFirst_append_cons
    (hbefore : ∀ e ∈ before, e.pattern.source ≠ entry.pattern.source)
    (hold : old.pattern.source = entry.pattern.source) :
    replaceFirst entry (before ++ old :: after) = before ++ entry :: after := by
  induction before with
  | nil => rw [List.nil_append, replaceFirst, if_pos hold, List.nil_append]
  | cons e before ih =>
    obtain ⟨he, hbefore⟩ := List.forall_mem_cons.1 hbefore
    rw [List.cons_append, replaceFirst, if_neg he, ih hbefore, List.cons_append]

/-- A text that a table has stands in it for the first time somewhere. -/
theorem exists_first_of_mem_patterns {text : Text} (h : text ∈ t.patterns) :
    ∃ before old after, t.entries = before ++ old :: after ∧ old.pattern.source = text ∧
      ∀ e ∈ before, e.pattern.source ≠ text := by
  obtain ⟨e, he, htext⟩ := List.mem_map.1 h
  obtain ⟨old, hfind⟩ : ∃ old, t.entries.find? (fun e => e.pattern.source = text) = some old :=
    Option.isSome_iff_exists.1 (List.find?_isSome.2 ⟨e, he, decide_eq_true htext⟩)
  obtain ⟨hold, before, after, hsplit, hbefore⟩ := List.find?_eq_some_iff_append.1 hfind
  exact ⟨before, old, after, hsplit, of_decide_eq_true hold,
    fun e he => by simpa using hbefore e he⟩

/-- Where a table has the text, the service is replaced and the rest stays. -/
theorem Coherent.entries_put_of_contains (h : t.Coherent)
    (hmem : entry.pattern.source ∈ t.patterns) :
    ∃ before service after, t.entries = before ++ ⟨entry.pattern, service⟩ :: after ∧
      (∀ e ∈ before, e.pattern.source ≠ entry.pattern.source) ∧
      (t.put entry).entries = before ++ entry :: after := by
  obtain ⟨before, ⟨p, service⟩, after, hsplit, hsource, hbefore⟩ :=
    exists_first_of_mem_patterns hmem
  obtain rfl : p = entry.pattern := Pattern.eq_of_source_eq hsource
  refine ⟨before, service, after, hsplit, hbefore, ?_⟩
  rw [MethodTable.put, if_pos ((h.mem_patterns_iff _).1 hmem), hsplit]
  exact replaceFirst_append_cons hbefore rfl

/-- Where it does not, the entry comes last. -/
theorem Coherent.entries_put_of_not_contains (h : t.Coherent)
    (hmem : entry.pattern.source ∉ t.patterns) : (t.put entry).entries = t.entries ++ [entry] := by
  rw [MethodTable.put, if_neg (mt (h.mem_patterns_iff _).2 hmem)]

theorem Coherent.mem_entries_put (h : t.Coherent) (entry : Entry σ) :
    entry ∈ (t.put entry).entries := by
  by_cases hmem : entry.pattern.source ∈ t.patterns
  · obtain ⟨before, -, after, -, -, hput⟩ := h.entries_put_of_contains hmem
    rw [hput]
    exact List.mem_append_right _ List.mem_cons_self
  · rw [h.entries_put_of_not_contains hmem]
    exact List.mem_append_right _ List.mem_cons_self

/-- To put an entry twice is to put it once. -/
theorem Coherent.put_put (h : t.Coherent) (entry : Entry σ) :
    (t.put entry).put entry = t.put entry := by
  have hcontains : (t.put entry).exact.contains entry.pattern.source = true := by
    rw [Dict.contains, MethodTable.put, Dict.get?_insert, if_pos rfl, Option.isSome_some]
  have hexact : (t.put entry).exact.insert entry.pattern.source entry = (t.put entry).exact :=
    Dict.insert_insert _ _ _ _
  have hentries : replaceFirst entry (t.put entry).entries = (t.put entry).entries := by
    by_cases hmem : entry.pattern.source ∈ t.patterns
    · obtain ⟨before, -, after, -, hbefore, hput⟩ := h.entries_put_of_contains hmem
      rw [hput, replaceFirst_append_cons hbefore rfl]
    · rw [h.entries_put_of_not_contains hmem]
      refine replaceFirst_append_cons (fun e he hsource => hmem ?_) rfl
      exact hsource ▸ List.mem_map_of_mem he
  rw [MethodTable.put, if_pos hcontains, hexact, hentries]

end MethodTable

/-! ## 2.  Runs of insertions -/

namespace Snapshot

variable {methods targets : List Method} {policy : DuplicatePolicy} {entry : Entry σ}
  {s s' : Snapshot σ}

/-- Inserting for several methods puts the entry into the table of each, however often a
method is listed. -/
theorem Coherent.table?_of_insertAll_eq (hs : s.Coherent methods)
    (h : s.insertAll policy entry targets = .ok s') (m : Method) :
    s'.table? m = if m ∈ targets then (s.table? m).map (·.put entry) else s.table? m := by
  induction targets generalizing s with
  | nil =>
    obtain rfl := foldlM_nil_eq_ok_iff.1 h
    rw [if_neg List.not_mem_nil]
  | cons first targets ih =>
    obtain ⟨mid, hmid, h⟩ := foldlM_cons_eq_ok_iff.1 h
    rw [ih (hs.insert hmid) h, table?_of_insert hmid]
    by_cases hfirst : first = m
    · subst hfirst
      rw [if_pos rfl, if_pos List.mem_cons_self]
      split
      · cases htable : s.table? first with
        | none => rfl
        | some table => exact congrArg some ((hs.tables first table htable).put_put entry)
      · rfl
    · have hmem : m ∈ first :: targets ↔ m ∈ targets := by
        rw [List.mem_cons, or_iff_right (Ne.symm hfirst)]
      simp only [if_neg hfirst, hmem]

/-- The texts for a method after a run of insertions. -/
theorem Coherent.patterns_of_insertAll (hs : s.Coherent methods)
    (htargets : ∀ m ∈ targets, m ∈ methods) (h : s.insertAll policy entry targets = .ok s')
    (m : Method) :
    s'.patterns m = if m ∈ targets ∧ entry.pattern.source ∉ s.patterns m then
      s.patterns m ++ [entry.pattern.source] else s.patterns m := by
  have htable' := hs.table?_of_insertAll_eq h m
  by_cases hm : m ∈ targets
  · obtain ⟨table, htable, hcoherent, hpatterns⟩ := hs.exists_table (htargets m hm)
    rw [if_pos hm, htable, Option.map_some] at htable'
    have hpatterns' : s'.patterns m = (table.put entry).patterns := by
      rw [patterns, htable']
      rfl
    rw [hpatterns', hpatterns]
    by_cases hmem : entry.pattern.source ∈ table.patterns
    · rw [if_neg fun h => h.2 hmem,
        MethodTable.patterns_put_of_contains ((hcoherent.mem_patterns_iff _).1 hmem)]
    · rw [if_pos ⟨hm, hmem⟩, MethodTable.patterns_put_of_not_contains
        (Bool.eq_false_iff.2 (mt (hcoherent.mem_patterns_iff _).2 hmem))]
  · rw [if_neg fun h => hm h.1, patterns, patterns, htable', if_neg hm]

/-- Counted over any list of methods, the texts get one more for each that is new. -/
theorem Coherent.length_patterns_of_insertAll (hs : s.Coherent methods)
    (htargets : ∀ m ∈ targets, m ∈ methods) (h : s.insertAll policy entry targets = .ok s')
    (ms : List Method) :
    (ms.flatMap s'.patterns).length = (ms.flatMap s.patterns).length +
      ms.countP fun m => m ∈ targets ∧ entry.pattern.source ∉ s.patterns m := by
  induction ms with
  | nil => rfl
  | cons m ms ih =>
    rw [List.flatMap_cons, List.flatMap_cons, List.length_append, List.length_append, ih,
      List.countP_cons, hs.patterns_of_insertAll htargets h]
    by_cases hnew : m ∈ targets ∧ entry.pattern.source ∉ s.patterns m
    · rw [if_pos hnew, if_pos (decide_eq_true hnew), List.length_append, List.length_singleton]
      omega
    · rw [if_neg hnew, if_neg (mt of_decide_eq_true hnew)]
      omega

/-- The number of registrations grows by the methods that got a new text. -/
theorem Coherent.size_of_insertAll (hs : s.Coherent methods)
    (htargets : ∀ m ∈ targets, m ∈ methods) (h : s.insertAll policy entry targets = .ok s') :
    s'.size = s.size +
      (targets.dedup.filter fun m => entry.pattern.source ∉ s.patterns m).length := by
  -- Every method is listed once among all of them, so each new one counts once.
  have hperm : (Method.all.filter fun m => m ∈ targets ∧ entry.pattern.source ∉ s.patterns m).Perm
      (targets.dedup.filter fun m => entry.pattern.source ∉ s.patterns m) := by
    refine (List.perm_ext_iff_of_nodup ((by decide : Method.all.Nodup).filter _)
      ((List.nodup_dedup targets).filter _)).2 fun m => ?_
    simp [Method.mem_all]
  rw [size, size, hs.length_patterns_of_insertAll htargets h, List.countP_eq_length_filter,
    hperm.length_eq]

end Snapshot

/-! ## 3.  Registrations -/

namespace Registry

variable {r r' : Registry σ} {item : Registration σ}

/-- **A registration replaces a service or stands at the end.**  In a reachable registry, a
method that is targeted keeps its list of texts if the new one is among them, and of its
entries only the one with that text has another service; otherwise the new entry comes last.
The tables of all other methods stay.  The number of registrations grows by the number of
methods that are targeted and did not have the text, each counted once.  For every targeted
method, the text is then answered by the new service and binds nothing.

Of the two policies, `replace` allows both cases, and `reject` the second one alone. -/
theorem register_replace_or_append (hr : r.Reachable) (h : r.register item = .ok r') :
    ∃ p, Pattern.parse item.pattern = .ok p ∧
      (∀ m ∈ r.targeted (item.method.map ([·])),
        (item.pattern ∈ r.patterns m → r'.patterns m = r.patterns m ∧
          ∃ before service after, r.entries m = before ++ ⟨p, service⟩ :: after ∧
            r'.entries m = before ++ ⟨p, item.service⟩ :: after) ∧
        (item.pattern ∉ r.patterns m → r'.patterns m = r.patterns m ++ [item.pattern] ∧
          r'.entries m = r.entries m ++ [⟨p, item.service⟩]) ∧
        r'.get? item.pattern m = some ⟨item.service, p, .resolved Dict.empty⟩) ∧
      (∀ m, m ∉ r.targeted (item.method.map ([·])) →
        r'.snapshot.table? m = r.snapshot.table? m) ∧
      r'.size = r.size + ((r.targeted (item.method.map ([·]))).dedup.filter fun m =>
        item.pattern ∉ r.patterns m).length := by
  have hs : r.snapshot.Coherent r.settings.methods := hr.coherent
  have hsupported := supported_of_register h
  obtain ⟨p, s, hparse, hinsert, rfl⟩ := exists_of_register h
  have hsource : p.source = item.pattern := Pattern.parse_eq_ok_iff.1 hparse
  refine ⟨p, hparse, ?_⟩
  rw [← hsource]
  refine ⟨fun m hm => ?_, fun m hm => Snapshot.table?_of_insertAll hm hinsert,
    hs.size_of_insertAll hsupported hinsert⟩
  obtain ⟨table, htable, hcoherent, hpatterns⟩ := hs.exists_table (hsupported m hm)
  have htable' := hs.table?_of_insertAll_eq hinsert m
  rw [if_pos hm, htable, Option.map_some] at htable'
  have htexts := hs.patterns_of_insertAll hsupported hinsert m
  let entry : Entry σ := ⟨p, item.service⟩
  have hentries : r.entries m = table.entries := entries_eq htable
  have hentries' : entries { r with snapshot := s } m = (table.put entry).entries :=
    entries_eq htable'
  rw [hentries, hentries']
  refine ⟨fun hmem => ⟨?_, ?_⟩, fun hmem => ⟨?_, ?_⟩, ?_⟩
  · exact htexts.trans (if_neg fun h => h.2 hmem)
  · have hmem' : entry.pattern.source ∈ table.patterns := hpatterns ▸ hmem
    obtain ⟨before, service, after, hsplit, -, hput⟩ := hcoherent.entries_put_of_contains hmem'
    exact ⟨before, service, after, hsplit, hput⟩
  · exact htexts.trans (if_pos ⟨hm, hmem⟩)
  · have hmem' : entry.pattern.source ∉ table.patterns := hpatterns ▸ hmem
    exact hcoherent.entries_put_of_not_contains hmem'
  · exact get?_source htable' (hcoherent.put entry) (hcoherent.mem_entries_put entry)

/-- The settings list a method twice, which has the text between two others; the other method
does not have it. -/
theorem register_replace_or_append_repeated :
    ∃ (r r' : Registry Nat) (p : Pattern), r.Reachable ∧ r.settings.duplicates = .replace ∧
      r.settings.methods = [.get, .get, .post] ∧
      r.patterns .get = ["/\x7bx\x7d".toList, "/b".toList, "/c".toList] ∧
      r.patterns .post = ["/\x7bx\x7d".toList] ∧
      r.register ⟨9, "/b".toList, none⟩ = .ok r' ∧ Pattern.parse "/b".toList = .ok p ∧
      r'.patterns .get = r.patterns .get ∧
      (∃ before service after, r.entries .get = before ++ ⟨p, service⟩ :: after ∧
        r'.entries .get = before ++ ⟨p, 9⟩ :: after) ∧
      r'.entries .post = r.entries .post ++ [⟨p, 9⟩] ∧
      r'.snapshot.table? .put = r.snapshot.table? .put ∧ r'.size = r.size + 1 ∧
      ∀ m ∈ [.get, .post], r'.get? "/b".toList m = some ⟨9, p, .resolved Dict.empty⟩ := by
  let r : Registry Nat := List.foldl Registry.after (ofSettings { methods := [.get, .get, .post] })
    [.register ⟨1, "/\x7bx\x7d".toList, none⟩, .register ⟨2, "/b".toList, some .get⟩,
      .register ⟨3, "/c".toList, some .get⟩, .register ⟨4, "/d".toList, some .put⟩]
  let item : Registration Nat := ⟨9, "/b".toList, none⟩
  have hr : r.Reachable := (Reachable.ofSettings _).foldl_after _
  obtain ⟨r', hr'⟩ : ∃ r', r.register item = .ok r' :=
    errorOf?_eq_none_iff.1 (by decide +kernel)
  obtain ⟨p, hparse, htargeted, hother, hsize⟩ := register_replace_or_append hr hr'
  have hget := htargeted .get (by decide +kernel)
  have hpost := htargeted .post (by decide +kernel)
  have hplace := hget.1 (by decide +kernel)
  have hnew : ((r.targeted (item.method.map ([·]))).dedup.filter fun m =>
      item.pattern ∉ r.patterns m).length = 1 := by decide +kernel
  rw [hnew] at hsize
  refine ⟨r, r', p, hr, by decide +kernel, by decide +kernel, by decide +kernel, by decide +kernel,
    hr', hparse, hplace.1, hplace.2, (hpost.2.1 (by decide +kernel)).2,
    hother .put (by decide +kernel), hsize, fun m hm => ?_⟩
  rcases List.mem_pair.1 hm with rfl | rfl
  · exact hget.2.2
  · exact hpost.2.2

end Registry
end UriRouting
