import UriRouting.Proofs.Pattern.Specificity
import UriRouting.Proofs.Registry.Coherence

/-!
# Looking up a text and matching it

A path that is the text of a registered pattern is answered without matching.  For a
pattern that is all literal, under the rule `best`, that is a shortcut: matching the path
would have given the same answer.

## 1.  Two ways to an answer

`Registry.chosen?` is the answer from matching alone.  `Registry.get?_source` is the one
from the text; it is about the only registration with that text
(`MethodTable.Coherent.eq_of_source_eq`).

## 2.  The shortcut

`Registry.shortcut_agrees`.  Two literal patterns that differ in the case of an escape
match the same paths with the same score, so the earlier one would answer for both: the
texts of such patterns are told apart by the lookup alone.
-/

namespace UriRouting

variable {σ : Type}

/-! ## 1.  Two ways to an answer -/

/-- A table has one entry for each text. -/
theorem MethodTable.Coherent.eq_of_source_eq {t : MethodTable σ} (h : t.Coherent) {e e' : Entry σ}
    (he : e ∈ t.entries) (he' : e' ∈ t.entries) (hsource : e.pattern.source = e'.pattern.source) :
    e = e' := by
  have hget := h.entry e he
  rw [hsource, h.entry e' he'] at hget
  exact (Option.some.inj hget).symm

/-- An entry has one place in a table. -/
theorem MethodTable.Coherent.index_eq {t : MethodTable σ} (h : t.Coherent) {e : Entry σ}
    {i j : Nat} (hi : t.entries[i]? = some e) (hj : t.entries[j]? = some e) : i = j := by
  have hpatterns : ∀ k : Nat, t.entries[k]? = some e → t.patterns[k]? = some e.pattern.source := by
    intro k hk
    rw [patterns, List.getElem?_map, hk]
    rfl
  obtain ⟨hlength, -⟩ := List.getElem?_eq_some_iff.1 (hpatterns i hi)
  exact (List.getElem?_inj hlength h.distinct).1 ((hpatterns i hi).trans (hpatterns j hj).symm)

/-- On its own text a literal pattern binds nothing. -/
theorem Pattern.IsLiteral.resolve_source {p : Pattern} (h : p.IsLiteral) (binder : Binder) :
    p.resolve binder p.source = .resolved Dict.empty := by
  rw [resolve, h.match?_source]
  rfl

namespace Registry

/-- The registrations for a method, in order. -/
def entries (r : Registry σ) (method : Method) : List (Entry σ) :=
  (r.snapshot.table? method).elim [] MethodTable.entries

/-- The answer for a path when only matching counts, and no text is looked up. -/
def chosen? (r : Registry σ) (path : Text) (method : Method) : Option (Dispatch σ) := do
  let table ← r.snapshot.table? method
  let entry ← Pattern.choose? Entry.pattern r.settings.rule path table.entries
  some ⟨entry.service, entry.pattern, entry.pattern.resolve r.binder path⟩

variable {r : Registry σ} {m : Method} {table : MethodTable σ} {e : Entry σ}

theorem entries_eq (htable : r.snapshot.table? m = some table) : r.entries m = table.entries := by
  rw [entries, htable]
  rfl

/-- A method with a registration has a table. -/
theorem exists_table_of_mem_entries (he : e ∈ r.entries m) :
    ∃ table, r.snapshot.table? m = some table ∧ e ∈ table.entries := by
  cases htable : r.snapshot.table? m with
  | none =>
    rw [entries, htable] at he
    cases he
  | some table => exact ⟨table, rfl, entries_eq htable ▸ he⟩

/-- The text of a registered pattern is answered by its registration. -/
theorem get?_source (htable : r.snapshot.table? m = some table) (hcoherent : table.Coherent)
    (he : e ∈ table.entries) :
    r.get? e.pattern.source m = some ⟨e.service, e.pattern, .resolved Dict.empty⟩ := by
  rw [get?, htable, Option.bind_eq_bind, Option.bind_some, hcoherent.entry e he]

/-! ## 2.  The shortcut -/

/-- **The shortcut agrees with matching.**  In a reachable registry with the rule `best`,
the text of a literal pattern is matched best by that pattern itself and by no other
registration, and resolving it binds nothing; so `get?` answers as it would by matching
alone.  No other literal pattern for the method may differ from this one just in the case
of escapes. -/
theorem shortcut_agrees (hr : r.Reachable) (hrule : r.settings.rule = .best) {i : Nat}
    (he : (r.entries m)[i]? = some e) (hliteral : e.pattern.IsLiteral)
    (hcase : ∀ other ∈ r.entries m, other.pattern.IsLiteral →
      SameLiteral e.pattern.source other.pattern.source →
      other.pattern.source = e.pattern.source) :
    Pattern.chosenIndex? r.settings.rule e.pattern.source ((r.entries m).map Entry.pattern) =
        some i ∧
      e.pattern.resolve r.binder e.pattern.source = .resolved Dict.empty ∧
      r.get? e.pattern.source m = some ⟨e.service, e.pattern, .resolved Dict.empty⟩ ∧
      r.chosen? e.pattern.source m = r.get? e.pattern.source m := by
  obtain ⟨table, htable, hmem⟩ := exists_table_of_mem_entries (List.mem_of_getElem? he)
  have hcoherent : table.Coherent := hr.coherent.tables m table htable
  rw [entries_eq htable] at he hcase ⊢
  have hresolve := hliteral.resolve_source r.binder
  have hget := get?_source htable hcoherent hmem
  -- Among the registrations, no other one competes.
  have honly : ∀ other ∈ table.entries, other.pattern.IsLiteral →
      SameLiteral other.pattern.source e.pattern.source → other = e := by
    intro other hother hother' hsame
    exact hcoherent.eq_of_source_eq hother hmem (hcase other hother hother' hsame.symm)
  refine ⟨?_, hresolve, hget, ?_⟩
  · have hi : (table.entries.map Entry.pattern)[i]? = some e.pattern := by
      rw [List.getElem?_map, he]
      rfl
    rw [hrule]
    refine hliteral.chosenIndex?_eq_some hi fun j q hj hq hsame => ?_
    rw [List.getElem?_map] at hj
    obtain ⟨other, hother, rfl⟩ := Option.map_eq_some_iff.1 hj
    obtain rfl := honly other (List.mem_of_getElem? hother) hq hsame
    exact hcoherent.index_eq hother he
  · have hchosen := hliteral.choose?_eq_some hmem honly
    rw [hget, chosen?, htable, Option.bind_eq_bind, Option.bind_some, hrule, hchosen]
    show some (Dispatch.mk e.service e.pattern (e.pattern.resolve r.binder e.pattern.source)) = _
    rw [hresolve]

/-- A literal pattern among others that match its text, one of which has more tokens and
as much literal text; its service was replaced. -/
theorem shortcut_agrees_amongOthers :
    ∃ (r : Registry Nat) (e : Entry Nat), r.Reachable ∧ r.settings.rule = .best ∧
      r.patterns .get = ["/\x7bx\x7d".toList, "/a%2fb*".toList, "/a%2fb".toList, "/c".toList] ∧
      (r.entries .get)[2]? = some e ∧ e.pattern.source = "/a%2fb".toList ∧ e.service = 5 ∧
      Pattern.chosenIndex? r.settings.rule e.pattern.source
        ((r.entries .get).map Entry.pattern) = some 2 ∧
      e.pattern.resolve r.binder e.pattern.source = .resolved Dict.empty ∧
      r.get? e.pattern.source .get = some ⟨e.service, e.pattern, .resolved Dict.empty⟩ ∧
      r.chosen? e.pattern.source .get = r.get? e.pattern.source .get := by
  let r : Registry Nat := List.foldl Registry.after (ofSettings {})
    [.register ⟨1, "/\x7bx\x7d".toList, none⟩, .register ⟨2, "/a%2fb*".toList, some .get⟩,
      .register ⟨3, "/a%2fb".toList, some .get⟩, .register ⟨4, "/c".toList, none⟩,
      .register ⟨5, "/a%2fb".toList, none⟩]
  have hr : r.Reachable := (Reachable.ofSettings _).foldl_after _
  let e : Entry Nat := (r.entries .get)[2]?.get (by decide +kernel)
  have he : (r.entries .get)[2]? = some e := (Option.some_get _).symm
  have hcase : ∀ other ∈ r.entries .get, other.pattern.IsLiteral →
      upperEscapes other.pattern.source = upperEscapes e.pattern.source →
      other.pattern.source = e.pattern.source := by decide +kernel
  have hrule : r.settings.rule = .best := by decide +kernel
  exact ⟨r, e, hr, hrule, by decide +kernel, he, by decide +kernel, by decide +kernel,
    shortcut_agrees hr hrule he (by decide +kernel) hcase⟩

/-- Of two patterns that differ in the case of an escape, matching alone takes the earlier
one for the text of either. -/
example :
    let r : Registry Nat := List.foldl Registry.after (ofSettings {})
      [.register ⟨1, "/%2f".toList, none⟩, .register ⟨2, "/%2F".toList, none⟩]
    (r.get? "/%2F".toList .get).map Dispatch.service = some 2 ∧
      (r.chosen? "/%2F".toList .get).map Dispatch.service = some 1 := by
  decide +kernel

end Registry
end UriRouting
