import UriRouting.Proofs.Pattern.Choice
import UriRouting.Proofs.Registry.Refusal

/-!
# Registrations that have nothing to do with each other

A registration may replace an entry or stand at the end, and all patterns for a method
compete for a path.  Still it changes only answers that it can give itself: those for its
text and for the paths that its pattern matches, and only for the methods that it targets.

## 1.  Tables

`MethodTable.answer?` is the answer of one table.  Among the entries that match a path,
nothing changes when one is put that does not match it
(`MethodTable.filter_isMatch_put`), be it at the end or in the place of another: that one
has the same text, so the same pattern.  Hence `MethodTable.answer?_put`.

## 2.  Runs of insertions

`Snapshot.answer?_of_insertAll` and `Snapshot.table?_of_insertAll`: the first keeps the
answer for a path in every table, the second a table with all its answers.

## 3.  Registrations

`Registry.register_noninterference` is about one registration, and
`Registry.get?_foldl_register` about any number of them, failed ones included.
-/

namespace UriRouting

variable {σ : Type}

/-! ## 1.  Tables -/

namespace MethodTable

variable {t : MethodTable σ} {entry : Entry σ} {rule : MatchRule} {binder : Binder} {path : Text}

/-- The answer of a table for a path. -/
def answer? (rule : MatchRule) (binder : Binder) (path : Text) (t : MethodTable σ) :
    Option (Dispatch σ) :=
  match t.exact.get? path with
  | some entry => some ⟨entry.service, entry.pattern, .resolved Dict.empty⟩
  | none => do
      let entry ← Pattern.choose? Entry.pattern rule path t.entries
      some ⟨entry.service, entry.pattern, entry.pattern.resolve binder path⟩

/-- The entry that is replaced has the text of the new one, so it matches no more than that
one does. -/
theorem filter_isMatch_replaceFirst (h : entry.pattern.isMatch path = false)
    (entries : List (Entry σ)) :
    (replaceFirst entry entries).filter (fun e => e.pattern.isMatch path) =
      entries.filter fun e => e.pattern.isMatch path := by
  induction entries with
  | nil => rfl
  | cons e entries ih =>
    rw [replaceFirst]
    split
    · rename_i hsource
      have hold : e.pattern.isMatch path = false := by rw [Pattern.eq_of_source_eq hsource, h]
      rw [List.filter_cons, List.filter_cons, h, hold]
      rfl
    · rw [List.filter_cons, List.filter_cons, ih]

/-- Putting an entry that does not match leaves the entries that do. -/
theorem filter_isMatch_put (h : entry.pattern.isMatch path = false) :
    (t.put entry).entries.filter (fun e => e.pattern.isMatch path) =
      t.entries.filter fun e => e.pattern.isMatch path := by
  unfold put
  split
  · exact filter_isMatch_replaceFirst h t.entries
  · have hlast : [entry].filter (fun e => e.pattern.isMatch path) = [] := by
      rw [List.filter_cons, h]
      rfl
    rw [List.filter_append, hlast, List.append_nil]

/-- **A pattern that does not match a path has no part in the answer for it**, unless the
path is its text. -/
theorem answer?_put (hpath : path ≠ entry.pattern.source)
    (h : entry.pattern.isMatch path = false) :
    (t.put entry).answer? rule binder path = t.answer? rule binder path := by
  have hexact : (t.put entry).exact.get? path = t.exact.get? path := by
    show (t.exact.insert entry.pattern.source entry).get? path = t.exact.get? path
    rw [Dict.get?_insert, if_neg hpath.symm]
  have hchosen : Pattern.choose? Entry.pattern rule path (t.put entry).entries =
      Pattern.choose? Entry.pattern rule path t.entries := by
    rw [← Pattern.choose?_filter_isMatch, filter_isMatch_put h, Pattern.choose?_filter_isMatch]
  rw [answer?, hexact, hchosen]
  rfl

end MethodTable

/-! ## 2.  Runs of insertions -/

namespace Snapshot

variable {policy : DuplicatePolicy} {entry : Entry σ} {s s' : Snapshot σ} {targets : List Method}
  {m : Method}

/-- Inserting for several methods keeps what the pattern does not match. -/
theorem answer?_of_insertAll {rule : MatchRule} {binder : Binder} {path : Text}
    (hpath : path ≠ entry.pattern.source) (hmatch : entry.pattern.isMatch path = false)
    (h : s.insertAll policy entry targets = .ok s') :
    (s'.table? m).bind (MethodTable.answer? rule binder path) =
      (s.table? m).bind (MethodTable.answer? rule binder path) := by
  let SameAnswer : Snapshot σ → Prop := fun next =>
    (next.table? m).bind (MethodTable.answer? rule binder path) =
      (s.table? m).bind (MethodTable.answer? rule binder path)
  refine foldlM_invariant (P := SameAnswer) (fun mid target next hmid hinsert => ?_) rfl h
  show (next.table? m).bind (MethodTable.answer? rule binder path) = _
  rw [← hmid, table?_of_insert hinsert]
  split
  · cases mid.table? m with
    | none => rfl
    | some table => exact MethodTable.answer?_put hpath hmatch
  · rfl

/-- Inserting for several methods keeps the tables of the others. -/
theorem table?_of_insertAll (hm : m ∉ targets) (h : s.insertAll policy entry targets = .ok s') :
    s'.table? m = s.table? m := by
  induction targets generalizing s with
  | nil =>
    obtain rfl := foldlM_nil_eq_ok_iff.1 h
    rfl
  | cons first targets ih =>
    obtain ⟨hfirst, hrest⟩ := not_or.1 (mt List.mem_cons.2 hm)
    obtain ⟨mid, hmid, h⟩ := foldlM_cons_eq_ok_iff.1 h
    rw [ih hrest h, table?_of_insert hmid, if_neg (Ne.symm hfirst)]

end Snapshot

/-! ## 3.  Registrations -/

namespace Registry

variable {r r' : Registry σ} {item : Registration σ} {path : Text} {m : Method}

theorem get?_eq_bind_answer? (r : Registry σ) (path : Text) (m : Method) :
    r.get? path m =
      (r.snapshot.table? m).bind (MethodTable.answer? r.settings.rule r.binder path) := rfl

/-- A successful registration inserts a readable pattern for the targeted methods; settings
and binder stay. -/
theorem exists_of_register (h : r.register item = .ok r') :
    ∃ p s, Pattern.parse item.pattern = .ok p ∧
      r.snapshot.insertAll r.settings.duplicates ⟨p, item.service⟩
        (r.targeted (item.method.map ([·]))) = .ok s ∧ r' = { r with snapshot := s } := by
  obtain ⟨s, hstage, rfl⟩ := register_eq_ok_iff.1 h
  obtain ⟨targets, htargets, hstage⟩ := except_bind_eq_ok_iff.1 hstage
  obtain ⟨p, hparse, hinsert⟩ := stage_eq_ok_iff.1 hstage
  obtain ⟨rfl, -⟩ := targets_eq_ok_iff.1 htargets
  exact ⟨p, s, hparse, hinsert, rfl⟩

theorem supported_of_register (h : r.register item = .ok r') :
    ∀ m ∈ r.targeted (item.method.map ([·])), m ∈ r.settings.methods := by
  obtain ⟨s, hstage, -⟩ := register_eq_ok_iff.1 h
  obtain ⟨targets, htargets, -⟩ := except_bind_eq_ok_iff.1 hstage
  obtain ⟨rfl, hsupported⟩ := targets_eq_ok_iff.1 htargets
  exact hsupported

/-- The answer for a path stays when the path is not the text and the pattern does not match
it. -/
theorem get?_of_register (h : r.register item = .ok r') (hpath : path ≠ item.pattern)
    (hmatch : ∀ p, Pattern.parse item.pattern = .ok p → p.isMatch path = false) (m : Method) :
    r'.get? path m = r.get? path m := by
  obtain ⟨p, s, hparse, hinsert, rfl⟩ := exists_of_register h
  have hsource : p.source = item.pattern := Pattern.parse_eq_ok_iff.1 hparse
  rw [get?_eq_bind_answer?, get?_eq_bind_answer?]
  exact Snapshot.answer?_of_insertAll (hsource.symm ▸ hpath) (hmatch p hparse) hinsert

/-- **Registrations do not interfere.**  A successful registration keeps the answer for
every path that is not its text and that its pattern does not match, whatever the method;
and every answer for a method that it does not target.  This holds under either match rule
and either duplicate policy. -/
theorem register_noninterference (h : r.register item = .ok r') :
    (∃ p, Pattern.parse item.pattern = .ok p ∧ ∀ path, path ≠ item.pattern →
      p.isMatch path = false → ∀ m, r'.get? path m = r.get? path m) ∧
    ∀ m, m ∉ r.targeted (item.method.map ([·])) → ∀ path, r'.get? path m = r.get? path m := by
  obtain ⟨p, s, hparse, hinsert, hr'⟩ := exists_of_register h
  constructor
  · refine ⟨p, hparse, fun path hpath hmatch m => get?_of_register h hpath ?_ m⟩
    intro q hq
    obtain rfl := Except.ok.inj (hparse.symm.trans hq)
    exact hmatch
  · intro m hm path
    subst hr'
    rw [get?_eq_bind_answer?, get?_eq_bind_answer?]
    show (s.table? m).bind _ = (r.snapshot.table? m).bind _
    rw [Snapshot.table?_of_insertAll hm hinsert]

/-- A service is replaced in the middle of the list, between two patterns that match the
path, and its pattern would match another path for every method. -/
theorem register_noninterference_replaced :
    ∃ r r' : Registry Nat, r.Reachable ∧ r.settings.rule = .best ∧
      r.patterns .get = ["/\x7bx\x7d".toList, "/a*".toList, "/*b".toList] ∧
      r.register ⟨4, "/a*".toList, some .get⟩ = .ok r' ∧
      (r.get? "/xb".toList .get).map Dispatch.service = some 3 ∧
      r'.get? "/xb".toList .get = r.get? "/xb".toList .get ∧
      (r.get? "/ab".toList .post).map Dispatch.service = some 2 ∧
      r'.get? "/ab".toList .post = r.get? "/ab".toList .post := by
  let r : Registry Nat := List.foldl Registry.after (ofSettings {})
    [.register ⟨1, "/\x7bx\x7d".toList, none⟩, .register ⟨2, "/a*".toList, none⟩,
      .register ⟨3, "/*b".toList, none⟩]
  let item : Registration Nat := ⟨4, "/a*".toList, some .get⟩
  have hr : r.Reachable := (Reachable.ofSettings _).foldl_after _
  have hrule : r.settings.rule = .best := by decide +kernel
  obtain ⟨r', hr'⟩ : ∃ r', r.register item = .ok r' :=
    errorOf?_eq_none_iff.1 (by decide +kernel)
  obtain ⟨⟨p, hparse, hget⟩, hpost⟩ := register_noninterference hr'
  have hmatch : p.isMatch "/xb".toList = false := by
    let q : Pattern := ⟨⟨"/a*".toList, [.literal "/a".toList, .wildcard], by rfl⟩⟩
    rw [Pattern.eq_of_source_eq (q := q) (Pattern.parse_eq_ok_iff.1 hparse)]
    decide +kernel
  refine ⟨r, r', hr, hrule, by decide +kernel, hr', by decide +kernel,
    hget _ (by decide) hmatch .get, by decide +kernel, hpost .post (by decide +kernel) _⟩

/-- Any number of registrations, of which some may fail, keep the answer for a path that
none of them has as its text or matches. -/
theorem get?_foldl_register {items : List (Registration σ)}
    (h : ∀ item ∈ items, path ≠ item.pattern ∧
      ∀ p, Pattern.parse item.pattern = .ok p → p.isMatch path = false) (m : Method) :
    ((items.map Change.register).foldl Registry.after r).get? path m = r.get? path m := by
  induction items generalizing r with
  | nil => rfl
  | cons item items ih =>
    obtain ⟨⟨hpath, hmatch⟩, hitems⟩ := List.forall_mem_cons.1 h
    rw [List.map_cons, List.foldl_cons, ih hitems]
    unfold after apply
    split
    · rename_i r' hr'
      exact get?_of_register hr' hpath hmatch m
    · rfl

end Registry
end UriRouting
