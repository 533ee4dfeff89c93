import UriRouting.Proofs.Binding.ReservedRun
import UriRouting.Proofs.Pattern.JoinedGroups

/-!
# Resolving groups with a separator of their own

A text that consists of literals and of groups `name=value` behind them is resolved
against a pattern of these literals and the operator `join`.  A value is not searched for
the separator, so this works only with separators that show.

## 1.  Groups

`NamedGroups`: the groups that such a text may have, in any order, and `groupText` for
what each of them looks like.

## 2.  What is bound

`get?_bindAll_groups`: the captures of distinct names are bound each to its own value.

## 3.  Resolving

`match?_joined` gives the captures if every separator shows, and `match?_joined_eq_none`
says that nothing matches otherwise.  `resolve_joined_iff` puts the two together.
-/

namespace UriRouting

open Template (pair)

/-! ## 1.  Groups -/

/-- Values for some of the given variables: each variable is untyped and no name occurs
twice. -/
structure NamedGroups (vs : List Variable) (groups : List (Variable × Text)) : Prop where
  /-- The variables are given ones. -/
  mem : ∀ g ∈ groups, g.1 ∈ vs
  /-- No two groups have the same name. -/
  names : (groups.map fun g => g.1.name).Nodup
  /-- No variable has a type tag. -/
  untyped : ∀ g ∈ groups, g.1.kind = none

/-- A group as it is written. -/
def groupText (g : Variable × Text) : Text := g.1.name ++ '=' :: Percent.encode g.2

/-- The capture of a group. -/
def groupCapture (g : Variable × Text) : Capture := ⟨g.1, .one (Percent.encode g.2)⟩

/-- A group is a variable with a single value. -/
def groupEntry (g : Variable × Text) : Variable × OneOrMany Text := (g.1, .one g.2)

theorem pair_groupEntry (g : Variable × Text) : pair (groupEntry g) = groupText g := by
  show g.1.name ++ '=' :: Template.joinItems Percent.encode (.one g.2) = _
  rw [joinItems_one, groupText]

theorem NamedGroups.groups {vs : List Variable} {groups : List (Variable × Text)}
    (h : NamedGroups vs groups) {op : Operator} (hop : op.WellFormed) (hvars : op.vars = vs) :
    ∀ e ∈ groups.map groupEntry, op.Groups e := by
  intro e he
  obtain ⟨g, hg, rfl⟩ := List.mem_map.1 he
  have hmem : g.1 ∈ op.vars := hvars ▸ h.mem g hg
  exact ⟨Operator.found_of_mem hop.distinct hmem, (hop.vars _ hmem).name,
    List.cons_ne_nil _ _⟩

/-! ## 2.  What is bound -/

/-- **The values of groups with distinct names are bound, and nothing else.** -/
theorem get?_bindAll_groups (binder : Binder) {groups : List (Variable × Text)}
    (hnames : (groups.map fun g => g.1.name).Nodup) (huntyped : ∀ g ∈ groups, g.1.kind = none) :
    (∀ g ∈ groups, (binder.bindAll (groups.map groupCapture) Dict.empty).get? g.1.name =
      some (.one (.text g.2))) ∧
      ∀ name, name ∉ groups.map (fun g => g.1.name) →
        (binder.bindAll (groups.map groupCapture) Dict.empty).get? name = none := by
  induction groups with
  | nil =>
    refine ⟨fun g hg => ?_, fun name _ => rfl⟩
    exact absurd hg List.not_mem_nil
  | cons group groups ih =>
    rw [List.map_cons, List.nodup_cons] at hnames
    obtain ⟨hkind, huntyped⟩ := List.forall_mem_cons.1 huntyped
    obtain ⟨hbound, hunbound⟩ := ih hnames.2 huntyped
    have hbind : binder.bindCapture (groupCapture group) = some (.one (.text group.2)) :=
      binder.bindCapture_one hkind (Percent.decode_encode group.2)
    rw [List.map_cons, Binder.bindAll_cons_of_some hbind]
    refine ⟨fun g hg => ?_, fun name hname => ?_⟩
    · rw [Binder.get?_bindAll_or, Dict.get?_insert]
      rcases List.mem_cons.1 hg with rfl | hg
      · rw [hunbound g.1.name hnames.1, Option.none_or]
        exact if_pos rfl
      · rw [hbound g hg]
        rfl
    · rw [List.map_cons, List.mem_cons, not_or] at hname
      rw [Binder.get?_bindAll_or, Dict.get?_insert, hunbound name hname.2, Option.none_or]
      exact if_neg (Ne.symm hname.1)

/-! ## 3.  Resolving -/

section Resolving

variable {p : Pattern} {lits : List Text} {sep : Text} {vs : List Variable}
  {groups : List (Variable × Text)}

/-- The text of groups, the first of which has no separator before it. -/
theorem joined_groupText (g : Variable × Text) (gs : List (Variable × Text)) :
    Text.joined sep ((g :: gs).map groupText) =
      Text.joined sep ((groupEntry g :: gs.map groupEntry).map pair) := by
  rw [← List.map_cons, List.map_map]
  exact congrArg _ (List.map_congr_left fun g _ => (pair_groupEntry g).symm)

/-- If every separator shows, all groups are captured. -/
theorem match?_joined
    (htokens : p.tokens = lits.map .literal ++ [.operator ⟨.join sep, vs⟩]) (hsep : sep ≠ [])
    (hne : groups ≠ []) (hgroups : NamedGroups vs groups)
    (hshows : ∀ g ∈ groups.tail, valueRun (sep ++ groupText g) = 0) :
    ∃ m, p.match? (lits.flatten ++ Text.joined sep (groups.map groupText)) = some m ∧
      m.captures = groups.map groupCapture := by
  obtain ⟨g, gs, rfl⟩ := List.exists_cons_of_ne_nil hne
  have hentries := hgroups.groups (Template.wellFormed_of_tokens_eq htokens) rfl
  rw [List.map_cons] at hentries
  obtain ⟨hentry, hentries⟩ := List.forall_mem_cons.1 hentries
  have hshows' : ∀ e ∈ gs.map groupEntry, valueRun (sep ++ pair e) = 0 := by
    intro e he
    obtain ⟨g', hg', rfl⟩ := List.mem_map.1 he
    rw [pair_groupEntry]
    exact hshows g' hg'
  obtain ⟨hstop, hloop⟩ := repeatedly_joined hsep hentries hshows'
  have htake := takePairs_joined sep (gs.map groupEntry) hentry
  rw [hstop, List.take_zero, List.append_nil, List.drop_zero, hloop,
    ofCommaSeparated_joinItems hentry.items_ne_nil] at htake
  refine ⟨_, ?_, captures_foldr_withLiteral lits ⟨(g :: gs).map groupCapture, 0⟩⟩
  rw [Pattern.match?_literals_append htokens rfl, joined_groupText, walk_join, htake, if_pos rfl,
    Option.map_some, List.map_map]
  rfl

/-- If some separator does not show, nothing matches. -/
theorem match?_joined_eq_none
    (htokens : p.tokens = lits.map .literal ++ [.operator ⟨.join sep, vs⟩]) (hsep : sep ≠ [])
    (hgroups : NamedGroups vs groups)
    (hhidden : ∃ g ∈ groups.tail, valueRun (sep ++ groupText g) ≠ 0) :
    p.match? (lits.flatten ++ Text.joined sep (groups.map groupText)) = none := by
  obtain ⟨hidden, hmem, hhidden⟩ := hhidden
  obtain ⟨g, gs, rfl⟩ := List.exists_cons_of_ne_nil
    (List.ne_nil_of_mem (List.mem_of_mem_tail hmem))
  have hentries := hgroups.groups (Template.wellFormed_of_tokens_eq htokens) rfl
  rw [List.map_cons] at hentries
  obtain ⟨hentry, hentries⟩ := List.forall_mem_cons.1 hentries
  have hleft := repeatedly_joined_ne_nil hsep hentries
    ⟨groupEntry hidden, List.mem_map_of_mem hmem, by rwa [pair_groupEntry]⟩
  rw [Pattern.match?_literals_append htokens rfl, joined_groupText, walk_join,
    takePairs_joined sep _ hentry, if_neg hleft]
  rfl

end Resolving

/-- **Groups are told apart exactly if every separator shows**, that is, if no character
of it would be read on as a part of the value before it.  Then every group is bound, and
nothing else. -/
theorem resolve_joined_iff {p : Pattern} {lits : List Text} {sep : Text} {vs : List Variable}
    (htokens : p.tokens = lits.map .literal ++ [.operator ⟨.join sep, vs⟩]) (hsep : sep ≠ [])
    {groups : List (Variable × Text)} (hne : groups ≠ []) (hgroups : NamedGroups vs groups)
    (binder : Binder) :
    (∃ bindings, p.resolve binder (lits.flatten ++ Text.joined sep (groups.map groupText)) =
        .resolved bindings ∧
      (∀ g ∈ groups, bindings.get? g.1.name = some (.one (.text g.2))) ∧
      ∀ name, name ∉ groups.map (fun g => g.1.name) → bindings.get? name = none) ↔
    ∀ g ∈ groups.tail, CharClass.unreservedList.run (sep ++ groupText g) = 0 := by
  constructor
  · rintro ⟨bindings, hresolve, -⟩
    by_contra hhidden
    rw [not_forall₂] at hhidden
    obtain ⟨g, hg, hhidden⟩ := hhidden
    rw [Pattern.resolve, match?_joined_eq_none htokens hsep hgroups ⟨g, hg, hhidden⟩] at hresolve
    cases hresolve
  · intro hshows
    obtain ⟨m, hmatch, hcaptures⟩ := match?_joined htokens hsep hne hgroups hshows
    refine ⟨_, Pattern.resolve_of_match? hmatch binder, ?_⟩
    rw [hcaptures]
    exact get?_bindAll_groups binder hgroups.names hgroups.untyped

/-- Three groups, not in the order of the variables, with a comma, a space and a letter of
two bytes in their values. -/
theorem resolve_joined_iff_ampersand :
    ∃ (p : Pattern) (vs : List Variable) (groups : List (Variable × Text)) (bindings : Bindings),
      p.source = "/s?{-join|&|q,page,lang,x}".toList ∧
        p.tokens = [['/', 's', '?']].map .literal ++ [.operator ⟨.join ['&'], vs⟩] ∧
        NamedGroups vs groups ∧
        p.resolve Binder.standard "/s?page=2&lang=%C3%A9%2C%20z&q=a".toList =
          .resolved bindings ∧
        bindings.get? ['p', 'a', 'g', 'e'] = some (.one (.text ['2'])) ∧
        bindings.get? ['l', 'a', 'n', 'g'] = some (.one (.text ['é', ',', ' ', 'z'])) ∧
        bindings.get? ['q'] = some (.one (.text ['a'])) ∧
        bindings.get? ['x'] = none := by
  let page : Variable := ⟨['p', 'a', 'g', 'e'], none, none⟩
  let lang : Variable := ⟨['l', 'a', 'n', 'g'], none, none⟩
  let q : Variable := ⟨['q'], none, none⟩
  let vs : List Variable := [q, page, lang, ⟨['x'], none, none⟩]
  let p : Pattern := ⟨"/s?{-join|&|q,page,lang,x}".toList,
    [.literal ['/', 's', '?'], .operator ⟨.join ['&'], vs⟩], by rfl⟩
  let groups : List (Variable × Text) :=
    [(page, ['2']), (lang, ['é', ',', ' ', 'z']), (q, ['a'])]
  have htokens : p.tokens = [['/', 's', '?']].map .literal ++ [.operator ⟨.join ['&'], vs⟩] := rfl
  have hgroups : NamedGroups vs groups := ⟨by decide, by decide, by decide⟩
  have htext : [['/', 's', '?']].flatten ++ Text.joined ['&'] (groups.map groupText) =
      "/s?page=2&lang=%C3%A9%2C%20z&q=a".toList := by decide +kernel
  obtain ⟨bindings, hresolve, hbound, hunbound⟩ :=
    (resolve_joined_iff htokens (by decide) (by decide) hgroups Binder.standard).2
      (by decide +kernel)
  rw [htext] at hresolve
  exact ⟨p, vs, groups, bindings, rfl, htokens, hgroups, hresolve,
    hbound (page, ['2']) (by decide), hbound (lang, ['é', ',', ' ', 'z']) (by decide),
    hbound (q, ['a']) (by decide), hunbound ['x'] (by decide)⟩

/-- Groups that a template has written with a hyphen between them are not read back: the
hyphen, which occurs in no name and in no value, is read on as a part of the first
value. -/
theorem exists_match?_joined_hyphen :
    ∃ (t : Template) (vs : List Variable) (groups : List (Variable × Text)) (params : Parameters),
      t.source = "{-join|-|a,b}".toList ∧ t.tokens = [.operator ⟨.join ['-'], vs⟩] ∧
        groups ≠ [] ∧ NamedGroups vs groups ∧
        (∀ g ∈ groups, '-' ∉ g.1.name ∧ '-' ∉ Percent.encode g.2 ∧ g.2 ≠ []) ∧
        (∀ g ∈ groups, params.lookup g.1 = some (.one g.2)) ∧
        Text.joined ['-'] (groups.map groupText) = "a=1-b=2".toList ∧
        t.expand params = "a=1-b=2".toList ∧
        (Pattern.mk t).match? "a=1-b=2".toList = none ∧
        ∀ binder, (Pattern.mk t).resolve binder "a=1-b=2".toList = .unresolved := by
  let a : Variable := ⟨['a'], none, none⟩
  let b : Variable := ⟨['b'], none, none⟩
  let t : Template := ⟨"{-join|-|a,b}".toList, [.operator ⟨.join ['-'], [a, b]⟩], by rfl⟩
  let groups : List (Variable × Text) := [(a, ['1']), (b, ['2'])]
  let params : Parameters := Dict.ofList [(['a'], .one ['1']), (['b'], .one ['2'])]
  have hmatch : (Pattern.mk t).match? "a=1-b=2".toList = none := by decide +kernel
  have hlookup : ∀ g ∈ groups, params.lookup g.1 = some (.one g.2) := by decide +kernel
  refine ⟨t, [a, b], groups, params, rfl, rfl, by decide, ⟨by decide, by decide, by decide⟩,
    by decide +kernel, hlookup, by decide +kernel, by decide +kernel, hmatch,
    fun binder => ?_⟩
  rw [Pattern.resolve, hmatch]

end UriRouting
