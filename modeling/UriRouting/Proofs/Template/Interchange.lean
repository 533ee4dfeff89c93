import UriRouting.Proofs.Template.Observation

/-!
# Parameters that no template tells apart

A caller may leave a parameter out or give it an empty text or an empty list, and a
single value may come alone or as a list of one.  Templates make no difference between
these: whether a variable has a value is decided once, before any operator sees it, and
what an operator sees of a value are its items.

* `Interchangeable` lists the cases, and `interchangeable_iff` says what they have in
  common.
* `expandTokens_interchangeable`: interchangeable parameters expand to one text, and the
  parameters of other names do not matter.
-/

namespace UriRouting

open Template (expandTokens)

/-- A parameter that counts as none: it is absent, an empty text or an empty list. -/
def IsUndefined (param : Option (OneOrMany Text)) : Prop :=
  param = none ∨ param = some (.one []) ∨ param = some (.many [])

/-- Two parameters that may stand for each other. -/
inductive Interchangeable : Option (OneOrMany Text) → Option (OneOrMany Text) → Prop where
  /-- A parameter and itself. -/
  | same (param : Option (OneOrMany Text)) : Interchangeable param param
  /-- Parameters that both count as none. -/
  | undefined {param param' : Option (OneOrMany Text)} (h : IsUndefined param)
      (h' : IsUndefined param') : Interchangeable param param'
  /-- A text that is not empty, and the list of it. -/
  | listed {s : Text} (hs : s ≠ []) : Interchangeable (some (.one s)) (some (.many [s]))
  /-- The list of a text that is not empty, and the text. -/
  | alone {s : Text} (hs : s ≠ []) : Interchangeable (some (.many [s])) (some (.one s))

/-- The items of a parameter, if it is defined. -/
def definedItems (param : Option (OneOrMany Text)) : Option (List Text) :=
  (param.filter OneOrMany.isDefined).map OneOrMany.items

theorem definedItems_eq_none_iff {param : Option (OneOrMany Text)} :
    definedItems param = none ↔ IsUndefined param := by
  rcases param with _ | s | ts <;> simp [definedItems, IsUndefined, OneOrMany.isDefined]

theorem definedItems_eq_some_iff {param : Option (OneOrMany Text)} {items : List Text} :
    definedItems param = some items ↔ items ≠ [] ∧
      (param = some (.many items) ∨ ∃ s, s ≠ [] ∧ param = some (.one s) ∧ items = [s]) := by
  rcases param with _ | s | ts
  · simp [definedItems]
  · have hdefined : (OneOrMany.one s).isDefined = true ↔ s ≠ [] := by simp [OneOrMany.isDefined]
    grind [definedItems, OneOrMany.items]
  · have hdefined : (OneOrMany.many ts).isDefined = true ↔ ts ≠ [] := by
      simp [OneOrMany.isDefined]
    grind [definedItems, OneOrMany.items]

/-- **What interchangeable parameters have in common**: either both count as none, or
both are defined and have the same items. -/
theorem interchangeable_iff {param param' : Option (OneOrMany Text)} :
    Interchangeable param param' ↔ definedItems param = definedItems param' := by
  constructor
  · intro h
    cases h with
    | same => rfl
    | undefined h h' =>
      rw [definedItems_eq_none_iff.2 h, definedItems_eq_none_iff.2 h']
    | @listed s hs =>
      have hlist : definedItems (some (.many [s])) = some [s] := rfl
      rw [hlist, definedItems_eq_some_iff]
      exact ⟨List.cons_ne_nil _ _, Or.inr ⟨s, hs, rfl, rfl⟩⟩
    | @alone s hs =>
      have hlist : definedItems (some (.many [s])) = some [s] := rfl
      rw [hlist, eq_comm, definedItems_eq_some_iff]
      exact ⟨List.cons_ne_nil _ _, Or.inr ⟨s, hs, rfl, rfl⟩⟩
  · intro h
    cases hitems : definedItems param' with
    | none =>
      rw [hitems] at h
      exact .undefined (definedItems_eq_none_iff.1 h) (definedItems_eq_none_iff.1 hitems)
    | some items =>
      rw [hitems] at h
      obtain ⟨-, rfl | ⟨s, hs, rfl, rfl⟩⟩ := definedItems_eq_some_iff.1 h
      · obtain ⟨-, rfl | ⟨s, hs, rfl, rfl⟩⟩ := definedItems_eq_some_iff.1 hitems
        · exact .same _
        · exact .alone hs
      · obtain ⟨-, rfl | ⟨s', -, rfl, hlist⟩⟩ := definedItems_eq_some_iff.1 hitems
        · exact .listed hs
        · obtain ⟨rfl, -⟩ := List.cons.inj hlist
          exact .same _

/-- **Interchangeable parameters expand to one text.**  If two parameters of every name
that occurs in a token sequence are interchangeable, the two expansions are the same; and
giving or taking a parameter of a name that does not occur changes neither. -/
theorem expandTokens_interchangeable {tokens : List Token} {params params' : Parameters}
    (h : ∀ v ∈ tokens.flatMap Token.vars,
      Interchangeable (params.get? v.name) (params'.get? v.name)) :
    expandTokens tokens params = expandTokens tokens params' ∧
      ∀ name, name ∉ (tokens.flatMap Token.vars).map Variable.name →
        (∀ value, expandTokens tokens (params.insert name value) = expandTokens tokens params') ∧
          expandTokens tokens (params.erase name) = expandTokens tokens params' := by
  -- Only what is read under the names that occur has an effect.
  have hread : ∀ given : Parameters,
      (∀ v ∈ tokens.flatMap Token.vars, given.get? v.name = params.get? v.name) →
        expandTokens tokens given = expandTokens tokens params' := by
    intro given hgiven
    refine expandTokens_congr_items fun v hv => Parameters.map_lookup ?_
    rw [hgiven v hv]
    exact interchangeable_iff.1 (h v hv)
  refine ⟨hread params fun _ _ => rfl, fun name hname => ?_⟩
  have hne : ∀ v ∈ tokens.flatMap Token.vars, name ≠ v.name := by
    rintro v hv rfl
    exact hname (List.mem_map_of_mem hv)
  refine ⟨fun value => hread _ fun v hv => ?_, hread _ fun v hv => ?_⟩
  · rw [Dict.get?_insert, if_neg (hne v hv)]
  · rw [Dict.get?_erase, if_neg (hne v hv)]

/-- A text and the list of it, and two ways to leave out a variable that has a default in
one place and none in another. -/
theorem expandTokens_interchangeable_mixed :
    ∃ (tokens : List Token) (params params' : Parameters),
      (∀ v ∈ tokens.flatMap Token.vars,
        Interchangeable (params.get? v.name) (params'.get? v.name)) ∧
      params.get? ['x'] = some (.one ['a', '/']) ∧
      params'.get? ['x'] = some (.many [['a', '/']]) ∧
      params.get? ['y'] = some (.one []) ∧ params'.get? ['y'] = some (.many []) ∧
      expandTokens tokens params = "a/a%2Fon?x=a%2F&y=d".toList ∧
      expandTokens tokens params' = "a/a%2Fon?x=a%2F&y=d".toList ∧
      expandTokens tokens (params.insert ['z'] (.one ['1'])) = "a/a%2Fon?x=a%2F&y=d".toList := by
  let x : Variable := ⟨['x'], none, none⟩
  let y : Variable := ⟨['y'], none, none⟩
  let tokens : List Token :=
    [.operator ⟨.reserved, [x]⟩, .operator ⟨.list [';'], [x]⟩, .operator ⟨.opt ['o'], [y]⟩,
      .operator ⟨.neg ['n'], [x]⟩,
      .operator ⟨.queryParameters, [x, ⟨['y'], some ['d'], none⟩]⟩]
  let params : Parameters := Dict.ofList [(['x'], .one ['a', '/']), (['y'], .one [])]
  let params' : Parameters := Dict.ofList [(['x'], .many [['a', '/']]), (['y'], .many [])]
  have hx : Interchangeable (params.get? ['x']) (params'.get? ['x']) :=
    .listed (List.cons_ne_nil _ _)
  have hy : Interchangeable (params.get? ['y']) (params'.get? ['y']) :=
    .undefined (Or.inr (Or.inl rfl)) (Or.inr (Or.inr rfl))
  have h : ∀ v ∈ tokens.flatMap Token.vars,
      Interchangeable (params.get? v.name) (params'.get? v.name) := by
    intro v hv
    have hnames : ∀ v ∈ tokens.flatMap Token.vars, v.name = ['x'] ∨ v.name = ['y'] := by decide
    rcases hnames v hv with hname | hname
    · rw [hname]
      exact hx
    · rw [hname]
      exact hy
  have htext : expandTokens tokens params' = "a/a%2Fon?x=a%2F&y=d".toList := by decide +kernel
  obtain ⟨hsame, hothers⟩ := expandTokens_interchangeable h
  refine ⟨tokens, params, params', h, rfl, rfl, rfl, rfl, hsame.trans htext, htext, ?_⟩
  exact ((hothers ['z'] (by decide)).1 (.one ['1'])).trans htext

/-- The list of an empty text cannot stand for the empty text, since it is defined. -/
example :
    let tokens : List Token := [.operator ⟨.suffixed ['.'], [⟨['x'], none, none⟩]⟩]
    expandTokens tokens (Dict.ofList [(['x'], .one [])]) = [] ∧
      expandTokens tokens (Dict.ofList [(['x'], .many [[]])]) = ['.'] := by
  decide

end UriRouting
