import UriRouting.Proofs.Binding.RoundTrip
import UriRouting.Proofs.Pattern.ReservedRun

/-!
# Resolving a run of delimiters

The operator `+` writes a text with its delimiters, and the operators `;` and `?` behind
it write delimiters of their own.  This file says when resolving tells the two apart.

## 1.  Templates with a run

`Template.IsRun`: literals, the operator `+` with one variable, and operators `;` and `?`.
`Template.IsRun.resolve_of_walk` reduces resolving what such a template expands to to the
walk from the run on.

## 2.  What is bound

`Bindings.Restores`: the bindings give back the values that were written, and nothing
else.  `restores_bindAll_run` proves it of the captures of a run and of the operators
behind it.

## 3.  The round trip

Behind the run stands one operator at most (`resolve_expand_run`), or `;` and then `?`
(`resolve_expand_run_iff`).  In the second case the boundary of the run is `;` alone, so a
query is told apart from the run only if a path parameter stands in between.
-/

namespace UriRouting

open CharClass (Units)
open Template (expandTokens expandOperator)

/-! ## 1.  Templates with a run -/

/-- A template that is literals, a run with one variable, and operators `;` and `?` behind
it, with distinct and untyped variables. -/
structure Template.IsRun (t : Template) (lits : List Text) (p : Variable) (ops : List Operator) :
    Prop where
  /-- The literals, the run and the operators are the tokens. -/
  tokens : t.tokens = lits.map .literal ++ .operator ⟨.reserved, [p]⟩ :: ops.map .operator
  /-- The operators behind the run are some of `;` and `?`, in this order. -/
  forms : (ops.map Operator.form).Sublist boundingForms
  /-- No two variables have the same name. -/
  names : (t.vars.map Variable.name).Nodup
  /-- No variable has a type tag. -/
  untyped : ∀ v ∈ t.vars, v.kind = none

/-- Literals are taken where they were written, and nothing is captured in them. -/
theorem exists_walk_literals (lits : List Text) {tokens : List Token} {text : Text} {m : Match}
    (h : walk tokens text = some m) (params : Parameters) :
    ∃ m', walk (lits.map .literal ++ tokens)
        (expandTokens (lits.map .literal) params ++ text) = some m' ∧ m'.captures = m.captures := by
  have htext : expandTokens (lits.map .literal) params = lits.flatten :=
    (List.flatMap_map _ _ lits).trans List.flatMap_id
  refine ⟨lits.foldr Match.withLiteral m, ?_, captures_foldr_withLiteral lits m⟩
  rw [htext, walk_literals_append, h, Option.map_some]

theorem flatMap_vars_literals (lits : List Text) :
    (lits.map Token.literal).flatMap Token.vars = [] := by
  induction lits with
  | nil => rfl
  | cons lit lits ih => exact ih

/-- A run with one text writes the text with its delimiters. -/
theorem expandOperator_run {params : Parameters} {p : Variable} {s : Text}
    (h : params.lookup p = some (.one s)) :
    expandOperator ⟨.reserved, [p]⟩ params = Percent.encodeReserved s := by
  show Text.joined [',']
    ((params.defined [p]).map fun entry =>
      Template.joinItems Percent.encodeReserved entry.2) = _
  rw [Parameters.defined_singleton h]
  exact (Text.joined_singleton _ _).trans (Text.joined_singleton _ _)

namespace Template

variable {t : Template} {lits : List Text} {p : Variable} {ops : List Operator}

theorem IsRun.vars (h : t.IsRun lits p ops) :
    t.vars = p :: (ops.map Token.operator).flatMap Token.vars := by
  rw [Template.vars, h.tokens, List.flatMap_append, flatMap_vars_literals]
  rfl

theorem IsRun.form_mem (h : t.IsRun lits p ops) : ∀ op ∈ ops, op.form ∈ boundingForms :=
  fun _ hop => h.forms.subset (List.mem_map_of_mem hop)

theorem IsRun.form_mem_pathForms (h : t.IsRun lits p ops) : ∀ op ∈ ops, op.form ∈ pathForms :=
  fun op hop => mem_pathForms_of_mem_boundingForms (h.form_mem op hop)

theorem IsRun.fits (h : t.IsRun lits p ops) (params : Parameters) :
    ∀ op ∈ ops, op.Fits params := by
  intro op hop
  have hmem : Token.operator op ∈ t.tokens := by
    rw [h.tokens]
    exact List.mem_append_right _ (List.mem_cons_of_mem _ (List.mem_map_of_mem hop))
  refine fits_of_mem hmem fun hform => ?_
  rcases mem_boundingForms.1 (h.form_mem op hop) with hbounds | hbounds
  · cases hform.symm.trans hbounds
  · cases hform.symm.trans hbounds

/-- No two greedy tokens stand side by side. -/
theorem IsRun.unambiguous (h : t.IsRun lits p ops) : (Pattern.mk t).isAmbiguous = false := by
  rw [Pattern.isAmbiguous, Pattern.tokens, h.tokens]
  refine hasGreedyNeighbours_literals lits (hasGreedyNeighbours_cons_iff.2
    ⟨fun _ next hnext => ?_, hasGreedyNeighbours_operators h.form_mem_pathForms⟩)
  rw [List.head?_map] at hnext
  obtain ⟨op, hop, rfl⟩ := Option.map_eq_some_iff.1 hnext
  exact isGreedy_of_mem_pathForms (h.form_mem_pathForms op (List.mem_of_head? hop))

/-- **What the walk takes from the run on is what is bound.** -/
theorem IsRun.resolve_of_walk (h : t.IsRun lits p ops) {params : Parameters} {s : Text}
    (hlookup : params.lookup p = some (.one s)) {m : Match}
    (hwalk : walk (.operator ⟨.reserved, [p]⟩ :: ops.map .operator)
      (Percent.encodeReserved s ++ expandTokens (ops.map .operator) params) = some m)
    (binder : Binder) :
    (Pattern.mk t).resolve binder (t.expand params) =
      .resolved (binder.bindAll m.captures Dict.empty) := by
  have htext : t.expand params = expandTokens (lits.map .literal) params ++
      (Percent.encodeReserved s ++ expandTokens (ops.map .operator) params) := by
    rw [← expandOperator_run hlookup, Template.expand, h.tokens]
    exact List.flatMap_append
  obtain ⟨m', hwalk', hcaptures⟩ := exists_walk_literals lits hwalk params
  have hmatch : (Pattern.mk t).match? (t.expand params) = some m' := by
    rw [Pattern.match?_eq_walk h.unambiguous, htext, Pattern.tokens, h.tokens]
    exact hwalk'
  rw [← hcaptures]
  exact Pattern.resolve_of_match? hmatch binder

end Template

/-! ## 2.  What is bound -/

/-- Bindings that give the variables back the values they were written with, and bind
nothing else. -/
structure Bindings.Restores (bindings : Bindings) (params : Parameters) (vs : List Variable) :
    Prop where
  /-- A variable is bound if it has a value, and then to the value. -/
  bound : ∀ v ∈ vs, bindings.get? v.name = (params.lookup v).map BoundValue.ofTexts
  /-- No other name is bound. -/
  unbound : ∀ name, name ∉ vs.map Variable.name → bindings.get? name = none

/-- An untyped capture is bound to what it stands for. -/
theorem Binder.bindCapture_one (binder : Binder) {v : Variable} (hkind : v.kind = none)
    {raw s : Text} (h : Percent.decode raw = some s) :
    binder.bindCapture ⟨v, .one raw⟩ = some (.one (.text s)) := by
  rw [binder.bindCapture_of_decode h, hkind]
  rfl

/-- **The captures of a run and of written values are bound to the values.** -/
theorem restores_bindAll_run (binder : Binder) {p : Variable} {vs : List Variable}
    (hnames : ((p :: vs).map Variable.name).Nodup) (hkinds : ∀ v ∈ p :: vs, v.kind = none)
    {params : Parameters} {raw s : Text} (hlookup : params.lookup p = some (.one s))
    (hraw : Percent.decode raw = some s) :
    (binder.bindAll (⟨p, .one raw⟩ :: (params.defined vs).map Capture.written)
      Dict.empty).Restores params (p :: vs) := by
  rw [List.map_cons, List.nodup_cons] at hnames
  obtain ⟨hkind, hkinds⟩ := List.forall_mem_cons.1 hkinds
  obtain ⟨hbound, hunbound⟩ := binder.get?_bindAll_written hnames.2 hkinds params
  rw [Binder.bindAll_cons_of_some (binder.bindCapture_one hkind hraw)]
  constructor
  · intro v hv
    rw [Binder.get?_bindAll_or, Dict.get?_insert]
    rcases List.mem_cons.1 hv with rfl | hv
    · rw [hunbound v.name hnames.1, if_pos rfl, hlookup]
      rfl
    · have hne : p.name ≠ v.name := fun hname => hnames.1 (hname ▸ List.mem_map_of_mem hv)
      rw [hbound v hv, if_neg hne, Dict.get?_empty, Option.or_none]
  · intro name hname
    rw [List.map_cons, List.mem_cons, not_or] at hname
    rw [Binder.get?_bindAll_or, Dict.get?_insert, hunbound name hname.2, if_neg (Ne.symm hname.1)]
    rfl

/-! ## 3.  The round trip -/

/-- Encoding leaves a text without a symbol without it. -/
theorem encodeReserved_avoids {op : Operator} (hform : op.form ∈ boundingForms) {s : Text}
    (h : s.Avoids op.form.text) : (Percent.encodeReserved s).Avoids op.form.text := by
  rcases mem_boundingForms.1 hform with hform | hform
  all_goals
    rw [hform] at h ⊢
    exact Text.avoids_singleton_iff.2
      (Percent.notMem_encodeUnless (by decide) rfl (Text.avoids_singleton_iff.1 h))

namespace Template

variable {t : Template} {lits : List Text} {p : Variable} {ops : List Operator}

/-- A run in front of operators that are opened by the first of them is told apart from
them. -/
theorem IsRun.exists_restores (h : t.IsRun lits p ops) {params : Parameters} {s : Text}
    (hlookup : params.lookup p = some (.one s)) (hs : s ≠ []) (hopened : OpenedByFirst ops params)
    (havoids : ∀ op ∈ ops.head?, s.Avoids op.form.text) (binder : Binder) :
    ∃ bindings, (Pattern.mk t).resolve binder (t.expand params) = .resolved bindings ∧
      bindings.Restores params t.vars := by
  have hencoded : ∀ op ∈ ops.head?, (Percent.encodeReserved s).Avoids op.form.text := by
    intro op hop
    exact encodeReserved_avoids (h.form_mem op (List.mem_of_head? hop)) (havoids op hop)
  obtain ⟨m, hwalk, hcaptures⟩ := exists_walk_run (p := p) h.forms (h.fits params) hopened
    (Percent.units_encodeReserved s) (Percent.encodeReserved_ne_nil hs) hencoded
  refine ⟨_, h.resolve_of_walk hlookup hwalk binder, ?_⟩
  have hnames := h.names
  have huntyped := h.untyped
  rw [h.vars] at hnames huntyped ⊢
  rw [hcaptures]
  exact restores_bindAll_run binder hnames huntyped hlookup (Percent.decode_encodeReserved s)

end Template

/-- **A run in front of one operator is read back.**  When the symbol of the operator does
not occur in the text of the run, resolving binds the text and every value that the
operator has written, and nothing else. -/
theorem resolve_expand_run {t : Template} {lits : List Text} {p : Variable}
    {ops : List Operator} (h : t.IsRun lits p ops) (hops : ops.length ≤ 1)
    {params : Parameters} {s : Text} (hlookup : params.lookup p = some (.one s)) (hs : s ≠ [])
    (havoids : ∀ op ∈ ops, s.Avoids op.form.text) (binder : Binder) :
    ∃ bindings, (Pattern.mk t).resolve binder (t.expand params) = .resolved bindings ∧
      bindings.Restores params t.vars := by
  have hopened : OpenedByFirst ops params := openedByFirst_of_length_le_one hops params
  have hfirst : ∀ op ∈ ops.head?, s.Avoids op.form.text :=
    fun op hop => havoids op (List.mem_of_head? hop)
  exact h.exists_restores hlookup hs hopened hfirst binder

/-- The text of the run has path parameters of its own, and the query has a list, a list
of one item and no value. -/
theorem resolve_expand_run_query :
    ∃ (t : Template) (lits : List Text) (p : Variable) (ops : List Operator)
      (params : Parameters) (bindings : Bindings),
      t.source = "/doc/\x7b+p\x7d\x7b?q,r,s\x7d".toList ∧ t.IsRun lits p ops ∧
        ops.length ≤ 1 ∧ params.lookup p = some (.one "a;b=1&c/é".toList) ∧
        (∀ op ∈ ops, Text.Avoids "a;b=1&c/é".toList op.form.text) ∧
        t.expand params = "/doc/a;b=1&c/%C3%A9?q=x,y%3F&r=z".toList ∧
        (Pattern.mk t).resolve Binder.standard (t.expand params) = .resolved bindings ∧
        bindings.Restores params t.vars ∧
        bindings.get? ['p'] = some (.one (.text "a;b=1&c/é".toList)) ∧
        bindings.get? ['q'] = some (.many [.text ['x'], .text ['y', '?']]) ∧
        bindings.get? ['r'] = some (.one (.text ['z'])) ∧
        bindings.get? ['s'] = none := by
  let p : Variable := ⟨['p'], none, none⟩
  let ops : List Operator :=
    [⟨.queryParameters, [⟨['q'], none, none⟩, ⟨['r'], none, none⟩, ⟨['s'], none, none⟩]⟩]
  let t : Template :=
    ⟨"/doc/\x7b+p\x7d\x7b?q,r,s\x7d".toList,
      [.literal "/doc/".toList] ++ .operator ⟨.reserved, [p]⟩ :: ops.map .operator, by rfl⟩
  let params : Parameters :=
    Dict.ofList [(['p'], .one "a;b=1&c/é".toList), (['q'], .many [['x'], ['y', '?']]),
      (['r'], .many [['z']])]
  have hrun : t.IsRun ["/doc/".toList] p ops := ⟨rfl, by decide, by decide, by decide⟩
  have havoids : ∀ op ∈ ops, Text.Avoids "a;b=1&c/é".toList op.form.text := by decide
  have hlookup : params.lookup p = some (.one "a;b=1&c/é".toList) := rfl
  obtain ⟨bindings, hresolve, hrestores⟩ :=
    resolve_expand_run hrun (Nat.le_refl 1) hlookup (by decide) havoids Binder.standard
  exact ⟨t, _, p, ops, params, bindings, rfl, hrun, Nat.le_refl 1, hlookup, havoids,
    by decide +kernel, hresolve, hrestores, hrestores.bound ⟨['p'], none, none⟩ (by decide),
    hrestores.bound ⟨['q'], none, none⟩ (by decide),
    hrestores.bound ⟨['r'], none, none⟩ (by decide),
    hrestores.bound ⟨['s'], none, none⟩ (by decide)⟩

namespace Template

variable {t : Template} {lits : List Text} {p : Variable} {xs ys : List Variable}

/-- Behind absent path parameters the run takes the query for its own. -/
theorem IsRun.resolve_of_absent
    (h : t.IsRun lits p [⟨.pathParameters, xs⟩, ⟨.queryParameters, ys⟩]) {params : Parameters}
    {s : Text} (hlookup : params.lookup p = some (.one s)) (hs : s ≠ []) (hsemicolon : ';' ∉ s)
    (habsent : ∀ x ∈ xs, params.defines x = false) (binder : Binder) :
    (Pattern.mk t).resolve binder (t.expand params) = .resolved (binder.bindAll
      [⟨p, .one (Percent.encodeReserved s ++ expandOperator ⟨.queryParameters, ys⟩ params)⟩]
      Dict.empty) := by
  have hnames : ∀ v ∈ ys, isName v.name = true :=
    (h.fits params ⟨.queryParameters, ys⟩ (List.mem_cons_of_mem _ List.mem_cons_self)).isName
  have hquery : Units isQueryChar (expandOperator ⟨.queryParameters, ys⟩ params) :=
    units_expandOperator_query rfl hnames
  have hnone : ';' ∉ Percent.encodeReserved s ++ expandOperator ⟨.queryParameters, ys⟩ params := by
    rw [List.mem_append, not_or]
    exact ⟨Percent.notMem_encodeUnless (by decide) rfl hsemicolon, semicolon_notMem_query hquery⟩
  obtain ⟨m, hwalk, hcaptures⟩ := walk_run_whole p xs ys
    ((Percent.units_encodeReserved s).append (hquery.mono fun _ => admits_of_isQueryChar))
    (List.append_ne_nil_of_left_ne_nil (Percent.encodeReserved_ne_nil hs) _) hnone
  have htext : expandTokens ([⟨.pathParameters, xs⟩, ⟨.queryParameters, ys⟩].map .operator) params =
      expandOperator ⟨.queryParameters, ys⟩ params := by
    rw [expandTokens_pathQuery,
      (expandOperator_eq_nil_iff (mem_boundingForms.2 (Or.inl rfl))).2 habsent, List.nil_append]
  rw [← hcaptures]
  refine h.resolve_of_walk hlookup ?_ binder
  rw [htext]
  exact hwalk

end Template

/-- **A run in front of `;` and `?` is read back exactly if** a path parameter has a value
or nothing in the query has.  Otherwise the symbol `;` of the next operator, which is all
that bounds the run, does not occur, and the query is lost in the run. -/
theorem resolve_expand_run_iff {t : Template} {lits : List Text} {p : Variable}
    {xs ys : List Variable}
    (h : t.IsRun lits p [⟨.pathParameters, xs⟩, ⟨.queryParameters, ys⟩]) {params : Parameters}
    {s : Text} (hlookup : params.lookup p = some (.one s)) (hs : s ≠ []) (hsemicolon : ';' ∉ s)
    (binder : Binder) :
    ∃ bindings, (Pattern.mk t).resolve binder (t.expand params) = .resolved bindings ∧
      (bindings.Restores params t.vars ↔
        (∃ x ∈ xs, params.defines x = true) ∨ ∀ y ∈ ys, params.defines y = false) := by
  by_cases htold : (∃ x ∈ xs, params.defines x = true) ∨ ∀ y ∈ ys, params.defines y = false
  · have havoids : ∀ op ∈ [(⟨.pathParameters, xs⟩ : Operator), ⟨.queryParameters, ys⟩].head?,
        s.Avoids op.form.text := by
      rintro op ⟨⟩
      exact Text.avoids_singleton_iff.2 hsemicolon
    obtain ⟨bindings, hresolve, hrestores⟩ :=
      h.exists_restores hlookup hs (openedByFirst_iff.2 htold) havoids binder
    exact ⟨bindings, hresolve, iff_of_true hrestores htold⟩
  · obtain ⟨habsent, y, hy, hdefined⟩ :
        (∀ x ∈ xs, params.defines x = false) ∧ ∃ y ∈ ys, params.defines y = true := by
      simpa using htold
    refine ⟨_, h.resolve_of_absent hlookup hs hsemicolon habsent binder,
      iff_of_false (fun hrestores => ?_) htold⟩
    -- A variable of the query has a value, but the run is all that is captured.
    have hvars : t.vars = p :: (xs ++ (ys ++ [])) := h.vars
    have hmem : y ∈ xs ++ (ys ++ []) := by simp [hy]
    have hnames := h.names
    rw [hvars, List.map_cons, List.nodup_cons] at hnames
    have hne : p.name ≠ y.name := fun hname => hnames.1 (hname ▸ List.mem_map_of_mem hmem)
    have hbound := hrestores.bound y (hvars ▸ List.mem_cons_of_mem p hmem)
    rw [binder.get?_bindAll_singleton_of_ne hne] at hbound
    obtain ⟨value, hvalue⟩ := Option.isSome_iff_exists.1 hdefined
    rw [hvalue] at hbound
    cases hbound

/-- A path parameter stands in between, and the text of the run has a `?` of its own. -/
theorem resolve_expand_run_iff_semicolon :
    ∃ (t : Template) (lits : List Text) (p : Variable) (xs ys : List Variable)
      (params : Parameters) (bindings : Bindings),
      t.source = "/m/{+p}{;w,x}{?y,z}".toList ∧
        t.IsRun lits p [⟨.pathParameters, xs⟩, ⟨.queryParameters, ys⟩] ∧
        params.lookup p = some (.one ['a', '?', 'b']) ∧
        t.expand params = "/m/a?b;x=1?y=2".toList ∧
        (Pattern.mk t).resolve Binder.standard (t.expand params) = .resolved bindings ∧
        (∃ x ∈ xs, params.defines x = true) ∧ bindings.Restores params t.vars ∧
        bindings.get? ['p'] = some (.one (.text ['a', '?', 'b'])) ∧
        bindings.get? ['w'] = none ∧
        bindings.get? ['x'] = some (.one (.text ['1'])) ∧
        bindings.get? ['y'] = some (.one (.text ['2'])) ∧
        bindings.get? ['z'] = none := by
  let p : Variable := ⟨['p'], none, none⟩
  let xs : List Variable := [⟨['w'], none, none⟩, ⟨['x'], none, none⟩]
  let ys : List Variable := [⟨['y'], none, none⟩, ⟨['z'], none, none⟩]
  let t : Template :=
    ⟨"/m/{+p}{;w,x}{?y,z}".toList,
      [.literal ['/', 'm', '/'], .operator ⟨.reserved, [p]⟩, .operator ⟨.pathParameters, xs⟩,
        .operator ⟨.queryParameters, ys⟩], by rfl⟩
  let params : Parameters :=
    Dict.ofList [(['p'], .one ['a', '?', 'b']), (['x'], .one ['1']), (['y'], .one ['2'])]
  have hrun : t.IsRun [['/', 'm', '/']] p [⟨.pathParameters, xs⟩, ⟨.queryParameters, ys⟩] :=
    ⟨rfl, by decide, by decide, by decide⟩
  have hlookup : params.lookup p = some (.one ['a', '?', 'b']) := rfl
  have hdefined : ∃ x ∈ xs, params.defines x = true := ⟨⟨['x'], none, none⟩, by decide, rfl⟩
  obtain ⟨bindings, hresolve, hiff⟩ :=
    resolve_expand_run_iff hrun hlookup (by decide) (by decide) Binder.standard
  have hrestores := hiff.2 (Or.inl hdefined)
  exact ⟨t, _, p, xs, ys, params, bindings, rfl, hrun, hlookup, by decide +kernel, hresolve,
    hdefined, hrestores, hrestores.bound ⟨['p'], none, none⟩ (by decide),
    hrestores.bound ⟨['w'], none, none⟩ (by decide),
    hrestores.bound ⟨['x'], none, none⟩ (by decide),
    hrestores.bound ⟨['y'], none, none⟩ (by decide),
    hrestores.bound ⟨['z'], none, none⟩ (by decide)⟩

/-- Without the path parameter the run takes the query, and the variable of the query is
not bound. -/
theorem exists_resolve_takesQuery :
    ∃ (t : Template) (p : Variable) (xs ys : List Variable) (params : Parameters)
      (bindings : Bindings),
      t.source = "{+p}{;x}{?y}".toList ∧
        t.IsRun [] p [⟨.pathParameters, xs⟩, ⟨.queryParameters, ys⟩] ∧
        params.lookup p = some (.one ['a']) ∧
        params.lookup ⟨['x'], none, none⟩ = none ∧
        params.lookup ⟨['y'], none, none⟩ = some (.one ['b']) ∧
        t.expand params = "a?y=b".toList ∧
        (Pattern.mk t).resolve Binder.standard (t.expand params) = .resolved bindings ∧
        bindings.get? ['p'] = some (.one (.text "a?y=b".toList)) ∧
        bindings.get? ['y'] = none ∧ ¬bindings.Restores params t.vars := by
  let p : Variable := ⟨['p'], none, none⟩
  let x : Variable := ⟨['x'], none, none⟩
  let y : Variable := ⟨['y'], none, none⟩
  let t : Template :=
    ⟨"{+p}{;x}{?y}".toList,
      [.operator ⟨.reserved, [p]⟩, .operator ⟨.pathParameters, [x]⟩,
        .operator ⟨.queryParameters, [y]⟩], by rfl⟩
  let params : Parameters := Dict.ofList [(['p'], .one ['a']), (['y'], .one ['b'])]
  let bindings : Bindings :=
    Binder.standard.bindAll [⟨p, .one "a?y=b".toList⟩] Dict.empty
  have hrun : t.IsRun [] p [⟨.pathParameters, [x]⟩, ⟨.queryParameters, [y]⟩] :=
    ⟨rfl, by decide, by decide, by decide⟩
  have hmatch : (Pattern.mk t).match? (t.expand params) =
      some ⟨[⟨p, .one "a?y=b".toList⟩], 0⟩ := by decide +kernel
  have hresolve : (Pattern.mk t).resolve Binder.standard (t.expand params) = .resolved bindings :=
    Pattern.resolve_of_match? hmatch Binder.standard
  have hlost : bindings.get? ['y'] = none := by decide +kernel
  refine ⟨t, p, [x], [y], params, bindings, rfl, hrun, rfl, rfl, rfl, by decide +kernel, hresolve,
    by decide +kernel, hlost, fun hrestores => ?_⟩
  have hbound := hrestores.bound y (by decide)
  rw [show y.name = ['y'] from rfl, hlost] at hbound
  cases hbound

end UriRouting
