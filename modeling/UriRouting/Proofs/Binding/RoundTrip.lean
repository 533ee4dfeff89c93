import UriRouting.Proofs.Binding.Resolution
import UriRouting.Proofs.Pattern.Expansion
import UriRouting.Proofs.Template.RoundTrip

/-!
# Expanding and resolving

A template writes values into a URI, and its pattern reads them out again.  This file
says when the second undoes the first, for templates that describe a path: literals
and variables, then segments, path parameters and a query.

* `Template.IsPath` is the condition on the template.  What matters is that the end of
  every value can be seen.
* `Parameters.Fill` is the condition on the parameters: every variable of the body and
  of the segments has a value that leaves a trace in the URI.  The variables of path
  parameters and of the query need none.
* `resolve_expand` is the round trip.
-/

namespace UriRouting

/-- A template that is a body followed by the operators of a path, each at most once and
in their order, with distinct and untyped variables. -/
structure Template.IsPath (t : Template) (body : List Token) (ops : List Operator) : Prop where
  /-- The body and the operators are the tokens. -/
  tokens : t.tokens = body ++ ops.map .operator
  /-- A variable of the body is the last token of it or stands before a literal that
  begins with a character that ends its value. -/
  body : isBody body = true
  /-- The operators are some of `/`, `;` and `?`, in this order. -/
  forms : (ops.map Operator.form).Sublist pathForms
  /-- No two variables have the same name. -/
  names : (t.vars.map Variable.name).Nodup
  /-- No variable has a type tag. -/
  untyped : ∀ v ∈ t.vars, v.kind = none

/-- Parameters that give every variable of a body and of segments a value that shows. -/
structure Parameters.Fill (params : Parameters) (body : List Token) (ops : List Operator) :
    Prop where
  /-- A variable of the body has a text that is not empty. -/
  body : ∀ v ∈ body.flatMap Token.vars, ∃ s, s ≠ [] ∧ params.lookup v = some (.one s)
  /-- A variable of the segments has a value that fills a segment. -/
  segments : ∀ op ∈ ops, op.form = .pathSegments →
    ∀ v ∈ op.vars, ∃ value, params.lookup v = some value ∧ value.FillsSegment

namespace Template

variable {t : Template} {params : Parameters}

/-- The names of an operator of a template that was read are distinct names. -/
theorem fits_of_mem {op : Operator} (hop : Token.operator op ∈ t.tokens)
    (hsegments : op.form = .pathSegments →
      ∀ v ∈ op.vars, ∃ value, params.lookup v = some value ∧ value.FillsSegment) :
    op.Fits params := by
  have hwellFormed : op.WellFormed := (wellFormedSeq_tokens t).token _ hop
  exact ⟨hwellFormed.distinct, fun v hv => (hwellFormed.vars v hv).name, hsegments⟩

/-- Every operator of a path fits parameters that fill it. -/
theorem IsPath.fits {body : List Token} {ops : List Operator} (h : t.IsPath body ops)
    (hfill : params.Fill body ops) : ∀ op ∈ ops, op.Fits params := by
  intro op hop
  have hmem : Token.operator op ∈ t.tokens := by
    rw [h.tokens]
    exact List.mem_append_right _ (List.mem_map_of_mem hop)
  exact fits_of_mem hmem (hfill.segments op hop)

end Template

/-- **Resolving undoes expanding.**  When the pattern of a path template resolves what
the template expands to under parameters that fill it, it binds every variable that
has a value to that value, a list of one item to the item, and nothing else. -/
theorem resolve_expand {t : Template} {body : List Token} {ops : List Operator}
    (h : t.IsPath body ops) {params : Parameters} (hfill : params.Fill body ops) :
    ∃ bindings, (Pattern.mk t).resolve Binder.standard (t.expand params) = .resolved bindings ∧
      (∀ v ∈ t.vars, bindings.get? v.name = (params.lookup v).map BoundValue.ofTexts) ∧
      ∀ name, name ∉ t.vars.map Variable.name → bindings.get? name = none := by
  have hforms : ∀ op ∈ ops, op.form ∈ pathForms :=
    fun op hop => h.forms.subset (List.mem_map_of_mem hop)
  have hreads : Reads params t.tokens := by
    rw [h.tokens]
    exact reads_body h.body hforms hfill.body (reads_operators h.forms (h.fits hfill))
  have hneighbours : hasGreedyNeighbours t.tokens = false := by
    rw [h.tokens]
    exact hasGreedyNeighbours_body h.body hforms
  obtain ⟨m, hwalk, hcaptures⟩ := hreads
  have hmatch : (Pattern.mk t).match? (t.expand params) = some m := by
    rw [Pattern.match?, Pattern.isAmbiguous, Pattern.tokens, hneighbours]
    exact hwalk
  refine ⟨Binder.standard.bindAll m.captures Dict.empty, ?_, ?_⟩
  · rw [Pattern.resolve, hmatch]
  · rw [hcaptures]
    exact Binder.standard.get?_bindAll_written h.names h.untyped params

/-- A text with a delimiter and a default in the body, a text with a comma and a list in
segments, a list of one item and no value among path parameters, and an empty default
in the query. -/
theorem resolve_expand_mixed :
    ∃ (t : Template) (body : List Token) (ops : List Operator) (params : Parameters),
      t.source = "/\x7ba\x7d,\x7bb=c d\x7d\x7b/p,q\x7d\x7b;m,n\x7d\x7b?r,s=\x7d".toList ∧
        t.IsPath body ops ∧ params.Fill body ops ∧
        ∃ bindings,
          (Pattern.mk t).resolve Binder.standard (t.expand params) = .resolved bindings ∧
            bindings.get? ['a'] = some (.one (.text ['1', '/', '2'])) ∧
            bindings.get? ['b'] = some (.one (.text ['c', ' ', 'd'])) ∧
            bindings.get? ['p'] = some (.one (.text [',', 'x'])) ∧
            bindings.get? ['q'] = some (.many [.text ['y'], .text []]) ∧
            bindings.get? ['m'] = some (.one (.text ['z'])) ∧
            bindings.get? ['n'] = none ∧
            bindings.get? ['r'] = none ∧
            bindings.get? ['s'] = some (.one (.text [])) := by
  let body : List Token :=
    [.literal ['/'], .var ⟨['a'], none, none⟩, .literal [','],
      .var ⟨['b'], some ['c', ' ', 'd'], none⟩]
  let ops : List Operator :=
    [⟨.pathSegments, [⟨['p'], none, none⟩, ⟨['q'], none, none⟩]⟩,
      ⟨.pathParameters, [⟨['m'], none, none⟩, ⟨['n'], none, none⟩]⟩,
      ⟨.queryParameters, [⟨['r'], none, none⟩, ⟨['s'], some [], none⟩]⟩]
  let t : Template :=
    ⟨"/\x7ba\x7d,\x7bb=c d\x7d\x7b/p,q\x7d\x7b;m,n\x7d\x7b?r,s=\x7d".toList,
      body ++ ops.map .operator, by rfl⟩
  let params : Parameters :=
    Dict.ofList [(['a'], .one ['1', '/', '2']), (['p'], .one [',', 'x']),
      (['q'], .many [['y'], []]), (['m'], .many [['z']]), (['n'], .many []), (['r'], .one [])]
  have hpath : t.IsPath body ops := ⟨rfl, by decide, by decide, by decide, by decide⟩
  have hfill : params.Fill body ops := by
    constructor
    · have hvars : body.flatMap Token.vars =
          [⟨['a'], none, none⟩, ⟨['b'], some ['c', ' ', 'd'], none⟩] := rfl
      rw [hvars, List.forall_mem_cons, List.forall_mem_singleton]
      exact ⟨⟨['1', '/', '2'], by decide, rfl⟩, ⟨['c', ' ', 'd'], by decide, rfl⟩⟩
    · intro op hop hform v hv
      simp only [ops, List.mem_cons, List.not_mem_nil, or_false] at hop
      rcases hop with rfl | rfl | rfl
      · simp only [List.mem_cons, List.not_mem_nil, or_false] at hv
        rcases hv with rfl | rfl
        · exact ⟨.one [',', 'x'], rfl, List.cons_ne_nil _ _⟩
        · exact ⟨.many [['y'], []], rfl, Nat.le_refl 2⟩
      · cases hform
      · cases hform
  obtain ⟨bindings, hresolve, hbound, -⟩ := resolve_expand hpath hfill
  refine ⟨t, body, ops, params, rfl, hpath, hfill, bindings, hresolve, ?_⟩
  exact ⟨hbound ⟨['a'], none, none⟩ (by decide),
    hbound ⟨['b'], some ['c', ' ', 'd'], none⟩ (by decide),
    hbound ⟨['p'], none, none⟩ (by decide), hbound ⟨['q'], none, none⟩ (by decide),
    hbound ⟨['m'], none, none⟩ (by decide), hbound ⟨['n'], none, none⟩ (by decide),
    hbound ⟨['r'], none, none⟩ (by decide), hbound ⟨['s'], some [], none⟩ (by decide)⟩

end UriRouting
