import UriRouting.Proofs.Binding.ReservedRun
import UriRouting.Proofs.Pattern.Items

/-!
# Resolving items with a text of their own between them

A template of literals and one last operator `list`, `prefix` or `suffix` writes items
with a text of the pattern's choice, which may look like a part of an item.  Resolving
gives the items back if the first character of that text stands in no encoded item.
Encoded items are ASCII, so for them it makes no difference whether the first character is
meant or the first byte.

* `Reads.resolve`: when a walk takes from an expansion what was written, resolving binds
  every variable that has a value to that value.
* `resolve_expand_items`: the round trip.
-/

namespace UriRouting

open Template (expandTokens expandOperator)

/-- **What was written and taken again is bound.** -/
theorem Reads.resolve {t : Template} {params : Parameters} (h : Reads params t.tokens)
    (hambiguous : (Pattern.mk t).isAmbiguous = false) (hnames : (t.vars.map Variable.name).Nodup)
    (huntyped : ∀ v ∈ t.vars, v.kind = none) (binder : Binder) :
    ∃ bindings, (Pattern.mk t).resolve binder (t.expand params) = .resolved bindings ∧
      (∀ v ∈ t.vars, bindings.get? v.name = (params.lookup v).map BoundValue.ofTexts) ∧
      ∀ name, name ∉ t.vars.map Variable.name → bindings.get? name = none := by
  obtain ⟨m, hmatch, hcaptures⟩ := Reads.match? (p := ⟨t⟩) h hambiguous
  refine ⟨_, Pattern.resolve_of_match? hmatch binder, ?_⟩
  rw [hcaptures]
  exact binder.get?_bindAll_written hnames huntyped params

theorem Reads.literals {params : Parameters} {tokens : List Token} (h : Reads params tokens)
    (lits : List Text) : Reads params (lits.map .literal ++ tokens) := by
  induction lits with
  | nil => exact h
  | cons lit lits ih => exact ih.literal lit

section Items

variable {t : Template} {lits : List Text} {op : Operator} {stop : Text} {params : Parameters}

/-- A last operator with a text of its own takes what it has written. -/
theorem reads_items (hform : op.form ∈ itemForms stop) (hstop : stop ≠ []) (hop : op.WellFormed)
    (hfill : params.FillItems op.vars stop) : Reads params [.operator op] := by
  have hreserved : op.form ≠ .reserved := by
    intro hreserved
    simp [itemForms, hreserved] at hform
  refine Reads.operator hreserved ?_ Reads.nil
  show op.take .free (expandOperator op params ++ []) = _
  rw [List.append_nil]
  exact Operator.take_items hstop hform hop hfill

/-- **Items are given back.**  When a template is literals and a last operator `list`,
`prefix` or `suffix` with a text that is not empty, and the parameters give its untyped
variables texts in which, encoded, the first character of that text does not occur, then
resolving the expansion binds every variable to its value, a list of one item to the item,
and nothing else. -/
theorem resolve_expand_items (htokens : t.tokens = lits.map .literal ++ [.operator op])
    (hform : op.form ∈ itemForms stop) (hstop : stop ≠ [])
    (huntyped : ∀ v ∈ op.vars, v.kind = none) (hfill : params.FillItems op.vars stop)
    (binder : Binder) :
    ∃ bindings, (Pattern.mk t).resolve binder (t.expand params) = .resolved bindings ∧
      (∀ v ∈ op.vars, ∃ value, params.lookup v = some value ∧
        bindings.get? v.name = some (BoundValue.ofTexts value)) ∧
      ∀ name, name ∉ op.vars.map Variable.name → bindings.get? name = none := by
  have hop : op.WellFormed := Template.wellFormed_of_tokens_eq (p := ⟨t⟩) htokens
  have hvars : t.vars = op.vars := by
    rw [Template.vars, htokens, List.flatMap_append, flatMap_vars_literals, List.flatMap_singleton,
      List.nil_append]
    rfl
  have hreads : Reads params t.tokens := by
    rw [htokens]
    exact (reads_items hform hstop hop hfill).literals lits
  have hambiguous : (Pattern.mk t).isAmbiguous = false := by
    rw [Pattern.isAmbiguous, Pattern.tokens, htokens]
    exact hasGreedyNeighbours_literals lits rfl
  obtain ⟨bindings, hresolve, hbound, hunbound⟩ :=
    hreads.resolve hambiguous (hvars ▸ hop.distinct) (hvars ▸ huntyped) binder
  rw [hvars] at hbound hunbound
  refine ⟨bindings, hresolve, fun v hv => ?_, hunbound⟩
  obtain ⟨value, hvalue⟩ := hfill.defined v hv
  exact ⟨value, hvalue, by rw [hbound v hv, hvalue, Option.map_some]⟩

/-- Items that end in front of two unreserved characters, which the run of each item goes
on over; the last variable has two of them, one of which is a space. -/
theorem resolve_expand_items_unreserved :
    ∃ (t : Template) (op : Operator) (params : Parameters) (bindings : Bindings),
      t.source = "/f\x7b-suffix|-2|x,y=z\x7d".toList ∧
        t.tokens = [['/', 'f']].map .literal ++ [.operator op] ∧
        op.form ∈ itemForms ['-', '2'] ∧ params.FillItems op.vars ['-', '2'] ∧
        t.expand params = "/f%C3%A9-2%20-21-2".toList ∧
        (Pattern.mk t).resolve Binder.standard "/f%C3%A9-2%20-21-2".toList = .resolved bindings ∧
        bindings.get? ['x'] = some (.one (.text ['é'])) ∧
        bindings.get? ['y'] = some (.many [.text [' '], .text ['1']]) := by
  let x : Variable := ⟨['x'], none, none⟩
  let y : Variable := ⟨['y'], some ['z'], none⟩
  let op : Operator := ⟨.suffixed ['-', '2'], [x, y]⟩
  let t : Template := ⟨"/f\x7b-suffix|-2|x,y=z\x7d".toList,
    [.literal ['/', 'f'], .operator op], by rfl⟩
  let params : Parameters := Dict.ofList [(['x'], .one ['é']), (['y'], .many [[' '], ['1']])]
  have hx : params.lookup x = some (.one ['é']) := rfl
  have hy : params.lookup y = some (.many [[' '], ['1']]) := rfl
  have hform : op.form ∈ itemForms ['-', '2'] := by decide
  have hfill : params.FillItems op.vars ['-', '2'] := by
    have hvars : op.vars = [x, y] := rfl
    constructor
    · rw [hvars, List.forall_mem_cons, List.forall_mem_singleton]
      exact ⟨⟨_, hx⟩, ⟨_, hy⟩⟩
    · rw [hvars]
      exact List.forall_mem_singleton.2 ⟨_, hx⟩
    · rw [hvars, List.forall_mem_cons, List.forall_mem_singleton, hx, hy]
      exact ⟨by rintro _ ⟨⟩; decide, by rintro _ ⟨⟩; decide⟩
    · have hhead : ∀ c ∈ (['-', '2'] : Text).head?, '-' = c := by rintro c ⟨⟩; rfl
      have hone : ∀ t ∈ [['é']], '-' ∉ Percent.encode t := by decide +kernel
      have hmany : ∀ t ∈ [[' '], ['1']], '-' ∉ Percent.encode t := by decide +kernel
      rw [hvars, List.forall_mem_cons, List.forall_mem_singleton, hx, hy]
      exact ⟨by rintro _ ⟨⟩ t ht c hc; exact hhead c hc ▸ hone t ht,
        by rintro _ ⟨⟩ t ht c hc; exact hhead c hc ▸ hmany t ht⟩
  have htext : t.expand params = "/f%C3%A9-2%20-21-2".toList := by decide +kernel
  have htokens : t.tokens = [['/', 'f']].map .literal ++ [.operator op] := rfl
  obtain ⟨bindings, hresolve, hbound, -⟩ :=
    resolve_expand_items htokens hform (by decide) (by decide) hfill Binder.standard
  rw [htext] at hresolve
  obtain ⟨valueX, hlookupX, hboundX⟩ := hbound x (by decide)
  obtain ⟨valueY, hlookupY, hboundY⟩ := hbound y (by decide)
  obtain rfl := Option.some.inj (hx.symm.trans hlookupX)
  obtain rfl := Option.some.inj (hy.symm.trans hlookupY)
  exact ⟨t, op, params, bindings, rfl, htokens, hform, hfill, htext, hresolve, hboundX, hboundY⟩

/-- An item in which the text itself stands is cut in two. -/
example :
    let t : Template := ⟨"\x7b-list|-|v\x7d".toList,
      [.operator ⟨.list ['-'], [⟨['v'], none, none⟩]⟩], by rfl⟩
    t.expand (Dict.ofList [(['v'], .one ['a', '-', 'b'])]) = "a-b".toList ∧
      ((Pattern.mk t).resolve Binder.standard "a-b".toList).get? ['v'] =
        some (.many [.text ['a'], .text ['b']]) := by
  decide +kernel

end Items

end UriRouting
