import UriRouting.Proofs.Binding.Resolution
import UriRouting.Proofs.Pattern.LastOperator

/-!
# Groups in any order

A pattern that ends with `;` or `?` takes the groups of a URI as they come: in any order,
with or without a value, and more than once for the same variable.  Each group leaves one
capture.  A name may be the beginning of another one, since a group is known by all the
name characters that stand in it.

`resolve_assignments` gives the captures.  When the names are distinct, the captures are
bound each to its own name, and another order of the groups gives the same bindings.
-/

namespace UriRouting

variable {p : Pattern} {lits : List Text} {op : Operator} {first next : Char}
  {as : List Assignment}

/-- With nothing behind it, the operator takes groups with a value and groups without. -/
theorem match?_lastAssignments (htokens : p.tokens = lits.map .literal ++ [.operator op])
    (hleads : op.form.leads? = some (first, next)) (hne : as ≠ [])
    (hfits : ∀ a ∈ as, a.Fits op.vars) :
    p.match? (lits.flatten ++ Assignment.textOf first next as) =
      some ⟨as.map Assignment.capture, lits.flatten.length⟩ := by
  have hclose : p.tokens = lits.map .literal ++ .operator op :: none.toList.map .literal := htokens
  have hmatch := Pattern.match?_assignments hclose hleads hne hfits (fun _ _ _ => rfl)
    (Option.some_ne_none next).symm
  rw [Option.getD_none, List.append_nil] at hmatch
  exact hmatch

/-- **Groups may come in any order.**  Every group is captured, in the order of the groups,
with its value split at the commas.  If no name occurs twice, any other order of the groups
is resolved to the same bindings. -/
theorem resolve_assignments (htokens : p.tokens = lits.map .literal ++ [.operator op])
    (hleads : op.form.leads? = some (first, next)) (hne : as ≠ [])
    (hfits : ∀ a ∈ as, a.Fits op.vars) :
    p.match? (lits.flatten ++ Assignment.textOf first next as) =
        some ⟨as.map Assignment.capture, lits.flatten.length⟩ ∧
      ∀ as' : List Assignment, as.Perm as' → (as.map fun a => a.var.name).Nodup →
        ∀ binder : Binder,
          (p.resolve binder (lits.flatten ++ Assignment.textOf first next as')).status =
              (p.resolve binder (lits.flatten ++ Assignment.textOf first next as)).status ∧
            ∀ name,
              (p.resolve binder (lits.flatten ++ Assignment.textOf first next as')).get? name =
                (p.resolve binder (lits.flatten ++ Assignment.textOf first next as)).get? name := by
  have hmatch := match?_lastAssignments htokens hleads hne hfits
  refine ⟨hmatch, fun as' hperm hnames binder => ?_⟩
  have hne' : as' ≠ [] := fun hnil => hne (List.perm_nil.1 (hnil ▸ hperm))
  have hfits' : ∀ a ∈ as', a.Fits op.vars := fun a ha => hfits a (hperm.mem_iff.2 ha)
  have hmatch' := match?_lastAssignments htokens hleads hne' hfits'
  rw [Pattern.resolve_of_match? hmatch binder, Pattern.resolve_of_match? hmatch' binder]
  refine ⟨rfl, fun name => ?_⟩
  have hcaptures : ((as.map Assignment.capture).map fun capture => capture.var.name) =
      as.map fun a => a.var.name := List.map_map
  exact (binder.get?_bindAll_perm (hperm.map Assignment.capture) (hcaptures ▸ hnames)
    Dict.empty name).symm

/-- One name begins the others, one group has no value and one an empty value. -/
theorem resolve_assignments_namePrefixes :
    ∃ p : Pattern, p.source = "/s\x7b?a,a.b,a-b\x7d".toList ∧
      p.match? "/s?a.b&a=1,%2C&a-b=".toList =
        some ⟨[⟨⟨"a.b".toList, none, none⟩, .one []⟩,
          ⟨⟨['a'], none, none⟩, .many [['1'], "%2C".toList]⟩,
          ⟨⟨"a-b".toList, none, none⟩, .one []⟩], 2⟩ ∧
      (p.resolve Binder.standard "/s?a-b=&a.b&a=1,%2C".toList).status = "resolved" ∧
      (p.resolve Binder.standard "/s?a-b=&a.b&a=1,%2C".toList).get? ['a'] =
        some (.many [.text ['1'], .text [',']]) ∧
      (p.resolve Binder.standard "/s?a-b=&a.b&a=1,%2C".toList).get? "a.b".toList =
        some (.one (.text [])) := by
  let a : Variable := ⟨['a'], none, none⟩
  let dotted : Variable := ⟨"a.b".toList, none, none⟩
  let dashed : Variable := ⟨"a-b".toList, none, none⟩
  let op : Operator := ⟨.queryParameters, [a, dotted, dashed]⟩
  let p : Pattern := ⟨⟨"/s\x7b?a,a.b,a-b\x7d".toList,
    [.literal ['/', 's'], .operator op], by rfl⟩⟩
  let as : List Assignment :=
    [⟨dotted, none⟩, ⟨a, some ['1', ',', '%', '2', 'C']⟩, ⟨dashed, some []⟩]
  let as' : List Assignment :=
    [⟨dashed, some []⟩, ⟨dotted, none⟩, ⟨a, some ['1', ',', '%', '2', 'C']⟩]
  have htokens : p.tokens = [['/', 's']].map .literal ++ [.operator op] := rfl
  have hfits : ∀ a ∈ as, a.Fits op.vars := by decide +kernel
  have hperm : as.Perm as' := by decide +kernel
  have hnames : (as.map fun a => a.var.name).Nodup := by decide +kernel
  obtain ⟨hmatch, hreorder⟩ := resolve_assignments htokens rfl (List.cons_ne_nil _ _) hfits
  obtain ⟨hstatus, hget⟩ := hreorder as' hperm hnames Binder.standard
  have hresolve := Pattern.resolve_of_match? hmatch Binder.standard
  rw [hresolve] at hstatus hget
  refine ⟨p, rfl, hmatch, hstatus, (hget ['a']).trans ?_, (hget "a.b".toList).trans ?_⟩
  · decide +kernel
  · decide +kernel

end UriRouting
