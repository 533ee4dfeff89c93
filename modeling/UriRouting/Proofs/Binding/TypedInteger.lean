import UriRouting.Proofs.Binding.Resolution
import UriRouting.Proofs.Decimal.Integer
import UriRouting.Proofs.Pattern.Expansion
import UriRouting.Proofs.Template.Observation

/-!
# Resolving a typed integer

A pattern of a literal and a variable writes any text for the variable and takes it back,
whatever the tag of the variable (`Pattern.resolve_expand_literal_var`).  With the tag
`int` the text is then read as an integer, so the variable is bound exactly when the text
is that of an integer of sixty-four bits.
-/

namespace UriRouting

variable {p : Pattern} {lit s : Text} {v : Variable} {params : Parameters}

/-- What was written for the variable is matched again. -/
theorem Pattern.match?_expand_literal_var (htokens : p.tokens = [.literal lit, .var v])
    (hlookup : params.lookup v = some (.one s)) (hs : s ≠ []) :
    ∃ m, p.match? (p.template.expand params) = some m ∧
      m.captures = [⟨v, .one (Percent.encode s)⟩] := by
  have hcloses : (Boundary.before []).Closes .unreserved (Template.expandTokens [] params) :=
    ⟨rfl, CharClass.stops_nil _, nofun⟩
  have hreads : Reads params p.tokens := by
    rw [htokens]
    exact (Reads.var hlookup hs hcloses Reads.nil).literal lit
  have hunambiguous : p.isAmbiguous = false := by
    rw [isAmbiguous, htokens]
    rfl
  have hvars : p.template.vars = [v] := by
    show p.tokens.flatMap Token.vars = [v]
    rw [htokens]
    rfl
  obtain ⟨m, hmatch, hcaptures⟩ := hreads.match? hunambiguous
  rw [hvars, Parameters.defined_singleton hlookup] at hcaptures
  exact ⟨m, hmatch, hcaptures⟩

/-- **What was written for the variable is read as its tag says.** -/
theorem Pattern.resolve_expand_literal_var (htokens : p.tokens = [.literal lit, .var v])
    (hlookup : params.lookup v = some (.one s)) (hs : s ≠ []) (binder : Binder) :
    ∃ bindings, p.resolve binder (p.template.expand params) = .resolved bindings ∧
      bindings.get? v.name = (binder.bind v.kind s).map .one := by
  obtain ⟨m, hmatch, hcaptures⟩ := match?_expand_literal_var htokens hlookup hs
  refine ⟨_, resolve_of_match? hmatch binder, ?_⟩
  rw [hcaptures, binder.get?_bindAll_singleton ⟨v, .one (Percent.encode s)⟩]
  exact binder.bindCapture_of_decode (Percent.decode_encode s)

/-- The tag `int` is that of integers. -/
theorem Binder.bind_int (s : Text) :
    standard.bind (some "int".toList) s = (readInteger? s).map .integer :=
  AnyResolver.read?_eq_resolve (r := Resolver.integer) rfl

/-- **Typed integers.**  A pattern of a literal and a variable with the tag `int` resolves
the expansion for any text that is not empty.  The variable is bound to an integer exactly
when the text is one of that integer and the integer has sixty-four bits, and to nothing
when the text is no such text; the decimal text of every integer of sixty-four bits gives
that integer. -/
theorem Pattern.resolve_expand_integer (htokens : p.tokens = [.literal lit, .var v])
    (hkind : v.kind = some "int".toList) (hget : params.get? v.name = some (.one s))
    (hs : s ≠ []) :
    ∃ bindings, p.resolve Binder.standard (p.template.expand params) = .resolved bindings ∧
      (∀ k, bindings.get? v.name = some (.one (.integer k)) ↔
        WritesInteger s k ∧ FitsSixtyFourBits k) ∧
      (bindings.get? v.name = none ↔ ¬ ∃ k, WritesInteger s k ∧ FitsSixtyFourBits k) ∧
      ∀ k, FitsSixtyFourBits k → s = writeInt k →
        bindings.get? v.name = some (.one (.integer k)) := by
  have hlookup : params.lookup v = some (.one s) := Parameters.lookup_of_get? hs hget
  obtain ⟨bindings, hresolve, hbound⟩ :=
    resolve_expand_literal_var htokens hlookup hs Binder.standard
  rw [hkind, Binder.bind_int, Option.map_map] at hbound
  have hinteger : ∀ k,
      bindings.get? v.name = some (.one (.integer k)) ↔ readInteger? s = some k := by
    intro k
    rw [hbound]
    simp
  refine ⟨bindings, hresolve, fun k => ?_, ?_, ?_⟩
  · rw [hinteger, readInteger?_eq_some_iff]
  · rw [hbound, Option.map_eq_none_iff, Option.eq_none_iff_forall_ne_some, not_exists]
    simp only [ne_eq, readInteger?_eq_some_iff]
  · rintro k hk rfl
    exact (hinteger k).2 (readInteger?_writeInt hk)

/-- The greatest integer, with a sign that is escaped and with leading zeros. -/
theorem Pattern.resolve_expand_integer_greatest :
    ∃ (p : Pattern) (v : Variable) (params : Parameters) (bindings : Bindings),
      p.source = "/n/\x7bint:x\x7d".toList ∧ p.tokens = [.literal "/n/".toList, .var v] ∧
        v.kind = some "int".toList ∧
        params.get? v.name = some (.one "+009223372036854775807".toList) ∧
        "+009223372036854775807".toList ≠ [] ∧
        p.template.expand params = "/n/%2B009223372036854775807".toList ∧
        p.resolve Binder.standard "/n/%2B009223372036854775807".toList = .resolved bindings ∧
        bindings.get? ['x'] = some (.one (.integer 9223372036854775807)) := by
  let v : Variable := ⟨['x'], none, some "int".toList⟩
  let p : Pattern := ⟨⟨"/n/\x7bint:x\x7d".toList, [.literal "/n/".toList, .var v], by rfl⟩⟩
  let params : Parameters := Dict.ofList [(['x'], .one "+009223372036854775807".toList)]
  have htokens : p.tokens = [.literal "/n/".toList, .var v] := rfl
  have hget : params.get? v.name = some (.one "+009223372036854775807".toList) := rfl
  have hne : "+009223372036854775807".toList ≠ [] := by decide
  have hexpand : p.template.expand params = "/n/%2B009223372036854775807".toList := by
    decide +kernel
  have hdigits : IsDigits "009223372036854775807".toList :=
    ⟨by decide, List.all_eq_true.1 (by decide)⟩
  have hwrites : WritesInteger "+009223372036854775807".toList 9223372036854775807 := by
    have hvalue : placeValue "009223372036854775807".toList = 9223372036854775807 := by
      decide +kernel
    have hplus := WritesInteger.plus hdigits
    rwa [hvalue] at hplus
  have hfits : FitsSixtyFourBits 9223372036854775807 := by
    unfold FitsSixtyFourBits
    omega
  obtain ⟨bindings, hresolve, hinteger, -, -⟩ := resolve_expand_integer htokens rfl hget hne
  rw [hexpand] at hresolve
  exact ⟨p, v, params, bindings, rfl, htokens, rfl, hget, hne, hexpand, hresolve,
    (hinteger 9223372036854775807).2 ⟨hwrites, hfits⟩⟩

/-- The least integer is bound, the one below it and a second sign are not. -/
example :
    let p : Pattern := ⟨⟨"/\x7bint:x\x7d".toList,
      [.literal ['/'], .var ⟨['x'], none, some "int".toList⟩], by rfl⟩⟩
    let value (uri : String) := (p.resolve Binder.standard uri.toList).get? ['x']
    value "/-9223372036854775808" = some (.one (.integer (-9223372036854775808))) ∧
      value "/-9223372036854775809" = none ∧ value "/%2B-1" = none := by
  decide +kernel

end UriRouting
