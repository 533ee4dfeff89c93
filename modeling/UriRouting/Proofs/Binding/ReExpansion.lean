import UriRouting.Proofs.Binding.Resolution
import UriRouting.Proofs.Pattern.Layout
import UriRouting.Proofs.Pattern.SelfMatch
import UriRouting.Proofs.Percent.Canonical
import UriRouting.Proofs.Template.Observation

/-!
# Expanding what was resolved

The values that a pattern reads out of an expansion need not be those that were written,
but they write the same text again.  This file proves it for templates of literals and
variables in which no cut of the walk can fall into a character.

## 1.  What an expansion depends on

`expandTokens_congr`: an expansion depends on the values of its variables alone.

## 2.  Pieces of an expansion

An expansion is canonical (`canonical_expand`): its escapes are those of whole characters.
A variable ends in front of a literal that begins outside every escape, so each of its
pieces is what encoding writes for some text (`exists_encode_of_accepts`), and a split of
a canonical text is the one that some parameters write (`exists_written_of_split`).

## 3.  Bound values as parameters

`Bindings.toParameters` gives every variable the text that it is bound to, and
`expand_toParameters` is the result.
-/

namespace UriRouting

open Template (expandToken expandTokens)

/-! ## 1.  What an expansion depends on -/

section Congruence

variable {params params' : Parameters}

theorem expandToken_congr {token : Token}
    (h : ∀ v ∈ token.vars, params.lookup v = params'.lookup v) :
    expandToken params token = expandToken params' token :=
  expandToken_congr_items fun v hv => congrArg _ (h v hv)

/-- **An expansion depends on the values of its variables alone.** -/
theorem expandTokens_congr {tokens : List Token}
    (h : ∀ v ∈ tokens.flatMap Token.vars, params.lookup v = params'.lookup v) :
    expandTokens tokens params = expandTokens tokens params' :=
  expandTokens_congr_items fun v hv => congrArg _ (h v hv)

end Congruence

namespace Parameters

variable {params : Parameters}

/-- Any variable may be given a text that is not empty, and no other name is affected. -/
theorem exists_lookup_eq (params : Parameters) (v : Variable) {s : Text} (hs : s ≠ []) :
    ∃ params' : Parameters, params'.lookup v = some (.one s) ∧
      ∀ w : Variable, w.name ≠ v.name → params'.lookup w = params.lookup w := by
  refine ⟨Dict.insert params v.name (.one s), ?_, fun w hw => ?_⟩
  · exact lookup_of_get? hs (by rw [Dict.get?_insert, if_pos rfl])
  · rw [lookup, Dict.get?_insert, if_neg (Ne.symm hw), lookup]

end Parameters

/-! ## 2.  Pieces of an expansion -/

/-- Whether a token is a variable, or a literal without `%`. -/
def Token.isPlain : Token → Bool
  | literal lit => !lit.contains '%'
  | var _ => true
  | _ => false

theorem Token.isLiteral_or_isGreedy_of_isPlain {token : Token} (h : token.isPlain = true) :
    token.isLiteral = true ∨ token.isGreedy = true := by
  cases token with
  | literal lit => exact Or.inl rfl
  | wildcard => cases h
  | var v => exact Or.inr rfl
  | operator op => cases h

theorem notMem_of_isPlain {lit : Text} (h : (Token.literal lit).isPlain = true) : '%' ∉ lit := by
  simpa [Token.isPlain] using h

/-- An expansion of plain tokens is canonical. -/
theorem canonical_expand {params : Parameters} {tokens : List Token}
    (hplain : ∀ token ∈ tokens, token.isPlain = true) (h : params.Shows tokens) :
    Percent.Canonical (expandTokens tokens params) := by
  induction tokens with
  | nil => exact Percent.Canonical.nil
  | cons token tokens ih =>
    obtain ⟨htoken, hplain⟩ := List.forall_mem_cons.1 hplain
    refine Percent.Canonical.append ?_ (ih hplain h.of_cons)
    cases token with
    | literal lit => exact Percent.canonical_of_notMem (notMem_of_isPlain htoken)
    | wildcard => cases htoken
    | var v =>
      obtain ⟨s, -, hlookup⟩ := h.var v List.mem_cons_self
      rw [expandToken_var hlookup]
      exact Percent.canonical_encode s
    | operator op => cases htoken

/-- What follows a variable begins outside every escape. -/
theorem Split.head?_outside {tokens : List Token} {text : Text} {pieces : List Text}
    (h : Split tokens text pieces)
    (hnext : tokens = [] ∨ ∃ lit rest, tokens = .literal lit :: rest)
    (hplain : ∀ token ∈ tokens, token.isPlain = true)
    (hstops : keepEscapes (Boundary.before tokens).stops = true) :
    ∀ c ∈ text.head?, c ≠ '%' ∧ isHexDigit c = false := by
  rcases hnext with rfl | ⟨lit, rest, rfl⟩
  · obtain ⟨rfl, -⟩ := split_nil_iff.1 h
    rintro c ⟨⟩
  · obtain ⟨piece, behind, -, rfl, -, haccepts, -⟩ := split_cons_iff.1 h
    have hpercent := notMem_of_isPlain (hplain _ List.mem_cons_self)
    obtain rfl : piece = lit := eq_of_upperEscapes_eq hpercent haccepts
    cases piece with
    | nil => cases hstops
    | cons c piece =>
      rintro d ⟨⟩
      rw [List.mem_cons, not_or] at hpercent
      refine ⟨Ne.symm hpercent.1, ?_⟩
      simpa [keepEscapes, Boundary.before, Boundary.stops, startsOutsideDigits] using hstops

/-- **A piece of a variable is what encoding writes** for some text that is not empty. -/
theorem exists_encode_of_accepts {v : Variable} {piece rest : Text}
    (haccepts : (Token.var v).Accepts (piece ++ rest) piece)
    (hcanonical : Percent.Canonical (piece ++ rest))
    (hrest : ∀ c ∈ rest.head?, c ≠ '%' ∧ isHexDigit c = false) :
    ∃ s, s ≠ [] ∧ piece = Percent.encode s := by
  have htake : (piece ++ rest).take piece.length = piece := List.take_left
  have hdrop : (piece ++ rest).drop piece.length = rest := List.drop_left
  have hlength : piece.length ≤ (piece ++ rest).length := by
    rw [List.length_append]
    exact Nat.le_add_right _ _
  have hpiece : (Token.var v).Accepts (piece ++ rest) ((piece ++ rest).take piece.length) := by
    rw [htake]
    exact haccepts
  obtain ⟨hleast, hrun⟩ := (Token.accepts_take_iff rfl hlength).1 hpiece
  have hcut : startsWithHexDigit ((piece ++ rest).drop piece.length) = false := by
    rw [hdrop]
    cases rest with
    | nil => rfl
    | cons c rest => exact (hrest c rfl).2
  have hunits := CharClass.units_take_of_le_runOf hrun hcut
  rw [htake] at hunits
  have hmem : ∀ c ∈ piece, c = '%' ∨ isUnreserved c = true := by
    intro c hc
    rcases hunits.mem hc with hpercent | hdigit | hadmitted
    · exact Or.inl hpercent
    · exact Or.inr (isUnreserved_of_isHexDigit hdigit)
    · exact Or.inr hadmitted
  obtain ⟨s, rfl⟩ := (hcanonical.of_append hrest).1.exists_encode_eq hmem
  refine ⟨s, ?_, rfl⟩
  rintro rfl
  exact absurd hleast (Nat.not_succ_le_zero 0)

/-- **A split of a canonical text is one that was written**, under some parameters that
give every variable a text that is not empty. -/
theorem exists_written_of_split {tokens : List Token} {text : Text} {pieces : List Text}
    (hsplit : Split tokens text pieces) (hcanonical : Percent.Canonical text)
    (hplain : ∀ token ∈ tokens, token.isPlain = true)
    (hneighbours : hasGreedyNeighbours tokens = false)
    (hstops : keepEscapes (captureStops tokens) = true)
    (hnames : ((tokens.flatMap Token.vars).map Variable.name).Nodup) :
    ∃ params : Parameters,
      (∀ v ∈ tokens.flatMap Token.vars, ∃ s, s ≠ [] ∧ params.lookup v = some (.one s)) ∧
        pieces = tokens.map (expandToken params) := by
  induction hsplit with
  | nil => exact ⟨Dict.empty, fun v hv => absurd hv List.not_mem_nil, rfl⟩
  | @cons token tokens piece rest pieces haccepts hsplit ih =>
    obtain ⟨htoken, hrestPlain⟩ := List.forall_mem_cons.1 hplain
    rw [captureStops, keepEscapes_append, Bool.and_eq_true] at hstops
    have hrestNeighbours := (hasGreedyNeighbours_cons_iff.1 hneighbours).2
    cases token with
    | literal lit =>
      have hpercent := notMem_of_isPlain htoken
      obtain rfl : piece = lit := eq_of_upperEscapes_eq hpercent haccepts
      obtain ⟨params, hvalues, rfl⟩ := ih (hcanonical.of_append_right hpercent) hrestPlain
        hrestNeighbours hstops.2 hnames
      exact ⟨params, hvalues, rfl⟩
    | wildcard => cases htoken
    | var v =>
      have hnext := eq_nil_or_literal_of_greedy rfl
        (fun next hnext => Token.isLiteral_or_isGreedy_of_isPlain (hrestPlain next hnext))
        hneighbours
      have houtside := hsplit.head?_outside hnext hrestPlain hstops.1
      obtain ⟨s, hs, rfl⟩ := exists_encode_of_accepts haccepts hcanonical houtside
      rw [List.flatMap_cons, Token.vars, List.singleton_append, List.map_cons,
        List.nodup_cons] at hnames
      obtain ⟨params, hvalues, rfl⟩ := ih (hcanonical.of_append houtside).2 hrestPlain
        hrestNeighbours hstops.2 hnames.2
      obtain ⟨params', hself, hothers⟩ := params.exists_lookup_eq v hs
      have hrest : ∀ w ∈ tokens.flatMap Token.vars, params'.lookup w = params.lookup w := by
        intro w hw
        refine hothers w fun hname => hnames.1 ?_
        rw [← hname]
        exact List.mem_map_of_mem hw
      refine ⟨params', ?_, ?_⟩
      · rw [List.flatMap_cons, Token.vars, List.singleton_append, List.forall_mem_cons]
        refine ⟨⟨s, hs, hself⟩, fun w hw => ?_⟩
        rw [hrest w hw]
        exact hvalues w hw
      · rw [List.map_cons, expandToken_var hself]
        refine congrArg _ (List.map_congr_left fun token htoken => ?_)
        refine expandToken_congr fun w hw => (hrest w ?_).symm
        exact List.mem_flatMap.2 ⟨token, htoken, hw⟩
    | operator op => cases htoken

/-- The captures of a split that was written are the values that were written. -/
theorem splitCaptures_expand {params : Parameters} {tokens : List Token}
    (hplain : ∀ token ∈ tokens, token.isPlain = true)
    (hvalues : ∀ v ∈ tokens.flatMap Token.vars, ∃ s, s ≠ [] ∧ params.lookup v = some (.one s)) :
    splitCaptures tokens (tokens.map (expandToken params)) =
      (params.defined (tokens.flatMap Token.vars)).map Capture.written := by
  induction tokens with
  | nil => rfl
  | cons token tokens ih =>
    obtain ⟨htoken, hplain⟩ := List.forall_mem_cons.1 hplain
    rw [List.flatMap_cons, List.forall_mem_append] at hvalues
    rw [List.map_cons, splitCaptures, ih hplain hvalues.2, List.flatMap_cons,
      Parameters.defined_append, List.map_append]
    refine congrArg (· ++ _) ?_
    cases token with
    | literal lit => rfl
    | wildcard => rfl
    | var v =>
      obtain ⟨s, -, hlookup⟩ := hvalues.1 v List.mem_cons_self
      rw [expandToken_var hlookup, Token.vars, Parameters.defined_singleton hlookup]
      rfl
    | operator op => cases htoken

/-! ## 3.  Bound values as parameters -/

/-- The value with every item replaced by its image. -/
def OneOrMany.map {α β : Type} (f : α → β) : OneOrMany α → OneOrMany β
  | one a => one (f a)
  | many as => many (as.map f)

namespace Dict

variable {κ ν μ : Type}

/-- The map with every value replaced by its image. -/
def mapValues (f : ν → μ) (d : Dict κ ν) : Dict κ μ where
  entries := d.entries.map fun entry => (entry.1, f entry.2)
  distinct := by
    rw [List.map_map]
    exact d.distinct

theorem get?_mapValues [DecidableEq κ] (f : ν → μ) (d : Dict κ ν) (k : κ) :
    (d.mapValues f).get? k = (d.get? k).map f := by
  rw [get?, get?, mapValues, List.find?_map, Option.map_map, Option.map_map]
  rfl

end Dict

/-- The parameters that give every name the text that it is bound to. -/
def Bindings.toParameters (bindings : Bindings) : Parameters :=
  bindings.mapValues (OneOrMany.map Scalar.toText)

/-- A template of literals without `%` and untyped variables with distinct names, in which
the end of a variable is never looked for inside an escape. -/
structure Template.IsPlain (t : Template) : Prop where
  /-- The tokens are variables, and literals without `%`. -/
  tokens : ∀ token ∈ t.tokens, token.isPlain = true
  /-- No two variables stand side by side. -/
  unambiguous : (Pattern.mk t).isAmbiguous = false
  /-- No literal behind a variable begins with a hexadecimal digit. -/
  stops : keepEscapes (captureStops t.tokens) = true
  /-- No two variables have the same name. -/
  names : (t.vars.map Variable.name).Nodup
  /-- No variable has a type tag. -/
  untyped : ∀ v ∈ t.vars, v.kind = none

theorem Split.flatten_eq {tokens : List Token} {text : Text} {pieces : List Text}
    (h : Split tokens text pieces) : pieces.flatten = text := by
  induction h with
  | nil => rfl
  | cons _ _ ih => rw [List.flatten_cons, ih]

/-- **Expanding undoes resolving.**  Resolving what a plain template expands to binds every
variable to a text that is not empty, and these texts, although they need not be the ones
that were given, expand to the same URI again. -/
theorem expand_toParameters {t : Template} (h : t.IsPlain) {params : Parameters}
    (hvalues : ∀ v ∈ t.vars, ∃ s, s ≠ [] ∧ params.lookup v = some (.one s)) (binder : Binder) :
    ∃ bindings, (Pattern.mk t).resolve binder (t.expand params) = .resolved bindings ∧
      (∀ v ∈ t.vars, ∃ s, s ≠ [] ∧ bindings.get? v.name = some (.one (.text s))) ∧
      t.expand bindings.toParameters = t.expand params := by
  have hsimple : ∀ token ∈ t.tokens, token.isLiteral = true ∨ token.isGreedy = true :=
    fun token htoken => Token.isLiteral_or_isGreedy_of_isPlain (h.tokens token htoken)
  have hshows : params.Shows t.tokens := by
    refine ⟨fun v hv => hvalues v (List.mem_flatMap.2 ⟨_, hv, List.mem_cons_self⟩), ?_⟩
    intro op hop
    cases h.tokens _ hop
  obtain ⟨m, pieces, hmatch, hgreatest, hcaptures⟩ :=
    Pattern.match?_of_split (p := ⟨t⟩) hsimple h.unambiguous (split_expand hsimple hshows)
  obtain ⟨found, hfound, rfl⟩ := exists_written_of_split hgreatest.split
    (canonical_expand h.tokens hshows) h.tokens h.unambiguous h.stops h.names
  have hbound : ∀ v ∈ t.vars, ∃ s, s ≠ [] ∧ found.lookup v = some (.one s) ∧
      (binder.bindAll m.captures Dict.empty).get? v.name = some (.one (.text s)) := by
    intro v hv
    obtain ⟨s, hs, hlookup⟩ := hfound v hv
    refine ⟨s, hs, hlookup, ?_⟩
    rw [hcaptures, Pattern.tokens, splitCaptures_expand h.tokens hfound]
    have hget := (binder.get?_bindAll_written h.names h.untyped found).1 v hv
    rw [hlookup] at hget
    exact hget
  refine ⟨binder.bindAll m.captures Dict.empty, Pattern.resolve_of_match? hmatch binder, ?_, ?_⟩
  · intro v hv
    obtain ⟨s, hs, -, hget⟩ := hbound v hv
    exact ⟨s, hs, hget⟩
  · have hlookup : ∀ v ∈ t.vars,
        (binder.bindAll m.captures Dict.empty).toParameters.lookup v = found.lookup v := by
      intro v hv
      obtain ⟨s, hs, hlookup, hget⟩ := hbound v hv
      rw [hlookup]
      refine Parameters.lookup_of_get? hs ?_
      rw [Bindings.toParameters, Dict.get?_mapValues, hget]
      rfl
    calc t.expand (binder.bindAll m.captures Dict.empty).toParameters
        = expandTokens t.tokens found := expandTokens_congr hlookup
      _ = (t.tokens.map (expandToken found)).flatten := List.flatMap_def
      _ = t.expand params := hgreatest.split.flatten_eq

/-- The second dash ends the first variable, so that the values change places in part. -/
theorem expand_toParameters_twoDashes :
    ∃ (t : Template) (params : Parameters) (bindings : Bindings),
      t.source = "/\x7ba\x7d-\x7bb\x7d".toList ∧ t.IsPlain ∧
        params.lookup ⟨['a'], none, none⟩ = some (.one ['é']) ∧
        params.lookup ⟨['b'], none, none⟩ = some (.one ['%', '-', 'é']) ∧
        (Pattern.mk t).resolve Binder.standard (t.expand params) = .resolved bindings ∧
        bindings.toParameters.lookup ⟨['a'], none, none⟩ = some (.one ['é', '-', '%']) ∧
        bindings.toParameters.lookup ⟨['b'], none, none⟩ = some (.one ['é']) ∧
        t.expand bindings.toParameters = t.expand params := by
  let t : Template :=
    ⟨"/\x7ba\x7d-\x7bb\x7d".toList,
      [.literal ['/'], .var ⟨['a'], none, none⟩, .literal ['-'], .var ⟨['b'], none, none⟩], by rfl⟩
  let params : Parameters := Dict.ofList [(['a'], .one ['é']), (['b'], .one ['%', '-', 'é'])]
  have hplain : t.IsPlain := ⟨by decide, by decide, by decide, by decide, by decide⟩
  have hvalues : ∀ v ∈ t.vars, ∃ s, s ≠ [] ∧ params.lookup v = some (.one s) := by
    have hvars : t.vars = [⟨['a'], none, none⟩, ⟨['b'], none, none⟩] := rfl
    rw [hvars, List.forall_mem_cons, List.forall_mem_singleton]
    exact ⟨⟨['é'], by decide, rfl⟩, ⟨['%', '-', 'é'], by decide, rfl⟩⟩
  obtain ⟨bindings, hresolve, -, hexpand⟩ :=
    expand_toParameters hplain hvalues Binder.standard
  have hbindings : bindings = Binder.standard.bindAll
      [⟨⟨['a'], none, none⟩, .one "%C3%A9-%25".toList⟩,
        ⟨⟨['b'], none, none⟩, .one "%C3%A9".toList⟩] Dict.empty := by
    have hmatch : (Pattern.mk t).match? (t.expand params) = some
        ⟨[⟨⟨['a'], none, none⟩, .one "%C3%A9-%25".toList⟩,
          ⟨⟨['b'], none, none⟩, .one "%C3%A9".toList⟩], 2⟩ := by decide +kernel
    rw [Pattern.resolve_of_match? hmatch] at hresolve
    cases hresolve
    rfl
  refine ⟨t, params, bindings, rfl, hplain, rfl, rfl, hresolve, ?_, ?_, hexpand⟩
  · rw [hbindings]
    decide +kernel
  · rw [hbindings]
    decide +kernel

end UriRouting
