import UriRouting.Proofs.Pattern.Expansion
import UriRouting.Proofs.Pattern.Split

/-!
# A pattern matches what its template expands to

A value may hold the text of a later literal, so the walk over an expansion need not find
the division that was written.  It finds some division all the same: what was written is
one split of the expansion, and a walk fails only when there is none.

* `Parameters.Shows`: every variable has a text that is not empty, and every operator
  writes something.
* `split_expand`: the expansions of the tokens are a split of the whole.
* `Pattern.match?_of_split`: a pattern matches a text that has a split.
* `Pattern.match?_expand`: so a pattern matches what its own template expands to.
-/

namespace UriRouting

open CharClass (Units)
open Template (expandToken expandTokens expandOperator joinItems)

/-! ## What tokens write -/

/-- A text of the class is no longer than the run that it begins, whatever follows it. -/
theorem CharClass.Units.utf8Size_le_runBytes {k : CharClass} (hk : k ≠ .any) {w : Text}
    (h : Units k.admits w) (rest : Text) : w.utf8Size ≤ k.runBytes (w ++ rest) := by
  rw [runBytes_append hk h]
  exact Nat.le_add_right _ _

/-- What the operator `+` writes is made of unreserved characters, delimiters and escapes. -/
theorem units_expandOperator_reserved {op : Operator} (hform : op.form = .reserved)
    (params : Parameters) : Units CharClass.reserved.admits (expandOperator op params) := by
  have hcomma : CharClass.reserved.admits ',' = true := rfl
  simp only [expandOperator, hform]
  refine units_joined (Units.char (by decide) hcomma Units.nil) fun t ht => ?_
  obtain ⟨entry, -, rfl⟩ := List.mem_map.1 ht
  exact units_joinItems_of hcomma Percent.units_encodeReserved entry.2

/-- Parameters under which every token shows in the expansion. -/
structure Parameters.Shows (params : Parameters) (tokens : List Token) : Prop where
  /-- A variable has a text that is not empty. -/
  var : ∀ v, Token.var v ∈ tokens → ∃ s, s ≠ [] ∧ params.lookup v = some (.one s)
  /-- An operator writes something. -/
  operator : ∀ op, Token.operator op ∈ tokens → expandOperator op params ≠ []

theorem Parameters.Shows.of_cons {params : Parameters} {token : Token} {tokens : List Token}
    (h : params.Shows (token :: tokens)) : params.Shows tokens :=
  ⟨fun v hv => h.var v (List.mem_cons_of_mem _ hv),
    fun op hop => h.operator op (List.mem_cons_of_mem _ hop)⟩

/-- A token accepts what it writes itself, in front of any text. -/
theorem Token.accepts_expandToken {params : Parameters} {token : Token} {tokens : List Token}
    (htoken : token.isLiteral = true ∨ token.isGreedy = true)
    (h : params.Shows (token :: tokens)) (rest : Text) :
    token.Accepts (expandToken params token ++ rest) (expandToken params token) := by
  cases token with
  | literal lit => exact rfl
  | wildcard => trivial
  | var v =>
    obtain ⟨s, hs, hlookup⟩ := h.var v List.mem_cons_self
    rw [expandToken_var hlookup]
    exact ⟨Text.utf8Size_pos_iff.2 (List.length_pos_iff.2 (Percent.encode_ne_nil hs)),
      (Percent.units_encode s).utf8Size_le_runBytes (k := .unreserved) (by decide) rest⟩
  | operator op =>
    have hform : op.form = .reserved := by simpa [isLiteral, isGreedy] using htoken
    have hne : expandOperator op params ≠ [] := h.operator op List.mem_cons_self
    exact ⟨hform, Text.utf8Size_pos_iff.2 (List.length_pos_iff.2 hne),
      (units_expandOperator_reserved hform params).utf8Size_le_runBytes (by decide) rest⟩

/-- **What was written is a split.** -/
theorem split_expand {params : Parameters} {tokens : List Token}
    (hsimple : ∀ token ∈ tokens, token.isLiteral = true ∨ token.isGreedy = true)
    (h : params.Shows tokens) :
    Split tokens (expandTokens tokens params) (tokens.map (expandToken params)) := by
  induction tokens with
  | nil => exact Split.nil
  | cons token tokens ih =>
    obtain ⟨htoken, htokens⟩ := List.forall_mem_cons.1 hsimple
    exact Split.cons (Token.accepts_expandToken htoken h _) (ih htokens h.of_cons)

/-! ## Matches -/

namespace Pattern

/-- A text that has a split is matched, and the captures are those of the greatest one. -/
theorem match?_of_split {p : Pattern}
    (hsimple : ∀ token ∈ p.tokens, token.isLiteral = true ∨ token.isGreedy = true)
    (hambiguous : p.isAmbiguous = false) {uri : Text} {written : List Text}
    (h : Split p.tokens uri written) :
    ∃ m pieces, p.match? uri = some m ∧ GreatestSplit p.tokens uri pieces ∧
      m.captures = splitCaptures p.tokens pieces := by
  have hfinds : FindsGreatest p.tokens uri := walk_findsGreatest hsimple hambiguous uri
  cases hwalk : walk p.tokens uri with
  | none => exact absurd h (hfinds.of_none hwalk written)
  | some m =>
    obtain ⟨pieces, hgreatest, hcaptures⟩ := hfinds.of_some m hwalk
    exact ⟨m, pieces, (match?_eq_walk hambiguous uri).trans hwalk, hgreatest, hcaptures⟩

/-- **A pattern matches its own expansions.**  A template of literals, wildcards,
variables and operators `+`, no two greedy tokens side by side, matches what it expands
to whenever every variable and every operator shows.  The match is that of the greatest
split of the expansion, which may be another one than was written. -/
theorem match?_expand {t : Template}
    (hsimple : ∀ token ∈ t.tokens, token.isLiteral = true ∨ token.isGreedy = true)
    (hambiguous : (Pattern.mk t).isAmbiguous = false) {params : Parameters}
    (h : params.Shows t.tokens) :
    ∃ m pieces, (Pattern.mk t).match? (t.expand params) = some m ∧
      GreatestSplit t.tokens (t.expand params) pieces ∧
      m.captures = splitCaptures t.tokens pieces :=
  match?_of_split (p := ⟨t⟩) hsimple hambiguous (split_expand hsimple h)

/-- The second dash ends the first variable, although the first one was written there;
the last variable has its default. -/
theorem match?_expand_laterLiteral :
    ∃ (t : Template) (params : Parameters),
      t.source = "\x7ba\x7d-\x7bb\x7d%2F\x7b+c,d=/\x7dx*".toList ∧
        (∀ token ∈ t.tokens, token.isLiteral = true ∨ token.isGreedy = true) ∧
        (Pattern.mk t).isAmbiguous = false ∧ params.Shows t.tokens ∧
        t.expand params = "x--y%2F%252F/,?,/x*".toList ∧
        ∃ m pieces, (Pattern.mk t).match? (t.expand params) = some m ∧
          GreatestSplit t.tokens (t.expand params) pieces ∧
          m.captures = splitCaptures t.tokens pieces := by
  let t : Template :=
    ⟨"\x7ba\x7d-\x7bb\x7d%2F\x7b+c,d=/\x7dx*".toList,
      [.var ⟨['a'], none, none⟩, .literal ['-'], .var ⟨['b'], none, none⟩,
        .literal ['%', '2', 'F'],
        .operator ⟨.reserved, [⟨['c'], none, none⟩, ⟨['d'], some ['/'], none⟩]⟩,
        .literal ['x'], .wildcard], by rfl⟩
  let params : Parameters :=
    Dict.ofList [(['a'], .one ['x']), (['b'], .one ['-', 'y']),
      (['c'], .many [['%', '2', 'F', '/'], ['?']])]
  have hsimple : ∀ token ∈ t.tokens, token.isLiteral = true ∨ token.isGreedy = true := by decide
  have hambiguous : (Pattern.mk t).isAmbiguous = false := by decide
  have hshows : params.Shows t.tokens := by
    constructor
    · intro v hv
      have hname : v = ⟨['a'], none, none⟩ ∨ v = ⟨['b'], none, none⟩ := by simpa [t] using hv
      rcases hname with rfl | rfl
      · exact ⟨['x'], by decide, rfl⟩
      · exact ⟨['-', 'y'], by decide, rfl⟩
    · intro op hop
      have hop : op = ⟨.reserved, [⟨['c'], none, none⟩, ⟨['d'], some ['/'], none⟩]⟩ := by
        simpa [t] using hop
      rw [hop]
      decide
  exact ⟨t, params, rfl, hsimple, hambiguous, hshows, by decide +kernel,
    match?_expand hsimple hambiguous hshows⟩

end Pattern
end UriRouting
