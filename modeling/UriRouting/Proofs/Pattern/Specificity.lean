import UriRouting.Proofs.Pattern.Choice
import UriRouting.Proofs.Pattern.Layout

/-!
# How specific a pattern is

A pattern that has a variable, a wildcard or an operator never scores as much as the whole
text read as a literal.  So on the text of a pattern that is all literal, only another
such pattern can compete with it.

## 1.  Literal text

`literalChars_of_walk`: what a match counts as literal text is what the tokens have of it,
whatever the URI.  A match lays the literals out in the URI, which therefore has room for
them (`literalLengthOf_le_length`).  So a pattern has one score for all that it matches, its
`Pattern.specificity` (`Pattern.score?_eq`).

## 2.  Literal patterns

`Pattern.IsLiteral` says that all tokens are literal; since neighbouring literals are one
token, such a pattern is its text (`Pattern.IsLiteral.match?_eq_some_iff`).

## 3.  The best pattern

`Pattern.exceeds_of_not_isLiteral` compares any other pattern with a literal one, and
`Pattern.IsLiteral.choose?_eq_some` and `Pattern.IsLiteral.chosenIndex?_eq_some` draw the
conclusion for the choice.
-/

namespace UriRouting

/-! ## 1.  Literal text -/

/-- The number of code points of literal text in a token sequence. -/
def literalLengthOf : List Token → Nat
  | [] => 0
  | token :: tokens => token.literalLength + literalLengthOf tokens

/-- Of a run, whose end the later tokens decide, nothing counts as literal text. -/
theorem literalChars_of_matchRun {next : Text → Option Match} {length : Nat}
    (hnext : ∀ rest m, next rest = some m → m.literalChars = length) {ends : List Nat}
    {capture : Text → List Capture} {text : Text} {m : Match}
    (h : matchRun ends capture next text = some m) : m.literalChars = length := by
  obtain ⟨n, -, htry⟩ := List.exists_of_findSome?_eq_some h
  obtain ⟨m', hm', rfl⟩ := Option.map_eq_some_iff.1 htry
  exact hnext _ m' hm'

theorem literalChars_of_walk {tokens : List Token} {text : Text} {m : Match}
    (h : walk tokens text = some m) : m.literalChars = literalLengthOf tokens := by
  induction tokens generalizing text m with
  | nil =>
    rw [walk, Option.ite_none_right_eq_some] at h
    cases h.2
    rfl
  | cons token tokens ih =>
    have hnext : ∀ rest m', walk tokens rest = some m' →
        m'.literalChars = literalLengthOf tokens := fun rest m' h => ih h
    cases token with
    | literal lit =>
      rw [walk, Option.bind_eq_bind, Option.bind_eq_some_iff] at h
      obtain ⟨rest, -, hwalk⟩ := h
      obtain ⟨m', hm', rfl⟩ := Option.map_eq_some_iff.1 hwalk
      show lit.length + m'.literalChars = lit.length + literalLengthOf tokens
      rw [ih hm']
    | wildcard => exact (literalChars_of_matchRun hnext h).trans (Nat.zero_add _).symm
    | var v => exact (literalChars_of_matchRun hnext h).trans (Nat.zero_add _).symm
    | operator op =>
      refine Eq.trans ?_ (Nat.zero_add _).symm
      rw [walk] at h
      split at h
      · exact literalChars_of_matchRun hnext h
      · obtain ⟨m', hm', rfl⟩ := Option.map_eq_some_iff.1 h
        exact hnext _ m' hm'

/-- The piece of a token has room for its literal text. -/
theorem Token.Allows.literalLength_le {token : Token} {piece : Piece} (h : token.Allows piece) :
    token.literalLength ≤ piece.text.length := by
  cases token with
  | literal lit =>
    obtain ⟨t, ht, rfl⟩ := h
    have htext : (Piece.skip t).text = t := by
      rw [Piece.text, Piece.skip, Part.textOf_passed_cons, Part.textOf_nil, List.append_nil]
    rw [htext, ht.length_eq]
    exact Nat.le_refl _
  | wildcard => exact Nat.zero_le _
  | var v => exact Nat.zero_le _
  | operator op => exact Nat.zero_le _

theorem literalLengthOf_le_length {tokens : List Token} {pieces : List Piece}
    (h : List.Forall₂ Token.Allows tokens pieces) :
    literalLengthOf tokens ≤ (pieces.flatMap Piece.text).length := by
  induction h with
  | nil => exact Nat.le_refl _
  | cons hallows _ ih =>
    rw [literalLengthOf, List.flatMap_cons, List.length_append]
    exact Nat.add_le_add hallows.literalLength_le ih

namespace Pattern

variable {p q : Pattern} {uri : Text} {score : Score}

theorem variableTokens_eq_length_filter (p : Pattern) :
    p.variableTokens = (p.tokens.filter fun token => !token.isLiteral).length :=
  List.countP_eq_length_filter

/-- How specific a pattern is: the literal text that it has, and its other tokens. -/
def specificity (p : Pattern) : Score :=
  ⟨literalLengthOf p.tokens, (p.tokens.filter fun token => !token.isLiteral).length⟩

/-- The score of a match does not depend on the URI, which is at least as long as the
literal text that the score counts. -/
theorem score?_eq_some (h : p.score? uri = some score) :
    score = p.specificity ∧ literalLengthOf p.tokens ≤ uri.length := by
  obtain ⟨m, hm, rfl⟩ := Option.map_eq_some_iff.1 h
  obtain ⟨pieces, hlayout, -⟩ := layout_of_match? hm
  obtain rfl := hlayout.flatMap_text
  rw [match?, Option.ite_none_left_eq_some] at hm
  refine ⟨?_, literalLengthOf_le_length hlayout.allows⟩
  rw [literalChars_of_walk hm.2, variableTokens_eq_length_filter, specificity]

/-- Every match scores what the pattern has. -/
theorem score?_eq (p : Pattern) (uri : Text) :
    p.score? uri = if p.isMatch uri then some p.specificity else none := by
  rcases hscore : p.score? uri with _ | score
  · have hnone : p.match? uri = none := Option.map_eq_none_iff.1 hscore
    rw [isMatch, hnone, Option.isSome_none, if_neg Bool.false_ne_true]
  · obtain ⟨m, hm, -⟩ := Option.map_eq_some_iff.1 hscore
    rw [isMatch, hm, Option.isSome_some, if_pos rfl, (score?_eq_some hscore).1]

/-! ## 2.  Literal patterns -/

/-- All tokens of a pattern are literal. -/
def IsLiteral (p : Pattern) : Prop := ∀ token ∈ p.tokens, token.isLiteral = true

instance (p : Pattern) : Decidable p.IsLiteral :=
  inferInstanceAs (Decidable (∀ token ∈ p.tokens, token.isLiteral = true))

theorem variableTokens_eq_zero_iff : p.variableTokens = 0 ↔ p.IsLiteral := by
  rw [variableTokens, List.countP_eq_zero, IsLiteral]
  simp only [Bool.not_eq_true', Bool.not_eq_false]

/-- The tokens of a literal pattern are none at all, or one, which is the text. -/
theorem IsLiteral.tokens_eq (h : p.IsLiteral) :
    p.tokens = [] ∧ p.source = [] ∨ p.tokens = [.literal p.source] := by
  have hsource : Token.textOf p.tokens = p.source :=
    Template.textOf_of_parseTokens p.template.parsed
  have hseq : Token.WellFormedSeq p.tokens := p.template.wellFormedSeq_tokens
  rw [IsLiteral] at h
  rw [← hsource]
  generalize p.tokens = tokens at h hseq ⊢
  rcases tokens with _ | ⟨first, tokens⟩
  · exact Or.inl ⟨rfl, rfl⟩
  · obtain ⟨hfirst, htokens⟩ := List.forall_mem_cons.1 h
    rcases tokens with _ | ⟨next, tokens⟩
    · cases first with
      | literal t =>
        rw [Token.textOf_cons, Token.textOf_nil, List.append_nil]
        exact Or.inr rfl
      | wildcard => cases hfirst
      | var v => cases hfirst
      | operator op => cases hfirst
    · -- Two literals in a row would have been read as one.
      obtain ⟨-, happart, -⟩ := Token.wellFormedSeq_cons.1 hseq
      exact absurd ⟨hfirst, htokens next List.mem_cons_self⟩ (happart next rfl)

/-- A literal pattern matches its text up to the case of the escapes. -/
theorem IsLiteral.match?_eq_some_iff (h : p.IsLiteral) {m : Match} :
    p.match? uri = some m ↔ SameLiteral p.source uri ∧ m = ⟨[], p.source.length⟩ := by
  have hambiguous : p.isAmbiguous = false := by
    rw [isAmbiguous]
    rcases h.tokens_eq with ⟨htokens, -⟩ | htokens <;> rw [htokens] <;> rfl
  rw [match?_eq_walk hambiguous]
  rcases h.tokens_eq with ⟨htokens, hsource⟩ | htokens
  · rw [htokens, hsource, walk, sameLiteral_nil_iff, Option.ite_none_right_eq_some,
      List.isEmpty_iff, Option.some.injEq]
    exact and_congr_right fun _ => eq_comm
  · rw [htokens, walk, Option.bind_eq_bind, Option.bind_eq_some_iff]
    constructor
    · rintro ⟨rest, hstrip, hwalk⟩
      obtain ⟨t, rfl, ht⟩ := stripLiteral?_eq_some_iff.1 hstrip
      obtain ⟨m', hm', rfl⟩ := Option.map_eq_some_iff.1 hwalk
      rw [walk, Option.ite_none_right_eq_some, List.isEmpty_iff] at hm'
      obtain ⟨rfl, hempty⟩ := hm'
      cases hempty
      rw [List.append_nil]
      exact ⟨ht, rfl⟩
    · rintro ⟨hsame, rfl⟩
      refine ⟨[], stripLiteral?_eq_some_iff.2 ⟨uri, (List.append_nil uri).symm, hsame⟩, ?_⟩
      rfl

/-- A literal pattern matches its own text, and nothing is captured. -/
theorem IsLiteral.match?_source (h : p.IsLiteral) :
    p.match? p.source = some ⟨[], p.source.length⟩ :=
  h.match?_eq_some_iff.2 ⟨rfl, rfl⟩

theorem IsLiteral.score?_source (h : p.IsLiteral) :
    p.score? p.source = some ⟨p.source.length, 0⟩ := by
  rw [score?, h.match?_source, variableTokens_eq_zero_iff.2 h]
  rfl

/-! ## 3.  The best pattern -/

/-- With a token that is not literal, a pattern scores less than its whole URI would as
literal text. -/
theorem exceeds_of_not_isLiteral (hp : ¬p.IsLiteral) (h : p.score? uri = some score) :
    (⟨uri.length, 0⟩ : Score).exceeds score = true := by
  obtain ⟨rfl, hlength⟩ := score?_eq_some h
  have hvariable : p.specificity.variableTokens ≠ 0 := by
    intro hzero
    refine hp (variableTokens_eq_zero_iff.1 ?_)
    rw [variableTokens_eq_length_filter]
    exact hzero
  rw [Score.exceeds_iff]
  show literalLengthOf p.tokens < uri.length ∨
    uri.length = literalLengthOf p.tokens ∧ 0 < p.specificity.variableTokens
  omega

/-- **The text of a literal pattern is the best match for itself** among patterns of which
no other one is that text up to the case of the escapes. -/
theorem IsLiteral.choose?_eq_some {α : Type} {pattern : α → Pattern} {as : List α} {a : α}
    (ha : a ∈ as) (hliteral : (pattern a).IsLiteral)
    (hother : ∀ b ∈ as, (pattern b).IsLiteral →
      SameLiteral (pattern b).source (pattern a).source → b = a) :
    choose? pattern .best (pattern a).source as = some a := by
  refine choose?_best_eq_some ha hliteral.score?_source fun b hb hne score hscore => ?_
  by_cases hb' : (pattern b).IsLiteral
  · obtain ⟨m, hm, -⟩ := Option.map_eq_some_iff.1 hscore
    have hsame := (hb'.match?_eq_some_iff.1 hm).1
    exact absurd (hother b hb hb' hsame) hne
  · exact exceeds_of_not_isLiteral hb' hscore

/-- The index that is chosen is the pattern's own when no other index has a pattern with
that text up to the case of the escapes. -/
theorem IsLiteral.chosenIndex?_eq_some {patterns : List Pattern} {i : Nat}
    (hi : patterns[i]? = some p) (hliteral : p.IsLiteral)
    (hother : ∀ j q, patterns[j]? = some q → q.IsLiteral → SameLiteral q.source p.source →
      j = i) :
    chosenIndex? .best p.source patterns = some i := by
  have hmem : (p, i) ∈ patterns.zipIdx := List.mk_mem_zipIdx_iff_getElem?.2 hi
  have hchosen : choose? Prod.fst .best p.source patterns.zipIdx = some (p, i) := by
    refine IsLiteral.choose?_eq_some (a := (p, i)) hmem hliteral fun b hb hb' hsame => ?_
    obtain ⟨q, j⟩ := b
    have hj : patterns[j]? = some q := List.mk_mem_zipIdx_iff_getElem?.1 hb
    obtain rfl := hother j q hj hb' hsame
    rw [Option.some.inj (hj.symm.trans hi)]
  rw [chosenIndex?, hchosen]
  rfl

end Pattern
end UriRouting
