import UriRouting.Pattern.Choice
import UriRouting.Proofs.Template.RoundTrip

/-!
# What decides between patterns

## 1.  Scores

`Score.exceeds_iff`: more literal text, or as much of it and fewer other tokens.  This is a
linear order; `Score.exceeds_eq_false_iff` says what it is not to exceed.

## 2.  The best candidate

Of two candidates, `Pattern.keep` keeps the better one, and the first one of equals.  It is
associative, so the pass through a list comes to comparing its first candidate with the best
of the others (`Pattern.bestOf_cons`).  A candidate that exceeds every other one is the best
wherever it stands (`Pattern.bestOf_eq_some`); the order matters between equal scores alone.

## 3.  Choosing

`Pattern.choose?_filter_isMatch` says that a pattern that does not match has no part in
the choice, under either rule, and `Pattern.choose?_best_eq_some` what the best pattern
is.  A text reads as one pattern (`Pattern.parse_eq_ok_iff`), so patterns of one text are one
pattern (`Pattern.eq_of_source_eq`).
-/

namespace UriRouting

/-! ## 1.  Scores -/

theorem Score.exceeds_iff {a b : Score} :
    a.exceeds b = true ↔ b.literalChars < a.literalChars ∨
      a.literalChars = b.literalChars ∧ a.variableTokens < b.variableTokens := by
  unfold exceeds compare
  rw [beq_iff_eq, Ordering.then_eq_gt, Nat.compare_eq_gt, Nat.compare_eq_eq, Nat.compare_eq_gt]

theorem Score.exceeds_eq_false_iff {a b : Score} :
    a.exceeds b = false ↔ a.literalChars < b.literalChars ∨
      a.literalChars = b.literalChars ∧ b.variableTokens ≤ a.variableTokens := by
  rw [← Bool.not_eq_true, Score.exceeds_iff]
  omega

theorem Score.not_exceeds_of_exceeds {a b : Score} (h : a.exceeds b = true) :
    b.exceeds a = false := by
  rw [Score.exceeds_iff] at h
  rw [Score.exceeds_eq_false_iff]
  omega

theorem Score.exceeds_irrefl (a : Score) : a.exceeds a = false := by
  rw [Score.exceeds_eq_false_iff]
  omega

theorem Score.exceeds_trans {a b c : Score} (hba : b.exceeds a = true)
    (hcb : c.exceeds b = true) : c.exceeds a = true := by
  rw [Score.exceeds_iff] at hba hcb ⊢
  omega

theorem Score.not_exceeds_trans {a b c : Score} (hba : b.exceeds a = false)
    (hcb : c.exceeds b = false) : c.exceeds a = false := by
  rw [Score.exceeds_eq_false_iff] at hba hcb ⊢
  omega

theorem Score.eq_of_not_exceeds {a b : Score} (hab : a.exceeds b = false)
    (hba : b.exceeds a = false) : a = b := by
  rw [Score.exceeds_eq_false_iff] at hab hba
  rw [Score.mk.injEq]
  omega

namespace Pattern

variable {α : Type}

/-! ## 2.  The best candidate -/

/-- The better one of two candidates, the first one of equals. -/
def keep (top next : α × Score) : α × Score := if next.2.exceeds top.2 then next else top

theorem keep_assoc (a b c : α × Score) : keep (keep a b) c = keep a (keep b c) := by
  unfold keep
  by_cases hba : b.2.exceeds a.2 = true
  · by_cases hcb : c.2.exceeds b.2 = true
    · have hca := Score.exceeds_trans hba hcb
      simp [hba, hcb, hca]
    · simp [hba, hcb]
  · by_cases hcb : c.2.exceeds b.2 = true
    · simp [hba, hcb]
    · have hca := Score.not_exceeds_trans (Bool.eq_false_iff.2 hba) (Bool.eq_false_iff.2 hcb)
      simp [hba, hcb, hca]

instance : Std.Associative (@keep α) := ⟨keep_assoc⟩

/-- The best candidate of a list is the first one or the best of the others. -/
theorem bestOf_cons (c : α × Score) (candidates : List (α × Score)) :
    bestOf (c :: candidates) = some ((bestOf candidates).elim c (keep c)) := by
  cases candidates with
  | nil => rfl
  | cons d candidates =>
    show some (candidates.foldl keep (keep c d)) = some (keep c (candidates.foldl keep d))
    rw [List.foldl_assoc]

theorem mem_of_bestOf_eq_some {candidates : List (α × Score)} {top : α × Score}
    (h : bestOf candidates = some top) : top ∈ candidates := by
  induction candidates generalizing top with
  | nil => cases h
  | cons c candidates ih =>
    rw [bestOf_cons] at h
    obtain rfl := Option.some.inj h
    rcases hbest : bestOf candidates with _ | best
    · exact List.mem_cons_self
    · show keep c best ∈ c :: candidates
      rw [keep]
      split
      · exact List.mem_cons_of_mem _ (ih hbest)
      · exact List.mem_cons_self

/-- The candidate that exceeds every other one is the best, wherever it stands. -/
theorem bestOf_eq_some {candidates : List (α × Score)} {top : α × Score} (hmem : top ∈ candidates)
    (h : ∀ c ∈ candidates, c ≠ top → top.2.exceeds c.2 = true) : bestOf candidates = some top := by
  induction candidates with
  | nil => cases hmem
  | cons c candidates ih =>
    rw [bestOf_cons]
    by_cases hrest : top ∈ candidates
    · rw [ih hrest fun c hc => h c (List.mem_cons_of_mem _ hc), Option.elim_some, keep]
      by_cases hc : c = top
      · rw [hc, ite_self]
      · rw [if_pos (h c List.mem_cons_self hc)]
    · obtain rfl : top = c := (List.mem_cons.1 hmem).resolve_right hrest
      rcases hbest : bestOf candidates with _ | best
      · rfl
      · have hmem' := mem_of_bestOf_eq_some hbest
        have hexceeds := h best (List.mem_cons_of_mem _ hmem') fun heq => hrest (heq ▸ hmem')
        rw [Option.elim_some, keep, Score.not_exceeds_of_exceeds hexceeds,
          if_neg Bool.false_ne_true]

/-! ## 3.  Choosing -/

variable {pattern : α → Pattern} {rule : MatchRule} {uri : Text} {as : List α}

theorem isMatch_eq_false_iff {p : Pattern} : p.isMatch uri = false ↔ p.match? uri = none := by
  rw [isMatch, Option.isSome_eq_false_iff, Option.isNone_iff_eq_none]

/-- Patterns that do not match have no part in the choice. -/
theorem choose?_filter_isMatch :
    choose? pattern rule uri (as.filter fun a => (pattern a).isMatch uri) =
      choose? pattern rule uri as := by
  cases rule with
  | first =>
    unfold choose?
    simp only [List.find?_filter, and_self, Bool.decide_eq_true]
  | best =>
    unfold choose?
    simp only [List.filterMap_filter]
    congr 3
    funext a
    by_cases h : (pattern a).isMatch uri
    · rw [if_pos h]
    · rw [if_neg h]
      rw [Bool.not_eq_true, isMatch_eq_false_iff] at h
      simp [score?, h]

/-- The rule `best` chooses the pattern that matches with a greater score than any other. -/
theorem choose?_best_eq_some {a : α} {top : Score} (ha : a ∈ as)
    (htop : (pattern a).score? uri = some top)
    (h : ∀ b ∈ as, b ≠ a → ∀ score, (pattern b).score? uri = some score →
      top.exceeds score = true) : choose? pattern .best uri as = some a := by
  have hbest : bestOf (as.filterMap fun a =>
      ((pattern a).score? uri).map fun score => (a, score)) = some (a, top) := by
    refine bestOf_eq_some (List.mem_filterMap.2 ⟨a, ha, by rw [htop]; rfl⟩) fun c hc hne => ?_
    obtain ⟨b, hb, hmap⟩ := List.mem_filterMap.1 hc
    obtain ⟨score, hscore, rfl⟩ := Option.map_eq_some_iff.1 hmap
    refine h b hb (fun hba => hne ?_) score hscore
    subst hba
    rw [Option.some.inj (htop.symm.trans hscore)]
  rw [choose?, hbest]
  rfl

/-- A text reads as the pattern that has it, and as no other. -/
theorem parse_eq_ok_iff {source : Text} {p : Pattern} :
    parse source = .ok p ↔ p.source = source := by
  rw [parse, except_map_eq_ok_iff]
  constructor
  · rintro ⟨template, htemplate, rfl⟩
    exact Template.parse_eq_ok_iff.1 htemplate
  · intro h
    exact ⟨p.template, Template.parse_eq_ok_iff.2 h, rfl⟩

/-- The tokens of a pattern are those of its text. -/
theorem eq_of_source_eq {p q : Pattern} (h : p.source = q.source) : p = q := by
  have hp : parse q.source = .ok p := parse_eq_ok_iff.2 h
  have hq : parse q.source = .ok q := parse_eq_ok_iff.2 rfl
  exact Except.ok.inj (hp.symm.trans hq)

end Pattern
end UriRouting
