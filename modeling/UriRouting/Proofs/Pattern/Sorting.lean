import UriRouting.Proofs.Pattern.Choice
import UriRouting.Proofs.Pattern.Specificity

/-!
# The best pattern is the first of the sorted ones

The best of several patterns is found in one pass that keeps the better of two candidates,
the earlier one of equals.  Since a pattern has one score for all URIs that it matches, the
patterns can as well be sorted beforehand, whatever the URI will be: the first that matches
is then the best.

## 1.  Choosing as a recursion

The pass through a list comes to comparing its first element with the best of the others
(`choose?_best_cons`).

## 2.  Sorting

`bySpecificity` is a stable sort (`bySpecificity_perm`, `pairwise_bySpecificity`,
`filter_bySpecificity`).  With one more pattern in front, the sorted list gets it behind those
that are more specific and before all others.  That is where the recursion keeps it, which is
the induction for `choose?_best_eq_first`.

## 3.  The earliest of the best

`Foremost` says of an index that its pattern matches and that no other one does better, or as
well and earlier.  There is one such index at most (`Foremost.eq`), and it is the one that is
chosen (`choose?_best_eq_some_iff`).

## 4.  Choosing in a list

Choosing commutes with maps (`choose?_map`), so it says the same of a pattern and of its index
(`choose?_eq_getElem?`).  `choose?_best_first_allMatching` puts the rules side by side, with
the list of all patterns that match.
-/

namespace UriRouting

namespace Pattern

variable {α β : Type}

/-! ## 1.  Choosing as a recursion -/

variable {pattern : α → Pattern} {rule : MatchRule} {uri : Text} {as : List α} {a : α}

/-- The best of a list is its first element or the best of the others. -/
theorem choose?_best_cons : choose? pattern .best uri (a :: as) =
    if (pattern a).isMatch uri then
      some ((choose? pattern .best uri as).elim a fun b =>
        if (pattern b).specificity.exceeds (pattern a).specificity then b else a)
    else choose? pattern .best uri as := by
  rw [choose?, choose?, List.filterMap_cons, score?_eq]
  by_cases hmatch : (pattern a).isMatch uri = true
  · rw [if_pos hmatch, if_pos hmatch]
    show Option.map Prod.fst (bestOf ((a, (pattern a).specificity) :: _)) = _
    rw [bestOf_cons, Option.map_some]
    rcases hbest : bestOf (as.filterMap fun b =>
      ((pattern b).score? uri).map fun score => (b, score)) with _ | ⟨b, score⟩
    · rfl
    · -- The score beside the best of the others is its own.
      obtain ⟨b', -, hb'⟩ := List.mem_filterMap.1 (mem_of_bestOf_eq_some hbest)
      obtain ⟨score', hscore, hpair⟩ := Option.map_eq_some_iff.1 hb'
      obtain ⟨rfl, rfl⟩ := Prod.mk.inj hpair
      rw [score?_eq, Option.ite_none_right_eq_some] at hscore
      obtain ⟨-, hscore⟩ := hscore
      cases hscore
      show some (keep (a, _) (b', _)).1 = some (if _ then b' else a)
      rw [keep, apply_ite Prod.fst]
  · rw [if_neg hmatch, if_neg hmatch]
    rfl

/-! ## 2.  Sorting -/

/-- A list with the more specific patterns first, and equally specific ones in their order. -/
def bySpecificity (pattern : α → Pattern) (as : List α) : List α :=
  as.mergeSort fun a b => !(pattern b).specificity.exceeds (pattern a).specificity

theorem mem_bySpecificity : a ∈ bySpecificity pattern as ↔ a ∈ as := List.mem_mergeSort

/-- The comparison is transitive, -/
theorem notExceeds_trans (pattern : α → Pattern) (a b c : α)
    (hab : (!(pattern b).specificity.exceeds (pattern a).specificity) = true)
    (hbc : (!(pattern c).specificity.exceeds (pattern b).specificity) = true) :
    (!(pattern c).specificity.exceeds (pattern a).specificity) = true := by
  rw [Bool.not_eq_true'] at hab hbc ⊢
  exact Score.not_exceeds_trans hab hbc

/-- and any two patterns compare. -/
theorem notExceeds_total (pattern : α → Pattern) (a b : α) :
    (!(pattern b).specificity.exceeds (pattern a).specificity ||
      !(pattern a).specificity.exceeds (pattern b).specificity) = true := by
  rw [Bool.or_eq_true, Bool.not_eq_true', Bool.not_eq_true']
  by_cases h : (pattern b).specificity.exceeds (pattern a).specificity = true
  · exact Or.inr (Score.not_exceeds_of_exceeds h)
  · exact Or.inl (Bool.eq_false_iff.2 h)

/-- In the sorted list, a pattern that is put in front of the others stands behind those that
are more specific and before those that are not. -/
theorem bySpecificity_cons (pattern : α → Pattern) (a : α) (as : List α) :
    ∃ before after, bySpecificity pattern (a :: as) = before ++ a :: after ∧
      bySpecificity pattern as = before ++ after ∧
      (∀ b ∈ before, (pattern b).specificity.exceeds (pattern a).specificity = true) ∧
      ∀ b ∈ after, (pattern b).specificity.exceeds (pattern a).specificity = false := by
  obtain ⟨before, after, hcons, hsplit, hbefore⟩ :=
    List.mergeSort_cons (notExceeds_trans pattern) (notExceeds_total pattern) a as
  have hsorted : (before ++ a :: after).Pairwise _ :=
    hcons ▸ List.pairwise_mergeSort (notExceeds_trans pattern) (notExceeds_total pattern) (a :: as)
  refine ⟨before, after, hcons, hsplit, fun b hb => ?_, fun b hb => ?_⟩
  · simpa using hbefore b hb
  · have hle := List.rel_of_pairwise_cons (List.pairwise_append.1 hsorted).2.1 hb
    rwa [Bool.not_eq_true'] at hle

theorem bySpecificity_perm (pattern : α → Pattern) (as : List α) :
    (bySpecificity pattern as).Perm as := List.mergeSort_perm as _

/-- In the sorted list, no pattern is more specific than one before it. -/
theorem pairwise_bySpecificity (pattern : α → Pattern) (as : List α) :
    (bySpecificity pattern as).Pairwise fun a b =>
      (pattern b).specificity.literalChars < (pattern a).specificity.literalChars ∨
        (pattern b).specificity.literalChars = (pattern a).specificity.literalChars ∧
          (pattern a).specificity.variableTokens ≤ (pattern b).specificity.variableTokens := by
  have hsorted := List.pairwise_mergeSort (notExceeds_trans pattern) (notExceeds_total pattern) as
  refine hsorted.imp fun hle => ?_
  rwa [Bool.not_eq_true', Score.exceeds_eq_false_iff] at hle

/-- Equally specific patterns keep their order. -/
theorem filter_bySpecificity (pattern : α → Pattern) (score : Score) (as : List α) :
    (bySpecificity pattern as).filter (fun a => (pattern a).specificity = score) =
      as.filter fun a => (pattern a).specificity = score := by
  induction as with
  | nil => rw [bySpecificity, List.mergeSort_nil]
  | cons a as ih =>
    obtain ⟨before, after, hcons, hsplit, hbefore, -⟩ := bySpecificity_cons pattern a as
    rw [hsplit, List.filter_append] at ih
    rw [hcons, List.filter_append, List.filter_cons, List.filter_cons]
    by_cases ha : (pattern a).specificity = score
    · have hnil : before.filter (fun b => (pattern b).specificity = score) = [] := by
        refine List.filter_eq_nil_iff.2 fun b hb heq => ?_
        have hexceeds := hbefore b hb
        rw [ha, of_decide_eq_true heq, Score.exceeds_irrefl] at hexceeds
        cases hexceeds
      rw [hnil, List.nil_append] at ih
      simp only [ha, decide_true, if_true, hnil, List.nil_append, ih]
    · simp only [ha, decide_false, Bool.false_eq_true, if_false, ih]

/-- **The best pattern is the first one that matches once the list is sorted.** -/
theorem choose?_best_eq_first (pattern : α → Pattern) (uri : Text) (as : List α) :
    choose? pattern .best uri as = choose? pattern .first uri (bySpecificity pattern as) := by
  induction as with
  | nil => rw [bySpecificity, List.mergeSort_nil]; rfl
  | cons a as ih =>
    obtain ⟨before, after, hcons, hsplit, hbefore, hafter⟩ := bySpecificity_cons pattern a as
    rw [choose?_best_cons, ih, hcons, hsplit, choose?, choose?, List.find?_append,
      List.find?_append]
    by_cases hmatch : (pattern a).isMatch uri = true
    · have hfind : (a :: after).find? (fun b => (pattern b).isMatch uri) = some a :=
        List.find?_cons_of_pos hmatch
      rw [if_pos hmatch, hfind]
      rcases hb : before.find? fun b => (pattern b).isMatch uri with _ | b
      · rw [Option.none_or, Option.none_or]
        rcases hb' : after.find? fun b => (pattern b).isMatch uri with _ | b
        · rfl
        · have hless := hafter b (List.mem_of_find?_eq_some hb')
          rw [Option.elim_some, hless, if_neg Bool.false_ne_true]
      · rw [Option.some_or, Option.some_or, Option.elim_some,
          if_pos (hbefore b (List.mem_of_find?_eq_some hb))]
    · have hfind : (a :: after).find? (fun b => (pattern b).isMatch uri) =
          after.find? fun b => (pattern b).isMatch uri := List.find?_cons_of_neg hmatch
      rw [if_neg hmatch, hfind]

/-- An element is chosen if any one matches, -/
theorem choose?_eq_none_iff :
    choose? pattern rule uri as = none ↔ ∀ b ∈ as, (pattern b).isMatch uri = false := by
  cases rule with
  | first => simp only [choose?, List.find?_eq_none, Bool.not_eq_true]
  | best =>
    rw [choose?_best_eq_first]
    simp only [choose?, List.find?_eq_none, Bool.not_eq_true, mem_bySpecificity]

/-- and it is one that matches. -/
theorem mem_of_choose?_eq_some (h : choose? pattern rule uri as = some a) :
    a ∈ as ∧ (pattern a).isMatch uri = true := by
  have hfirst : ∀ {bs : List α}, choose? pattern .first uri bs = some a →
      a ∈ bs ∧ (pattern a).isMatch uri = true := by
    intro bs hbs
    have hfind : bs.find? (fun b => (pattern b).isMatch uri) = some a := hbs
    have hmatch := List.find?_some hfind
    exact ⟨List.mem_of_find?_eq_some hfind, hmatch⟩
  cases rule with
  | first => exact hfirst h
  | best =>
    rw [choose?_best_eq_first] at h
    exact (hfirst h).imp_left mem_bySpecificity.1

/-! ## 3.  The earliest of the best -/

/-- The element at an index has the greatest score for a URI, and no earlier one has it. -/
structure Foremost (pattern : α → Pattern) (uri : Text) (as : List α) (i : Nat) (a : α)
    (top : Score) : Prop where
  /-- The element stands at the index, -/
  getElem?_eq : as[i]? = some a
  /-- and its pattern matches. -/
  score?_eq : (pattern a).score? uri = some top
  /-- No other one has more literal text, or as much of it and fewer other tokens, -/
  greatest : ∀ (j : Nat) (b : α) (score : Score), as[j]? = some b →
    (pattern b).score? uri = some score → score.literalChars < top.literalChars ∨
      score.literalChars = top.literalChars ∧ top.variableTokens ≤ score.variableTokens
  /-- and those with the same score stand behind it. -/
  earliest : ∀ (j : Nat) (b : α), as[j]? = some b → (pattern b).score? uri = some top → i ≤ j

namespace Foremost

variable {i j : Nat} {b : α} {top top' : Score}

theorem eq (h : Foremost pattern uri as i a top) (h' : Foremost pattern uri as j b top') :
    i = j ∧ a = b := by
  obtain rfl : top = top' := Score.eq_of_not_exceeds
    (Score.exceeds_eq_false_iff.2 (h'.greatest i a top h.getElem?_eq h.score?_eq))
    (Score.exceeds_eq_false_iff.2 (h.greatest j b top' h'.getElem?_eq h'.score?_eq))
  obtain rfl := Nat.le_antisymm (h.earliest j b h'.getElem?_eq h'.score?_eq)
    (h'.earliest i a h.getElem?_eq h.score?_eq)
  exact ⟨rfl, Option.some.inj (h.getElem?_eq.symm.trans h'.getElem?_eq)⟩

/-- The first element is foremost when no other one scores more. -/
theorem head (ha : (pattern a).score? uri = some top)
    (hle : ∀ b ∈ as, ∀ score, (pattern b).score? uri = some score → score.exceeds top = false) :
    Foremost pattern uri (a :: as) 0 a top := by
  refine ⟨rfl, ha, fun j b score hb hscore => ?_, fun j b _ _ => Nat.zero_le j⟩
  rw [← Score.exceeds_eq_false_iff]
  cases j with
  | zero =>
    obtain rfl := Option.some.inj hb
    obtain rfl := Option.some.inj (ha.symm.trans hscore)
    exact Score.exceeds_irrefl top
  | succ j => exact hle b (List.mem_of_getElem? hb) score hscore

/-- A foremost element stays so behind one that scores less. -/
theorem cons (h : Foremost pattern uri as i a top)
    (hless : ∀ score, (pattern b).score? uri = some score → top.exceeds score = true) :
    Foremost pattern uri (b :: as) (i + 1) a top := by
  refine ⟨h.getElem?_eq, h.score?_eq, fun j c score hc hscore => ?_, fun j c hc hscore => ?_⟩
  · cases j with
    | zero =>
      obtain rfl := Option.some.inj hc
      exact Score.exceeds_eq_false_iff.1 (Score.not_exceeds_of_exceeds (hless score hscore))
    | succ j => exact h.greatest j c score hc hscore
  · cases j with
    | zero =>
      obtain rfl := Option.some.inj hc
      exact absurd (hless top hscore) (by rw [Score.exceeds_irrefl]; exact Bool.false_ne_true)
    | succ j => exact Nat.succ_le_succ (h.earliest j c hc hscore)

end Foremost

theorem exists_foremost (h : choose? pattern .best uri as = some a) :
    ∃ i top, Foremost pattern uri as i a top := by
  induction as generalizing a with
  | nil => cases h
  | cons c as ih =>
    rw [choose?_best_cons] at h
    by_cases hmatch : (pattern c).isMatch uri = true
    · rw [if_pos hmatch] at h
      have hc : (pattern c).score? uri = some (pattern c).specificity := by
        rw [score?_eq, if_pos hmatch]
      rcases hrest : choose? pattern .best uri as with _ | d <;> rw [hrest] at h
      · -- Nothing else matches.
        obtain rfl := Option.some.inj h
        refine ⟨0, _, Foremost.head hc fun b hb score hscore => ?_⟩
        rw [score?_eq, choose?_eq_none_iff.1 hrest b hb] at hscore
        cases hscore
      · obtain ⟨i, top, hd⟩ := ih hrest
        obtain rfl : (pattern d).specificity = top := by
          have hscore := hd.score?_eq
          rw [score?_eq, if_pos (mem_of_choose?_eq_some hrest).2] at hscore
          exact Option.some.inj hscore
        rw [Option.elim_some, Option.some.injEq] at h
        split at h
        · rename_i hexceeds
          subst h
          refine ⟨i + 1, _, hd.cons fun score hscore => ?_⟩
          rwa [← Option.some.inj (hc.symm.trans hscore)]
        · rename_i hexceeds
          subst h
          refine ⟨0, _, Foremost.head hc fun b hb score hscore => ?_⟩
          obtain ⟨j, hj⟩ := List.getElem?_of_mem hb
          exact Score.not_exceeds_trans (Bool.eq_false_iff.2 hexceeds)
            (Score.exceeds_eq_false_iff.2 (hd.greatest j b score hj hscore))
    · rw [if_neg hmatch] at h
      obtain ⟨i, top, ha⟩ := ih h
      refine ⟨i + 1, top, ha.cons fun score hscore => ?_⟩
      rw [score?_eq, if_neg hmatch] at hscore
      cases hscore

/-- **The best pattern is the earliest of those with the greatest score.** -/
theorem choose?_best_eq_some_iff :
    choose? pattern .best uri as = some a ↔ ∃ i top, Foremost pattern uri as i a top := by
  refine ⟨exists_foremost, fun ⟨i, top, ha⟩ => ?_⟩
  rcases hchoose : choose? pattern .best uri as with _ | b
  · have hmatch := choose?_eq_none_iff.1 hchoose a (List.mem_of_getElem? ha.getElem?_eq)
    have hscore := ha.score?_eq
    rw [score?_eq, hmatch] at hscore
    cases hscore
  · obtain ⟨j, top', hb⟩ := exists_foremost hchoose
    rw [(ha.eq hb).2]

/-! ## 4.  Choosing in a list -/

section Map

variable {f : β → α} {bs : List β}

theorem bySpecificity_map :
    bySpecificity pattern (bs.map f) = (bySpecificity (pattern ∘ f) bs).map f := by
  rw [bySpecificity, bySpecificity, List.map_mergeSort fun b _ c _ => ?_]
  rfl

/-- Choosing looks at the patterns alone. -/
theorem choose?_map :
    choose? pattern rule uri (bs.map f) = (choose? (pattern ∘ f) rule uri bs).map f := by
  cases rule with
  | first => exact List.find?_map
  | best =>
    rw [choose?_best_eq_first, choose?_best_eq_first, bySpecificity_map]
    exact List.find?_map

theorem foremost_map {i : Nat} {top : Score} : Foremost pattern uri (bs.map f) i a top ↔
    ∃ b, f b = a ∧ Foremost (pattern ∘ f) uri bs i b top := by
  have hget : ∀ (j : Nat) (b : β), bs[j]? = some b → (bs.map f)[j]? = some (f b) := by
    intro j b hb
    rw [List.getElem?_map, hb, Option.map_some]
  constructor
  · rintro ⟨hi, hscore, hgreatest, hearliest⟩
    rw [List.getElem?_map, Option.map_eq_some_iff] at hi
    obtain ⟨b, hi, rfl⟩ := hi
    exact ⟨b, rfl, hi, hscore, fun j c score hc => hgreatest j (f c) score (hget j c hc),
      fun j c hc => hearliest j (f c) (hget j c hc)⟩
  · rintro ⟨b, rfl, hi, hscore, hgreatest, hearliest⟩
    refine ⟨hget i b hi, hscore, fun j c score hc => ?_, fun j c hc => ?_⟩
    all_goals
      rw [List.getElem?_map, Option.map_eq_some_iff] at hc
      obtain ⟨c, hc, rfl⟩ := hc
    · exact hgreatest j c score hc
    · exact hearliest j c hc

end Map

variable {patterns : List Pattern} {i : Nat}

/-- The index that is chosen is the one of the pattern that is chosen. -/
theorem choose?_eq_getElem? :
    choose? id rule uri patterns = (chosenIndex? rule uri patterns).bind (patterns[·]?) := by
  have hmap : choose? id rule uri patterns =
      (choose? Prod.fst rule uri patterns.zipIdx).map Prod.fst := by
    conv_lhs => rw [← List.zipIdx_map_fst 0 patterns]
    exact choose?_map
  rw [hmap, chosenIndex?]
  rcases hchoose : choose? Prod.fst rule uri patterns.zipIdx with _ | ⟨p, i⟩
  · rfl
  · exact (List.mk_mem_zipIdx_iff_getElem?.1 (mem_of_choose?_eq_some hchoose).1).symm

theorem chosenIndex?_best_eq_some_iff : chosenIndex? .best uri patterns = some i ↔
    ∃ p top, Foremost id uri patterns i p top := by
  have hmap : ∀ p top, Foremost id uri patterns i p top ↔
      ∃ b : Pattern × Nat, b.1 = p ∧ Foremost Prod.fst uri patterns.zipIdx i b top := by
    intro p top
    conv_lhs => rw [← List.zipIdx_map_fst 0 patterns]
    exact foremost_map
  have hindex : ∀ {j : Nat} {b : Pattern × Nat} {top : Score},
      Foremost Prod.fst uri patterns.zipIdx j b top → b.2 = j := by
    intro j b top hb
    have hj := hb.getElem?_eq
    rw [List.getElem?_zipIdx, Option.map_eq_some_iff] at hj
    obtain ⟨p, -, rfl⟩ := hj
    exact Nat.zero_add j
  rw [chosenIndex?, Option.map_eq_some_iff]
  constructor
  · rintro ⟨b, hb, rfl⟩
    obtain ⟨j, top, hb⟩ := choose?_best_eq_some_iff.1 hb
    exact ⟨b.1, top, (hmap b.1 top).2 ⟨b, rfl, hindex hb ▸ hb⟩⟩
  · rintro ⟨p, top, hp⟩
    obtain ⟨b, -, hb⟩ := (hmap p top).1 hp
    exact ⟨b, choose?_best_eq_some_iff.2 ⟨i, top, hb⟩, hindex hb⟩

theorem mem_allMatching {p : Pattern} :
    p ∈ allMatching uri patterns ↔ p ∈ patterns ∧ p.isMatch uri = true := List.mem_filter

theorem allMatching_eq_nil_iff :
    allMatching uri patterns = [] ↔ ∀ p ∈ patterns, p.isMatch uri = false := by
  simp only [allMatching, List.filter_eq_nil_iff, Bool.not_eq_true]

/-- **The rules compared.**  The sorted list has the patterns in the order of their
specificity, more literal text first and then fewer other tokens, and equally specific ones
as they stood.  The best pattern is the first one of it that matches, and stands where the
greatest score is met first; the first one heads the list of all that match; and either rule
chooses from that list unless it is empty. -/
theorem choose?_best_first_allMatching (uri : Text) (patterns : List Pattern) :
    ((bySpecificity id patterns).Perm patterns ∧
      (bySpecificity id patterns).Pairwise (fun p q =>
        q.specificity.literalChars < p.specificity.literalChars ∨
          q.specificity.literalChars = p.specificity.literalChars ∧
            p.specificity.variableTokens ≤ q.specificity.variableTokens) ∧
      ∀ score, (bySpecificity id patterns).filter (fun p => p.specificity = score) =
        patterns.filter fun p => p.specificity = score) ∧
    choose? id .best uri patterns = choose? id .first uri (bySpecificity id patterns) ∧
    (∀ i, chosenIndex? .best uri patterns = some i ↔
      ∃ p top, Foremost id uri patterns i p top) ∧
    choose? id .first uri patterns = (allMatching uri patterns).head? ∧
    ∀ rule,
      choose? id rule uri patterns = (chosenIndex? rule uri patterns).bind (patterns[·]?) ∧
      (choose? id rule uri patterns = none ↔ allMatching uri patterns = []) ∧
      ∀ p, choose? id rule uri patterns = some p → p ∈ allMatching uri patterns := by
  have hsorted := pairwise_bySpecificity id patterns
  have hstable := fun score => filter_bySpecificity id score patterns
  refine ⟨⟨bySpecificity_perm id patterns, hsorted, hstable⟩,
    choose?_best_eq_first id uri patterns, fun i => chosenIndex?_best_eq_some_iff,
    List.head?_filter.symm, fun rule => ⟨choose?_eq_getElem?, ?_, fun p hp => ?_⟩⟩
  · rw [choose?_eq_none_iff, allMatching_eq_nil_iff]
    rfl
  · exact mem_allMatching.2 (mem_of_choose?_eq_some hp)

/-- A wildcard and a variable behind the same text are equally specific, in either order. -/
example :
    let p : Pattern := ⟨⟨"/a/*".toList, [.literal "/a/".toList, .wildcard], by rfl⟩⟩
    let q : Pattern := ⟨⟨"/a/\x7bx\x7d".toList,
      [.literal "/a/".toList, .var ⟨['x'], none, none⟩], by rfl⟩⟩
    chosenIndex? .best "/a/1".toList [p, q] = some 0 ∧
      chosenIndex? .best "/a/1".toList [q, p] = some 0 := by
  decide +kernel

end Pattern
end UriRouting
