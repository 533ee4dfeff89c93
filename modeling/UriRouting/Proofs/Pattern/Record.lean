import UriRouting.Proofs.Pattern.Specificity

/-!
# One record for a whole search

In `walk` every branch of the search has a match of its own, and a branch that fails leaves
nothing behind.  `search` keeps one record for all branches.  A literal adds to its count, a
run and an operator append their captures, and none of them takes back what it wrote when the
tokens after it fail: that is left to the nearest run before them, which sets the record back
before it tries its next end.

## 1.  The record

`Match.append` and `Match.count` write to a record, and `Match.setBack` cuts its captures to
a number and its count to a value noted earlier.

## 2.  The search

`Leaves` says what a search may do to a record.  A failed one may leave a count that is too
high and captures that are too many, but the captures that were there are still in front, so
that cutting them to their number brings them back (`Match.setBack_of_prefix`).  A run
therefore tries every end on the record that it was given (`leaves_searchRun`), and the
search finds what `walk` finds (`leaves_search`).

## 3.  Scores

`literalChars_of_search`: what a search adds to the count when it succeeds is the literal text
of the tokens, wherever its runs end and whatever it tried before.  So a pattern has one score
for all URIs that it matches (`Pattern.score?_static`).
-/

namespace UriRouting

/-! ## 1.  The record -/

namespace Match

variable {record left m : Match}

/-- A record with captures after those that it has. -/
def append (captures : List Capture) (record : Match) : Match :=
  { record with captures := record.captures ++ captures }

/-- A record with literal text counted. -/
def count (literal : Text) (record : Match) : Match :=
  { record with literalChars := record.literalChars + literal.length }

/-- A record set back to a number of captures and a count. -/
def setBack (captured literalChars : Nat) (record : Match) : Match :=
  ⟨record.captures.take captured, literalChars⟩

/-- A record with a match after it. -/
def followedBy (record m : Match) : Match :=
  ⟨record.captures ++ m.captures, record.literalChars + m.literalChars⟩

theorem setBack_of_prefix (h : record.captures <+: left.captures) :
    left.setBack record.captures.length record.literalChars = record := by
  rw [setBack, ← List.prefix_iff_eq_take.1 h]

theorem followedBy_empty (record : Match) : record.followedBy empty = record := by
  rw [followedBy, empty, List.append_nil, Nat.add_zero]

theorem empty_followedBy (m : Match) : empty.followedBy m = m := by
  rw [followedBy, empty, List.nil_append, Nat.zero_add]

theorem append_followedBy (captures : List Capture) (record m : Match) :
    (record.append captures).followedBy m = record.followedBy (m.withCaptures captures) := by
  simp only [followedBy, append, withCaptures, List.append_assoc]

theorem count_followedBy (literal : Text) (record m : Match) :
    (record.count literal).followedBy m = record.followedBy (m.withLiteral literal) := by
  simp only [followedBy, count, withLiteral, Nat.add_assoc]

end Match

/-! ## 2.  The search -/

/-- The ends of a run tried in order.  Behind each one that fails, the record is set back. -/
def tryEnds (capture : Text → List Capture) (next : Text → Match → Bool × Match) (text : Text)
    (captured literalChars : Nat) : List Nat → Match → Bool × Match
  | [], record => (false, record)
  | n :: ends, record =>
      match next (text.drop n) (record.append (capture (text.take n))) with
      | (true, left) => (true, left)
      | (false, left) =>
          tryEnds capture next text captured literalChars ends (left.setBack captured literalChars)

/-- The search through a run: what the record has is noted before the first end is tried. -/
def searchRun (ends : List Nat) (capture : Text → List Capture)
    (next : Text → Match → Bool × Match) (text : Text) (record : Match) : Bool × Match :=
  tryEnds capture next text record.captures.length record.literalChars ends record

/-- The search of a token sequence in the whole of a text: whether it succeeds, and the
record that it leaves. -/
def search : List Token → Text → Match → Bool × Match
  | [], text, record => (text.isEmpty, record)
  | .literal lit :: rest, text, record =>
      match stripLiteral? lit text with
      | none => (false, record)
      | some text => search rest text (record.count lit)
  | .wildcard :: rest, text, record =>
      searchRun ((Boundary.before rest).ends .any 0 text) (fun _ => []) (search rest) text record
  | .var v :: rest, text, record =>
      searchRun ((Boundary.before rest).ends .unreserved 1 text)
        (fun raw => [⟨v, .one raw⟩]) (search rest) text record
  | .operator op :: rest, text, record =>
      if op.form == .reserved then
        searchRun ((Boundary.before rest).ends .reserved 1 text)
          (positionalCaptures op.vars) (search rest) text record
      else
        let (captures, text) := op.take (Boundary.before rest) text
        search rest text (record.append captures)

/-- What a search leaves of a record: with a match, the record followed by it; without one,
at least the captures that it had. -/
def Leaves (record : Match) : Option Match → Bool × Match → Prop
  | some m, result => result = (true, record.followedBy m)
  | none, result => result.1 = false ∧ record.captures <+: result.2.captures

theorem leaves_append {record : Match} {captures : List Capture} {found : Option Match}
    {result : Bool × Match} (h : Leaves (record.append captures) found result) :
    Leaves record (found.map (Match.withCaptures captures)) result := by
  cases found with
  | none => exact ⟨h.1, (List.prefix_append record.captures captures).trans h.2⟩
  | some m => exact h.trans (congrArg _ (Match.append_followedBy captures record m))

theorem leaves_count {record : Match} {literal : Text} {found : Option Match}
    {result : Bool × Match} (h : Leaves (record.count literal) found result) :
    Leaves record (found.map (Match.withLiteral literal)) result := by
  cases found with
  | none => exact h
  | some m => exact h.trans (congrArg _ (Match.count_followedBy literal record m))

/-- **Every end of a run is tried on the record that the run was given.** -/
theorem leaves_searchRun {walkNext : Text → Option Match} {next : Text → Match → Bool × Match}
    (hnext : ∀ text record, Leaves record (walkNext text) (next text record)) (ends : List Nat)
    (capture : Text → List Capture) (text : Text) (record : Match) :
    Leaves record (matchRun ends capture walkNext text)
      (searchRun ends capture next text record) := by
  rw [searchRun, matchRun]
  induction ends with
  | nil => exact ⟨rfl, List.prefix_refl _⟩
  | cons n ends ih =>
    have htry := leaves_append (hnext (text.drop n) (record.append (capture (text.take n))))
    rw [List.findSome?_cons, tryEnds]
    rcases hfound : (walkNext (text.drop n)).map (Match.withCaptures (capture (text.take n)))
      with _ | m <;> rw [hfound] at htry
    · -- The end fails, and what it wrote is taken back.
      obtain ⟨hfalse, hprefix⟩ := htry
      rcases hresult : next (text.drop n) (record.append (capture (text.take n))) with ⟨found, left⟩
      rw [hresult] at hfalse hprefix
      obtain rfl : found = false := hfalse
      show Leaves record _ (tryEnds capture next text _ _ ends (left.setBack _ _))
      rw [Match.setBack_of_prefix hprefix]
      exact ih
    · rw [show next (text.drop n) (record.append (capture (text.take n))) = _ from htry]
      rfl

/-- The search with one record finds what the walk finds. -/
theorem leaves_search (tokens : List Token) (text : Text) (record : Match) :
    Leaves record (walk tokens text) (search tokens text record) := by
  induction tokens generalizing text record with
  | nil =>
    rw [walk, search]
    cases text with
    | nil => exact congrArg _ record.followedBy_empty.symm
    | cons c text => exact ⟨rfl, List.prefix_refl _⟩
  | cons token rest ih =>
    cases token with
    | literal lit =>
      rw [walk, search]
      cases stripLiteral? lit text with
      | none => exact ⟨rfl, List.prefix_refl _⟩
      | some text => exact leaves_count (ih text (record.count lit))
    | wildcard => exact leaves_searchRun ih _ _ text record
    | var v => exact leaves_searchRun ih _ _ text record
    | operator op =>
      rw [walk, search]
      split
      · exact leaves_searchRun ih _ _ text record
      · exact leaves_append (ih _ _)

/-- A failed search leaves the count of the literal it stood behind. -/
example : search [.literal ['/'], .wildcard, .literal ['-']] ['/', 'a'] .empty =
    (false, ⟨[], 1⟩) := by decide

/-! ## 3.  Scores -/

/-- Whatever is tried and abandoned on the way, a search that succeeds adds the literal text
of the tokens to the count, once. -/
theorem literalChars_of_search {tokens : List Token} {text : Text} {record left : Match}
    (h : search tokens text record = (true, left)) :
    left.literalChars = record.literalChars + literalLengthOf tokens := by
  have hleaves := leaves_search tokens text record
  rw [h] at hleaves
  rcases hwalk : walk tokens text with _ | m <;> rw [hwalk] at hleaves
  · cases hleaves.1
  · obtain rfl : left = record.followedBy m := congrArg Prod.snd hleaves
    exact congrArg (record.literalChars + ·) (literalChars_of_walk hwalk)

namespace Pattern

/-- The record of a successful search of a pattern in a URI. -/
def recorded? (p : Pattern) (uri : Text) : Option Match :=
  if p.isAmbiguous then none
  else
    match search p.tokens uri .empty with
    | (true, record) => some record
    | (false, _) => none

theorem recorded?_eq_match? (p : Pattern) (uri : Text) : p.recorded? uri = p.match? uri := by
  rw [recorded?, match?]
  split
  · rfl
  have hleaves := leaves_search p.tokens uri .empty
  rcases hsearch : search p.tokens uri .empty with ⟨found, record⟩
  rw [hsearch] at hleaves
  rcases hwalk : walk p.tokens uri with _ | m <;> rw [hwalk] at hleaves
  · obtain rfl : found = false := hleaves.1
    rfl
  · rw [Leaves, Match.empty_followedBy] at hleaves
    cases hleaves
    rfl

/-- **The score of a pattern is the same for every URI that it matches**: the literal text and
the other tokens that it has.  The record of the search counts the same whatever it had
counted before, and a URI has room for all that is counted. -/
theorem score?_static (p : Pattern) (uri : Text) :
    (∀ score, p.score? uri = some score ↔ p.isMatch uri = true ∧
      score = ⟨literalLengthOf p.tokens,
        (p.tokens.filter fun token => !token.isLiteral).length⟩) ∧
    (p.recorded? uri).map (fun record => ⟨record.literalChars,
      (p.tokens.filter fun token => !token.isLiteral).length⟩) = p.score? uri ∧
    (∀ record left, search p.tokens uri record = (true, left) →
      left.literalChars = record.literalChars + literalLengthOf p.tokens) ∧
    (p.isMatch uri = true → literalLengthOf p.tokens ≤ uri.length) := by
  refine ⟨fun score => ?_, ?_, fun record left => literalChars_of_search, fun hmatch => ?_⟩
  · rw [score?_eq, Option.ite_none_right_eq_some, Option.some.injEq, specificity]
    exact and_congr_right fun _ => eq_comm
  · rw [recorded?_eq_match?, score?, variableTokens_eq_length_filter]
  · have hscore : p.score? uri = some p.specificity := by rw [score?_eq, if_pos hmatch]
    exact (score?_eq_some hscore).2

end Pattern
end UriRouting
