import UriRouting.Pattern.Operator

/-!
# Walking a pattern

`walk` matches a token sequence against a whole text, from left to right.  A
literal has to stand at the front; an operator takes what it takes; a greedy
token tries the ends that its boundary lists and keeps the first one after which
the remaining tokens match.
-/

namespace UriRouting

/-- Whether a token takes a run whose end only the tokens after it decide. -/
def Token.isGreedy : Token → Bool
  | .literal _ => false
  | .wildcard => true
  | .var _ => true
  | .operator op => op.form == .reserved

/-- The match with the first of the given ends after which `next` matches, the
text up to that end being captured. -/
def matchRun (ends : List Nat) (capture : Text → List Capture) (next : Text → Option Match)
    (text : Text) : Option Match :=
  ends.findSome? fun n =>
    (next (text.drop n)).map (Match.withCaptures (capture (text.take n)))

/-- The match of a token sequence against the whole of a text. -/
def walk : List Token → Text → Option Match
  | [], text => if text.isEmpty then some .empty else none
  | .literal lit :: rest, text => do
      let text ← stripLiteral? lit text
      (walk rest text).map (Match.withLiteral lit)
  | .wildcard :: rest, text =>
      matchRun ((Boundary.before rest).ends .any 0 text) (fun _ => []) (walk rest) text
  | .var v :: rest, text =>
      matchRun ((Boundary.before rest).ends .unreserved 1 text)
        (fun raw => [⟨v, .one raw⟩]) (walk rest) text
  | .operator op :: rest, text =>
      if op.form == .reserved then
        matchRun ((Boundary.before rest).ends .reserved 1 text)
          (positionalCaptures op.vars) (walk rest) text
      else
        let (captures, text) := op.take (Boundary.before rest) text
        (walk rest text).map (Match.withCaptures captures)

end UriRouting
