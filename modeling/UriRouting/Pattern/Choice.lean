import UriRouting.Pattern.Basic
import UriRouting.UnknownName

/-!
# Choosing among patterns

Several patterns may match one URI.  `MatchRule.first` takes the first of them
in their order; `MatchRule.best` takes the one with the greatest score, the
earliest of these when several share it.
-/

namespace UriRouting

/-- How one of several matching patterns is chosen. -/
inductive MatchRule where
  /-- The first one. -/
  | first
  /-- The most specific one. -/
  | best
  deriving DecidableEq, Repr

namespace MatchRule

/-- The rule that a name stands for, in upper or lower case. -/
def ofName (name : Text) : Except UnknownName MatchRule :=
  let lowered := name.lower
  if lowered = "first".toList ∨ lowered = "first_match".toList then .ok first
  else if lowered = "best".toList ∨ lowered = "best_match".toList then .ok best
  else .error (.matchRule name)

/-- The short name of a rule. -/
def name : MatchRule → String
  | first => "first"
  | best => "best"

end MatchRule

namespace Pattern

variable {α : Type}

/-- The candidate with the greatest score, the earliest one of equals. -/
def bestOf : List (α × Score) → Option (α × Score)
  | [] => none
  | candidate :: rest =>
      some (rest.foldl (fun top next => if next.2.exceeds top.2 then next else top) candidate)

/-- The element of a list whose pattern is chosen for a URI. -/
def choose? (pattern : α → Pattern) (rule : MatchRule) (uri : Text) (as : List α) : Option α :=
  match rule with
  | .first => as.find? fun a => (pattern a).isMatch uri
  | .best =>
      (bestOf (as.filterMap fun a => ((pattern a).score? uri).map fun score => (a, score))).map
        Prod.fst

/-- The index of the pattern that is chosen for a URI. -/
def chosenIndex? (rule : MatchRule) (uri : Text) (patterns : List Pattern) : Option Nat :=
  (choose? Prod.fst rule uri patterns.zipIdx).map Prod.snd

/-- Every pattern that matches a URI, in order. -/
def allMatching (uri : Text) (patterns : List Pattern) : List Pattern :=
  patterns.filter fun p => p.isMatch uri

end Pattern
end UriRouting
