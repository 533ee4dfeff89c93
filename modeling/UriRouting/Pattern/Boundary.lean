import UriRouting.Percent.Literal
import UriRouting.Template.Token

/-!
# Where a run ends

A token that takes a run of characters cannot know by itself where to stop.  The
token after it decides: a literal that has to follow, the first character of an
operator that may follow, or nothing at all.

## 1.  Greedy tokens

`Boundary.ends` lists the cuts at which a greedy run may end, in the order in
which they are tried.  Before a literal the longest comes first.  Before an
operator its delimiter's first occurrence comes first, so that the operator gets
as much as it can take, and the whole run comes last.

## 2.  Values inside operators

A value inside an operator is never taken again: `takeValue` decides its end
once, at the first occurrence of a stop text, then of the boundary.  A literal
that closes the pattern has to close the URI too, so there the last possible
occurrence counts and not the first.
-/

namespace UriRouting

/-- What follows a run. -/
inductive Boundary where
  /-- Nothing that would end the run. -/
  | free
  /-- Literal text; `closing` when it is the last token of the pattern. -/
  | literal (text : Text) (closing : Bool)
  /-- The first character of an operator that may match nothing. -/
  | delimiter (c : Char)
  deriving DecidableEq, Repr

namespace Boundary

/-- The boundary that the tokens after a run set. -/
def before : List Token → Boundary
  | .literal text :: rest => .literal text rest.isEmpty
  | .operator op :: _ =>
      match op.form with
      | .queryParameters => .delimiter '?'
      | .pathParameters => .delimiter ';'
      | _ => .free
  | _ => .free

/-! ## 1.  Greedy tokens -/

/-- The lengths that a run of class `k` at the front of `text` may have, in the
order in which they are tried; none is below `least`. -/
def ends (b : Boundary) (k : CharClass) (least : Nat) (text : Text) : List Nat :=
  let run := k.run text
  match b with
  | free => if least ≤ run then [run] else []
  | literal lit _ => (literalCuts lit least run text).reverse
  | delimiter c =>
      let cuts := literalCuts [c] least run text
      if least ≤ run ∧ !cuts.contains run then cuts ++ [run] else cuts

/-! ## 2.  Values inside operators -/

/-- Where a value ends that could go on for `run` characters. -/
def valueEnd (b : Boundary) (least run : Nat) (text : Text) : Nat :=
  match b with
  | free => run
  | delimiter c => (firstLiteralCut? [c] least run text).getD run
  | literal lit false => (firstLiteralCut? lit least run text).getD run
  | literal lit true =>
      let start := text.length - lit.length
      if lit.length ≤ text.length ∧ start ≤ run ∧ startsWithLiteral lit (text.drop start) then start
      else run

end Boundary

/-- A value of class `k` with at least `least` characters at the front of a text,
and what follows it.  It ends at the first occurrence of `stop`, unless that is
empty, and then where the boundary says. -/
def takeValue (k : CharClass) (b : Boundary) (least : Nat) (stop text : Text) :
    Option (Text × Text) :=
  let run :=
    if stop.isEmpty then k.run text
    else (firstLiteralCut? stop least (k.run text) text).getD (k.run text)
  let n := b.valueEnd least run text
  if least ≤ n then some (text.take n, text.drop n) else none

end UriRouting
