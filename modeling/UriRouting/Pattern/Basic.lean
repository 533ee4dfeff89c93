import UriRouting.Pattern.Walk
import UriRouting.Template.Basic

/-!
# Patterns

A pattern is a template read the other way: it recognises URIs instead of
writing them.  Two greedy tokens side by side leave open where the first one
ends; a pattern that has such a pair is ambiguous and matches nothing.

The score of a match says how specific the pattern was.  More literal text is
more specific; with equal literal text, fewer other tokens are.
-/

namespace UriRouting

/-- A template used to recognise URIs. -/
structure Pattern where
  /-- The template. -/
  template : Template

/-- Whether two neighbours of a token sequence are both greedy. -/
def hasGreedyNeighbours : List Token → Bool
  | a :: b :: rest => (a.isGreedy && b.isGreedy) || hasGreedyNeighbours (b :: rest)
  | _ => false

/-- How specific a pattern was for a URI. -/
structure Score where
  /-- The number of code points that literal tokens matched. -/
  literalChars : Nat
  /-- The number of tokens that are not literal. -/
  variableTokens : Nat
  deriving DecidableEq, Repr

namespace Score

/-- The order of two scores, the more specific one being the greater. -/
def compare (a b : Score) : Ordering :=
  (Ord.compare a.literalChars b.literalChars).then
    (Ord.compare b.variableTokens a.variableTokens)

/-- Whether a score is strictly the more specific one. -/
def exceeds (a b : Score) : Bool := a.compare b == .gt

end Score

namespace Pattern

/-- The pattern of a text, or the first fault in it. -/
def parse (source : Text) : Except TemplateError Pattern := (Template.parse source).map .mk

/-- The text of a pattern. -/
def source (p : Pattern) : Text := p.template.source

/-- The tokens of a pattern. -/
def tokens (p : Pattern) : List Token := p.template.tokens

/-- Two patterns are the same when their tokens are. -/
instance : BEq Pattern := ⟨fun a b => a.tokens == b.tokens⟩

/-- Whether two greedy tokens touch. -/
def isAmbiguous (p : Pattern) : Bool := hasGreedyNeighbours p.tokens

/-- How a pattern matches a URI, if it does. -/
def match? (p : Pattern) (uri : Text) : Option Match :=
  if p.isAmbiguous then none else walk p.tokens uri

/-- Whether a pattern matches a URI. -/
def isMatch (p : Pattern) (uri : Text) : Bool := (p.match? uri).isSome

/-- The number of tokens that are not literal. -/
def variableTokens (p : Pattern) : Nat := p.tokens.countP fun token => !token.isLiteral

/-- The score of a pattern for a URI that it matches. -/
def score? (p : Pattern) (uri : Text) : Option Score :=
  (p.match? uri).map fun m => ⟨m.literalChars, p.variableTokens⟩

/-- The names of the variables, each at its first appearance. -/
def variableNames (p : Pattern) : List Text := p.template.variableNames

end Pattern
end UriRouting
