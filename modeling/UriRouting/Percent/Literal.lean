import UriRouting.Percent.CharClass

/-!
# Comparison with a literal

Literal text of a pattern compares code point by code point, except that the two
digits of each of its escapes may differ in case: `%2F` and `%2f` are the same
delimiter.

`stripLiteral?` removes a literal from the front of a text, and `literalAt` asks
for it at a byte offset, which may lie inside a character or past the end.
-/

namespace UriRouting

/-- What follows `literal` in a text that begins with it, the digits of the
literal's escapes being compared without regard to case. -/
def stripLiteral? : (literal text : Text) → Option Text
  | [], text => some text
  | '%' :: x :: y :: literal, '%' :: text =>
      if isHexDigit x && isHexDigit y then
        match text with
        | a :: b :: rest =>
            if a.toUpper = x.toUpper ∧ b.toUpper = y.toUpper then stripLiteral? literal rest
            else none
        | _ => none
      else stripLiteral? (x :: y :: literal) text
  | c :: literal, d :: text => if c = d then stripLiteral? literal text else none
  | _ :: _, [] => none

/-- Whether a text begins with a literal. -/
def startsWithLiteral (literal text : Text) : Bool := (stripLiteral? literal text).isSome

/-- The text from a byte offset on, when the offset is a character boundary. -/
def dropBytes? : Nat → Text → Option Text
  | 0, t => some t
  | _ + 1, [] => none
  | n + 1, c :: rest =>
      if c.utf8Size ≤ n + 1 then dropBytes? (n + 1 - c.utf8Size) rest else none

/-- Whether `literal` stands in `text` at a byte offset.  Inside a character only
the empty literal does. -/
def literalAt (text : Text) (offset : Nat) (literal : Text) : Bool :=
  match dropBytes? offset text with
  | some rest => startsWithLiteral literal rest
  | none => literal.isEmpty && offset ≤ text.utf8Size

/-- The cuts from `shift` on behind which `literal` stands, `text` being what
follows the cut at `shift` and `most` the number of further cuts to try. -/
def literalCutsFrom (literal : Text) (least shift : Nat) : (most : Nat) → Text → List Nat
  | most + 1, c :: rest =>
      let later := literalCutsFrom literal least (shift + 1) most rest
      if least ≤ shift ∧ startsWithLiteral literal (c :: rest) then shift :: later else later
  | _, text => if least ≤ shift ∧ startsWithLiteral literal text then [shift] else []

/-- The cuts of `text` after `least` to `most` characters behind which `literal`
stands, in ascending order. -/
def literalCuts (literal : Text) (least most : Nat) (text : Text) : List Nat :=
  literalCutsFrom literal least 0 most text

/-- The first cut from `shift` on behind which `literal` stands. -/
def firstLiteralCutFrom? (literal : Text) (least shift : Nat) : (most : Nat) → Text → Option Nat
  | most + 1, c :: rest =>
      if least ≤ shift ∧ startsWithLiteral literal (c :: rest) then some shift
      else firstLiteralCutFrom? literal least (shift + 1) most rest
  | _, text => if least ≤ shift ∧ startsWithLiteral literal text then some shift else none

/-- The first of the cuts of `text` after `least` to `most` characters behind
which `literal` stands. -/
def firstLiteralCut? (literal : Text) (least most : Nat) (text : Text) : Option Nat :=
  firstLiteralCutFrom? literal least 0 most text

end UriRouting
