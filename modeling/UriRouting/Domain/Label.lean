import UriRouting.Domain.Folding
import UriRouting.Domain.Punycode
import UriRouting.Unicode.Composition
import UriRouting.Unicode.Direction
import UriRouting.Unicode.Joining

/-!
# Labels

A domain name is a sequence of labels.  A label holds no character that separates
the parts of a URL, does not begin with a mark, and has invisible joiners only
where they change the look of the letters beside them.

A label that begins with `xn--` is written in Punycode and stands for the label
that it decodes to, which has to be in folded and composed form.

Where a name has letters that run from right to left, every label has one
direction that its first character gives; a label that runs from right to left
does not mix two kinds of digits.
-/

namespace UriRouting.Domain

open Unicode

/-- The ASCII characters that no label holds. -/
def isDenied (c : Char) : Bool :=
  c.toNat ≤ 32 || c.toNat == 127 || c == '%' || c == '#' || c == '/' || c == ':' || c == '<' ||
    c == '>' || c == '?' || c == '@' || c == '[' || c == '\\' || c == ']' || c == '^' || c == '|'

/-! ## Joiners -/

/-- Whether the first character that is not transparent has a property. -/
def firstOpaque (p : Char → Bool) : Text → Bool
  | [] => false
  | c :: rest => p c || (isTransparent c && firstOpaque p rest)

/-- Whether a joiner or non-joiner stands in its place; `before` is the text
before it, reversed. -/
def isJoinerPlaced (before : Text) (c : Char) (after : Text) : Bool :=
  before.head?.any isVirama ||
    (c == '\u200c' && firstOpaque joinsNext before && firstOpaque joinsPrevious after)

/-- Whether all joiners of a text stand in their places, `before` being the
reversed text before it. -/
def joinersPlaced (before : Text) : Text → Bool
  | [] => true
  | c :: rest =>
      (!(c == '\u200c' || c == '\u200d') || isJoinerPlaced before c rest) &&
        joinersPlaced (c :: before) rest

/-! ## Single labels -/

/-- The greatest length of a label in Punycode, and of one beyond ASCII. -/
def longestEncoded : Nat := 2000

/-- The greatest length of a label beyond ASCII. -/
def longestDecoded : Nat := 1000

/-- Whether a text can be a label. -/
def isLabel (t : Text) : Bool :=
  !t.any (fun c => isDenied c || c == '.') && !t.head?.any isMark && joinersPlaced [] t &&
    (t.all (·.toNat < 128) || t.length ≤ longestDecoded)

/-- What a text in Punycode stands for. -/
def decodeLabel? (encoded : Text) : Option Text := do
  if encoded.isEmpty ∨ encoded.getLast? = some '-' ∨ longestEncoded < encoded.length ∨
      !encoded.all (·.toNat < 128) then none
  else
    let t ← Punycode.decode? encoded
    if t.all isFolded ∧ compose t = t then some t else none

/-- The label that a folded text stands for. -/
def label? (t : Text) : Option Text := do
  let t ←
    match t with
    | 'x' :: 'n' :: '-' :: '-' :: encoded => decodeLabel? encoded
    | _ => some t
  if isLabel t then some t else none

/-! ## Directions -/

/-- Whether a text has a character that belongs to text from right to left. -/
def hasRightToLeft (t : Text) : Bool :=
  t.any fun c => direction c == .right || direction c == .arabicDigit

/-- Whether a label keeps to one direction. -/
def isDirected (t : Text) : Bool :=
  let ds := t.map direction
  let trimmed := (ds.reverse.dropWhile (· == .mark)).reverse
  match ds.head? with
  | none => true
  | some .left =>
      ds.all (fun d => d != .right && d != .arabicDigit) &&
        (trimmed.getLast? == some .left || trimmed.getLast? == some .europeanDigit)
  | some .right =>
      ds.all (· != .left) && trimmed.getLast? != some .neutral &&
        !(ds.contains .europeanDigit && ds.contains .arabicDigit)
  | some _ => false

end UriRouting.Domain
