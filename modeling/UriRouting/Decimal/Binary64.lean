/-!
# Binary floating-point numbers

A `Binary64` is a finite floating-point number of sixty-four bits, kept as sign,
significand and exponent of two.  The fields determine each other's range: the
significand has fifty-three bits, and only at the smallest exponent may its top
bit be missing.  So two numbers are equal exactly when their fields are, except
that zero has two signs.

`Binary64.nearest?` rounds a fraction to the nearest such number, an exact half
going to the even significand, and fails above the largest one.
-/

namespace UriRouting

/-- A finite number `± significand · 2 ^ exponent`. -/
structure Binary64 where
  /-- Whether the number carries a minus sign; zero may. -/
  negative : Bool
  /-- The digits of the number. -/
  significand : Nat
  /-- The power of two that the digits are multiplied with. -/
  exponent : Int
  /-- The significand has at most fifty-three bits. -/
  significand_lt : significand < Nat.pow 2 53
  /-- No exponent is smaller than that of the least number. -/
  le_exponent : -1074 ≤ exponent
  /-- No exponent is greater than that of the greatest number. -/
  exponent_le : exponent ≤ 971
  /-- The significand has all its bits, or the exponent cannot be lowered. -/
  full : Nat.pow 2 52 ≤ significand ∨ exponent = -1074
  deriving DecidableEq, Repr

/-- The quotient of two natural numbers rounded to the nearest, an exact half
going to the even neighbour. -/
def roundHalfEven (n d : Nat) : Nat :=
  let q := n / d
  let r := n % d
  if d < 2 * r ∨ (2 * r = d ∧ q % 2 = 1) then q + 1 else q

/-- The greatest `l` with `2 ^ l ≤ n / d`, for positive `n` and `d`. -/
def floorLog2 (n d : Nat) : Int :=
  let guess : Int := n.log2 - d.log2
  if d * Nat.pow 2 guess.toNat ≤ n * Nat.pow 2 (-guess).toNat then guess else guess - 1

namespace Binary64

/-- The number with the given parts, if they are those of one. -/
def ofParts? (negative : Bool) (significand : Nat) (exponent : Int) : Option Binary64 :=
  if h : significand < Nat.pow 2 53 ∧ -1074 ≤ exponent ∧ exponent ≤ 971 ∧
      (Nat.pow 2 52 ≤ significand ∨ exponent = -1074) then
    some ⟨negative, significand, exponent, h.1, h.2.1, h.2.2.1, h.2.2.2⟩
  else none

/-- Zero with a sign. -/
def zero (negative : Bool) : Binary64 :=
  ⟨negative, 0, -1074, by decide, by decide, by decide, .inr rfl⟩

/-- The number nearest to `± n / d`, for positive `d`; nothing when that lies
beyond the greatest number. -/
def nearest? (negative : Bool) (n d : Nat) : Option Binary64 :=
  if n = 0 then some (zero negative)
  else
    let exponent := max (-1074) (floorLog2 n d - 52)
    let significand :=
      roundHalfEven (n * Nat.pow 2 (-exponent).toNat) (d * Nat.pow 2 exponent.toNat)
    if significand = Nat.pow 2 53 then ofParts? negative (Nat.pow 2 52) (exponent + 1)
    else ofParts? negative significand exponent

end Binary64
end UriRouting
