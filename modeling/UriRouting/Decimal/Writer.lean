import UriRouting.Decimal.Shortest
import UriRouting.Text

/-!
# Writing numbers

A floating-point number is written with its shortest digits.  A `DecimalStyle`
says how: which of two equally near digit sequences is taken, whether a number
without a fraction still shows one, and from which size on an exponent is used.
-/

namespace UriRouting

/-- The decimal digits of a natural number. -/
def writeNat (n : Nat) : Text := Nat.toDigits 10 n

/-- The decimal text of an integer. -/
def writeInt (n : Int) : Text :=
  if n < 0 then '-' :: writeNat n.natAbs else writeNat n.natAbs

/-- How floating-point numbers are written. -/
structure DecimalStyle where
  /-- The choice between equally near digit sequences. -/
  tie : Tie
  /-- Whether a number without a fraction ends in `.0`. -/
  keepsFraction : Bool
  /-- Whether a number with first digit at `10 ^ n` is written without an
  exponent. -/
  isPositional : Int → Bool

namespace DecimalStyle

/-- Digits and a point only: `1`, `0.1`, `100000000000000000000`. -/
def plain : DecimalStyle := ⟨.up, false, fun _ => true⟩

/-- Positional from `0.00001` up to sixteen places, with `.0` on whole numbers,
and an exponent outside: `1.0`, `1e+16`, `9.5e-6`. -/
def json : DecimalStyle := ⟨.even, true, fun n => -5 ≤ n ∧ n < 16⟩

/-- Digits with the point after the first `n` of them. -/
def pointAfter (n : Nat) (digits : Text) : Text :=
  match digits.drop n with
  | [] => digits
  | fraction => digits.take n ++ '.' :: fraction

/-- A number without its sign. -/
def writeDigits (style : DecimalStyle) (d : Digits) : Text :=
  let digits := writeNat d.digits
  let leading : Int := digits.length + d.exponent - 1
  if style.isPositional leading then
    if 0 ≤ d.exponent then
      digits ++ List.replicate d.exponent.toNat '0' ++
        if style.keepsFraction then ['.', '0'] else []
    else if 0 ≤ leading then pointAfter (leading + 1).toNat digits
    else '0' :: '.' :: (List.replicate (-leading - 1).toNat '0' ++ digits)
  else
    pointAfter 1 digits ++ 'e' :: (if leading < 0 then '-' else '+') :: writeNat leading.natAbs

/-- The text of a floating-point number. -/
def write (style : DecimalStyle) (x : Binary64) : Text :=
  let magnitude := style.writeDigits (x.shortest style.tie)
  if x.negative then '-' :: magnitude else magnitude

end DecimalStyle
end UriRouting
