import UriRouting.Decimal.Binary64
import UriRouting.Text

/-!
# Reading numbers

* `readInteger?` --- an optional sign and ASCII digits, within the range of
  sixty-four bits in two's complement;
* `readDecimal?` --- an optional sign, digits with an optional point, at least
  one of them, and an optional exponent of ten; the value is the nearest
  floating-point number, and a text beyond the greatest one is refused.

Nothing may stand before or after a number, and there are no names for infinite
values.
-/

namespace UriRouting

/-- The value of a sequence of decimal digits. -/
def digitsValue (digits : Text) : Nat :=
  digits.foldl (fun n c => 10 * n + (c.toNat - 48)) 0

/-- The value of a text that consists of at least one digit. -/
def readDigits? (t : Text) : Option Nat :=
  if !t.isEmpty ∧ t.all Char.isDigit then some (digitsValue t) else none

/-- Whether a text begins with a minus sign, and the text without its sign. -/
def readSign : Text → Bool × Text
  | '-' :: rest => (true, rest)
  | '+' :: rest => (false, rest)
  | t => (false, t)

/-- A number with its sign. -/
def withSign (negative : Bool) (n : Nat) : Int := if negative then -(n : Int) else n

/-- The integer that a text writes, if it has at most sixty-four bits. -/
def readInteger? (t : Text) : Option Int := do
  let (negative, digits) := readSign t
  let n := withSign negative (← readDigits? digits)
  if -Int.ofNat (Nat.pow 2 63) ≤ n ∧ n < Int.ofNat (Nat.pow 2 63) then some n else none

/-- The power of ten that follows the digits of a number. -/
def readExponent? : Text → Option Int
  | [] => some 0
  | c :: rest =>
      if c = 'e' ∨ c = 'E' then do
        let (negative, digits) := readSign rest
        some (withSign negative (← readDigits? digits))
      else none

/-- The floating-point number nearest to `± digits · 10 ^ scale`.  Beyond 310
places before the point or 330 zeros after it the outcome is known at once. -/
def ofScaled? (negative : Bool) (digits : Nat) (scale : Int) : Option Binary64 :=
  let places : Int := (Nat.toDigits 10 digits).length + scale
  if digits = 0 ∨ places < -330 then some (Binary64.zero negative)
  else if 310 < places then none
  else Binary64.nearest? negative (digits * Nat.pow 10 scale.toNat) (Nat.pow 10 (-scale).toNat)

/-- The floating-point number that a text writes. -/
def readDecimal? (t : Text) : Option Binary64 := do
  let (negative, t) := readSign t
  let whole := t.takeWhile Char.isDigit
  let rest := t.dropWhile Char.isDigit
  let (fraction, rest) :=
    match rest with
    | '.' :: rest => (rest.takeWhile Char.isDigit, rest.dropWhile Char.isDigit)
    | rest => ([], rest)
  if whole.isEmpty ∧ fraction.isEmpty then none
  else
    let exponent ← readExponent? rest
    ofScaled? negative (digitsValue (whole ++ fraction)) (exponent - fraction.length)

end UriRouting
