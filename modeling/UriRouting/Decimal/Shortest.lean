import UriRouting.Decimal.Binary64

/-!
# Shortest digits

A floating-point number stands for the interval of all numbers that round to it.
Its shortest digits are those of the coarsest decimal grid that has a point in
this interval.  On that grid only the two neighbours of the number come into
question; when both lie in the interval the nearer one is taken, and the tie
rule decides between two that are equally near.

Everything is exact arithmetic on natural numbers: in units of a quarter of the
last binary place the number is `4 m`, the upper end of its interval `4 m + 2`,
and the lower end `4 m - 2`, or `4 m - 1` where the numbers below lie closer
together.  The ends belong to the interval exactly when `m` is even.
-/

namespace UriRouting

/-- Which of two equally near candidates is taken. -/
inductive Tie where
  /-- The greater one. -/
  | up
  /-- The one with the even last digit. -/
  | even
  deriving DecidableEq, Repr

/-- The number `digits · 10 ^ exponent`. -/
structure Digits where
  /-- The decimal digits, as a number. -/
  digits : Nat
  /-- The power of ten of the last digit. -/
  exponent : Int
  deriving DecidableEq, Repr

/-- The same number without zeros at its end. -/
def Digits.trim (d : Digits) : Digits :=
  if h : d.digits ≠ 0 ∧ d.digits % 10 = 0 then trim ⟨d.digits / 10, d.exponent + 1⟩ else d
termination_by d.digits
decreasing_by omega

namespace Binary64

/-- The multiple of `10 ^ p` in the interval of a number that is nearest to the
number. -/
def onGrid? (x : Binary64) (tie : Tie) (p : Int) : Option Nat :=
  let m := x.significand
  -- one quarter of the last binary place, and one step of the grid, over the same denominator
  let quarter := Nat.pow 2 (x.exponent - 2).toNat * Nat.pow 10 (-p).toNat
  let step := Nat.pow 2 (2 - x.exponent).toNat * Nat.pow 10 p.toNat
  let lowest := (4 * m - if m = Nat.pow 2 52 ∧ -1074 < x.exponent then 1 else 2) * quarter
  let highest := (4 * m + 2) * quarter
  let inInterval (c : Nat) : Bool :=
    if m % 2 = 0 then lowest ≤ c * step && c * step ≤ highest
    else lowest < c * step && c * step < highest
  let below := 4 * m * quarter / step
  let above := below + 1
  let prefersAbove : Bool :=
    match Ord.compare (2 * (4 * m * quarter)) ((below + above) * step) with
    | .gt => true
    | .lt => false
    | .eq => tie = .up || below % 2 = 1
  if inInterval above && (prefersAbove || !inInterval below) then some above
  else if inInterval below then some below
  else none

/-- The digits on the first of the grids `10 ^ p`, `10 ^ (p - 1)`, … that has a
point in the interval; `n` further grids are tried before the number is cut off. -/
def shortestFrom (x : Binary64) (tie : Tie) : (n : Nat) → (p : Int) → Digits
  | 0, p => ⟨(x.onGrid? tie p).getD 0, p⟩
  | n + 1, p =>
      match x.onGrid? tie p with
      | some c => ⟨c, p⟩
      | none => shortestFrom x tie n (p - 1)

/-- The fewest digits that round to a number.  Seventeen always suffice; the
search begins at most three grids above the first of them. -/
def shortest (x : Binary64) (tie : Tie) : Digits :=
  if x.significand = 0 then ⟨0, 0⟩
  else
    let log2 : Int := x.significand.log2 + x.exponent
    (x.shortestFrom tie 20 ((log2 + 1) * 30103 / 100000 + 1)).trim

end Binary64
end UriRouting
