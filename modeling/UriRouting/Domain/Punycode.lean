import UriRouting.Text

/-!
# Punycode

Punycode writes a label with letters beyond ASCII in ASCII.  The ASCII characters
of the label come first and a hyphen after them; what follows says where the
others have to be inserted, in ascending order.  The places are written as the
distance from the one before, each a number with the least significant digit
first.  A digit below the threshold of its place is the last one of its number,
and the thresholds adapt to the numbers read before.

`decode?` reads such a text.  All numbers have to fit into thirty-two bits.
-/

namespace UriRouting.Domain.Punycode

/-- Where the reading of the insertions stands. -/
structure State where
  /-- The label so far. -/
  label : Text
  /-- The code point inserted last. -/
  codePoint : Nat := 128
  /-- The place of the next insertion. -/
  place : Nat := 0
  /-- What the thresholds have adapted to. -/
  bias : Nat := 72
  /-- The place at the beginning of the number that is being read. -/
  start : Nat := 0
  /-- The weight of the next digit. -/
  weight : Nat := 1
  /-- The position of the next digit, in steps of thirty-six. -/
  position : Nat := 36

/-- The value of a digit. -/
def digit? (c : Char) : Option Nat :=
  if 'a' ≤ c ∧ c ≤ 'z' then some (c.toNat - 97)
  else if 'A' ≤ c ∧ c ≤ 'Z' then some (c.toNat - 65)
  else if c.isDigit then some (c.toNat - 22)
  else none

/-- A number that fits into thirty-two bits. -/
def bounded? (n : Nat) : Option Nat := if n < 4294967296 then some n else none

/-- The threshold of a position. -/
def threshold (bias position : Nat) : Nat :=
  if position ≤ bias then 1 else if bias + 26 ≤ position then 26 else position - bias

/-- The bias that belongs to a number, found by dividing it by thirty-five `n`
times at most; `found` is the bias of the divisions made before. -/
def biasFrom (found : Nat) : (n : Nat) → (delta : Nat) → Nat
  | 0, delta => found + 36 * delta / (delta + 38)
  | n + 1, delta =>
      if 455 < delta then biasFrom (found + 36) n (delta / 35)
      else found + 36 * delta / (delta + 38)

/-- The bias after an insertion at distance `delta` that makes a label of the
given length. -/
def adapt (delta length : Nat) (isFirst : Bool) : Nat :=
  let delta := if isFirst then delta / 700 else delta / 2
  biasFrom 0 32 (delta + delta / length)

/-- The state after a number has been read to its end. -/
def State.insert? (s : State) : Option State :=
  let length := s.label.length + 1
  let codePoint := s.codePoint + s.place / length
  let place := s.place % length
  if codePoint < 0xD800 ∨ (0xE000 ≤ codePoint ∧ codePoint < 0x110000) then
    some {
      label := s.label.take place ++ Char.ofNat codePoint :: s.label.drop place
      codePoint
      place := place + 1
      bias := adapt (s.place - s.start) length (s.start == 0)
      start := place + 1 }
  else none

/-- The state after one more digit. -/
def State.next? (s : State) (c : Char) : Option State := do
  let digit ← digit? c
  let place ← bounded? (s.place + (← bounded? (digit * s.weight)))
  let t := threshold s.bias s.position
  if digit < t then State.insert? { s with place }
  else
    let weight ← bounded? (s.weight * (36 - t))
    return { s with place, weight, position := s.position + 36 }

/-- The parts before and after the last hyphen, unless nothing stands before it. -/
def splitBase (t : Text) : Text × Text :=
  let inserted := (t.reverse.takeWhile (· != '-')).reverse
  match t.take (t.length - inserted.length) with
  | [] => ([], t)
  | ['-'] => ([], t)
  | base => (base.dropLast, inserted)

/-- The label that a text in ASCII writes. -/
def decode? (t : Text) : Option Text := do
  let (base, inserted) := splitBase t
  let s ← inserted.foldlM State.next? { label := base }
  if s.position = 36 then some s.label else none

end UriRouting.Domain.Punycode
