import UriRouting.Text

/-!
# Tables of code points

Properties of characters are given by tables.  A table is written as a text of
words, one for each run of code points, in ascending order and with all numbers
in hexadecimal: `300-36F` is the run from U+0300 to U+036F.  In a table with
values `100/12E=101` is the run of every second code point from U+0100 to U+012E,
and what follows the equality sign are the numbers of its value.

* `CodeSet` --- a set of characters;
* `CodeMap` --- values of characters.

Both look-ups stop at the first run that lies beyond the character.
-/

namespace UriRouting

/-- The number that upper-case hexadecimal digits write. -/
def hexNumber (t : Text) : Nat :=
  t.foldl (fun n c => 16 * n + (if c.isDigit then c.toNat - 48 else c.toNat - 55)) 0

/-- The words of a text, with spaces and line breaks between them. -/
def words (t : Text) : List Text :=
  (t.fields ' ').flatMap fun line => (line.fields '\n').filter fun word => !word.isEmpty

/-! ## Sets -/

/-- A set of characters as runs of code points, each by its first and last one. -/
abbrev CodeSet := List (Nat × Nat)

namespace CodeSet

/-- The run that a word writes. -/
def readRun (word : Text) : Nat × Nat :=
  match word.splitOnce '-' with
  | some (first, last) => (hexNumber first, hexNumber last)
  | none => (hexNumber word, hexNumber word)

/-- The set that a text writes. -/
def ofText (t : String) : CodeSet := (words t.toList).map readRun

/-- Whether a character belongs to a set whose runs are in ascending order. -/
def has : CodeSet → Char → Bool
  | [], _ => false
  | (first, last) :: rest, c =>
      if c.toNat < first then false else c.toNat ≤ last || has rest c

end CodeSet

/-! ## Maps -/

/-- A run of code points with a value. -/
structure CodeRun where
  /-- The first code point. -/
  first : Nat
  /-- The last code point. -/
  last : Nat
  /-- The distance between neighbours. -/
  step : Nat
  /-- The numbers of the value. -/
  value : List Nat
  deriving DecidableEq, Repr

/-- Values of characters, by runs of code points. -/
abbrev CodeMap := List CodeRun

namespace CodeMap

/-- The run that a word writes. -/
def readRun (word : Text) : CodeRun :=
  let (key, value) := (word.splitOnce '=').getD (word, [])
  let numbers := if value.isEmpty then [] else (value.fields '.').map hexNumber
  match key.splitOnce '-', key.splitOnce '/' with
  | some (first, last), _ => ⟨hexNumber first, hexNumber last, 1, numbers⟩
  | none, some (first, last) => ⟨hexNumber first, hexNumber last, 2, numbers⟩
  | none, none => ⟨hexNumber key, hexNumber key, 1, numbers⟩

/-- The map that a text writes. -/
def ofText (t : String) : CodeMap := (words t.toList).map readRun

/-- The run of a character in a map whose runs are in ascending order. -/
def run? : CodeMap → Char → Option CodeRun
  | [], _ => none
  | r :: rest, c =>
      if c.toNat < r.first then none
      else if c.toNat ≤ r.last ∧ (c.toNat - r.first) % r.step = 0 then some r
      else run? rest c

end CodeMap
end UriRouting
