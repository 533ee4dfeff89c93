import Mathlib.Data.List.Induction
import Mathlib.Data.Nat.Digits.Defs
import UriRouting.Decimal.Reader
import UriRouting.Decimal.Writer

/-!
# Integers of sixty-four bits and their texts

An integer is written with an optional sign and decimal digits, of which any number in
front may be zeros.  `readInteger?` reads exactly the texts of integers within the range
(`readInteger?_eq_some_iff`), whatever their length, and it undoes `writeInt`
(`readInteger?_writeInt`).
-/

namespace UriRouting

/-- The number that decimal digits stand for by their places, the last one being that of
the units. -/
def placeValue (digits : Text) : Nat :=
  Nat.ofDigits 10 (digits.reverse.map fun c => c.toNat - '0'.toNat)

/-- A text of at least one ASCII digit. -/
def IsDigits (t : Text) : Prop := t ≠ [] ∧ ∀ c ∈ t, c.isDigit = true

/-- The texts of an integer. -/
inductive WritesInteger : Text → Int → Prop
  /-- Digits alone. -/
  | unsigned {digits : Text} (h : IsDigits digits) : WritesInteger digits (placeValue digits)
  /-- Digits behind a plus sign. -/
  | plus {digits : Text} (h : IsDigits digits) : WritesInteger ('+' :: digits) (placeValue digits)
  /-- Digits behind a minus sign. -/
  | minus {digits : Text} (h : IsDigits digits) :
      WritesInteger ('-' :: digits) (-(placeValue digits : Int))

/-- The integers of sixty-four bits in two's complement. -/
def FitsSixtyFourBits (k : Int) : Prop := -2 ^ 63 ≤ k ∧ k ≤ 2 ^ 63 - 1

/-! ## 1.  Digits -/

/-- Reading digit by digit adds up the places. -/
theorem digitsValue_eq_placeValue (digits : Text) : digitsValue digits = placeValue digits := by
  induction digits using List.reverseRecOn with
  | nil => rfl
  | append_singleton digits c ih =>
    have hvalue : digitsValue (digits ++ [c]) = 10 * digitsValue digits + (c.toNat - 48) := by
      rw [digitsValue, List.foldl_append]
      rfl
    have hplace : placeValue (digits ++ [c]) = (c.toNat - 48) + 10 * placeValue digits := by
      rw [placeValue, List.reverse_append, List.reverse_singleton, List.singleton_append,
        List.map_cons, Nat.ofDigits_cons]
      rfl
    rw [hvalue, hplace, ih, Nat.add_comm]

theorem readDigits?_eq_some_iff {t : Text} {n : Nat} :
    readDigits? t = some n ↔ IsDigits t ∧ placeValue t = n := by
  unfold readDigits? IsDigits
  rw [Option.ite_none_right_eq_some, digitsValue_eq_placeValue, Option.some.injEq]
  simp

/-! ## 2.  Signs -/

/-- No sign is a digit. -/
theorem readSign_of_isDigits {digits : Text} (h : IsDigits digits) :
    readSign digits = (false, digits) := by
  obtain ⟨-, hdigits⟩ := h
  unfold readSign
  split
  · exact absurd (hdigits '-' List.mem_cons_self) (by decide)
  · exact absurd (hdigits '+' List.mem_cons_self) (by decide)
  · rfl

/-- The texts of an integer are a sign that may be missing and digits. -/
theorem writesInteger_iff {t : Text} {k : Int} :
    WritesInteger t k ↔
      IsDigits (readSign t).2 ∧ withSign (readSign t).1 (placeValue (readSign t).2) = k := by
  constructor
  · intro h
    cases h with
    | unsigned h =>
      rw [readSign_of_isDigits h]
      exact ⟨h, rfl⟩
    | plus h => exact ⟨h, rfl⟩
    | minus h => exact ⟨h, rfl⟩
  · unfold readSign
    split
    · rintro ⟨h, rfl⟩
      exact .minus h
    · rintro ⟨h, rfl⟩
      exact .plus h
    · rintro ⟨h, rfl⟩
      exact .unsigned h

/-! ## 3.  Reading and writing -/

/-- **The texts that are read are those of the integers within the range.** -/
theorem readInteger?_eq_some_iff {t : Text} {k : Int} :
    readInteger? t = some k ↔ WritesInteger t k ∧ FitsSixtyFourBits k := by
  rw [writesInteger_iff]
  unfold readInteger?
  obtain ⟨negative, digits⟩ := readSign t
  show (readDigits? digits).bind _ = some k ↔ _
  simp only [Option.bind_eq_some_iff, readDigits?_eq_some_iff, Option.ite_none_right_eq_some,
    Option.some.injEq]
  have hrange : ∀ n : Int, -Int.ofNat (Nat.pow 2 63) ≤ n ∧ n < Int.ofNat (Nat.pow 2 63) ↔
      FitsSixtyFourBits n := by
    intro n
    have hpow : Int.ofNat (Nat.pow 2 63) = 2 ^ 63 := rfl
    rw [hpow, FitsSixtyFourBits]
    omega
  constructor
  · rintro ⟨n, ⟨hdigits, rfl⟩, hfits, rfl⟩
    exact ⟨⟨hdigits, rfl⟩, (hrange _).1 hfits⟩
  · rintro ⟨⟨hdigits, rfl⟩, hfits⟩
    exact ⟨_, ⟨hdigits, rfl⟩, (hrange _).2 hfits, rfl⟩

theorem isDigits_writeNat (n : Nat) : IsDigits (writeNat n) :=
  ⟨Nat.toDigits_ne_nil, fun _ => Nat.isDigit_of_mem_toDigits (by omega) (by omega)⟩

theorem placeValue_writeNat (n : Nat) : placeValue (writeNat n) = n := by
  rw [← digitsValue_eq_placeValue]
  exact Nat.ofDigitChars_ten_toDigits

theorem writesInteger_writeInt (k : Int) : WritesInteger (writeInt k) k := by
  have hdigits := isDigits_writeNat k.natAbs
  have hvalue : placeValue (writeNat k.natAbs) = k.natAbs := placeValue_writeNat k.natAbs
  unfold writeInt
  split
  · have hminus := WritesInteger.minus hdigits
    rwa [hvalue, show -(k.natAbs : Int) = k by omega] at hminus
  · have hunsigned := WritesInteger.unsigned hdigits
    rwa [hvalue, show (k.natAbs : Int) = k by omega] at hunsigned

/-- **Every integer of sixty-four bits is read back from its text.** -/
theorem readInteger?_writeInt {k : Int} (h : FitsSixtyFourBits k) :
    readInteger? (writeInt k) = some k :=
  readInteger?_eq_some_iff.2 ⟨writesInteger_writeInt k, h⟩

end UriRouting
