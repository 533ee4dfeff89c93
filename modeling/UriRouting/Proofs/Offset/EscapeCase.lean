import UriRouting.Proofs.Offset.Literal

/-!
# Comparison up to the case of escapes

The comparison with a literal looks for escapes in the literal only and counts their digits
down.  The relation that it decides is symmetric all the same: both sides are equal once
the digits of their own escapes are in upper case.

## 1.  Bytes in upper case

`upperEscapeBytes` finds the escapes of a list of bytes from left to right.
`map_byteChar_upperEscapeBytes`: with each byte read as a character, this is `upperEscapes`.

## 2.  The comparison

`startsWithBytes_eq`: read in the same way, the loop over bytes is the comparison of texts,
also where the bytes cut a character in two.

## 3.  The relation

`literalAt_iff_upperEscapeBytes`: what the test at an offset decides, and that at the start
of texts of one size it is an equivalence.
-/

namespace UriRouting

/-! ## 1.  Bytes in upper case -/

/-- A byte with ASCII letters in upper case. -/
def upperByte (b : UInt8) : UInt8 := if 97 ≤ b.toNat ∧ b.toNat ≤ 122 then b - 32 else b

/-- Bytes with the two digits of every complete escape in upper case. -/
def upperEscapeBytes : List UInt8 → List UInt8
  | b :: x :: y :: bytes =>
      if byteChar b == '%' && isEscapeByte (b :: x :: y :: bytes) then
        b :: upperByte x :: upperByte y :: upperEscapeBytes bytes
      else b :: upperEscapeBytes (x :: y :: bytes)
  | bytes => bytes

theorem byteChar_injective {a b : UInt8} (h : byteChar a = byteChar b) : a = b := by
  rw [← UInt8.toNat_inj, ← toNat_byteChar, h, toNat_byteChar]

theorem byteChar_upperByte (b : UInt8) : byteChar (upperByte b) = (byteChar b).toUpper := by
  rw [← Char.toNat_inj, toNat_toUpper, toNat_byteChar, toNat_byteChar, upperByte]
  split
  · rename_i hletter
    exact UInt8.toNat_sub_of_le _ _ (UInt8.le_iff_toNat_le.2 (Nat.le_trans (by decide) hletter.1))
  · rfl

/-- Bytes open an escape exactly if their characters do. -/
theorem opensEscape_map_byteChar (b : UInt8) (bytes : List UInt8) :
    opensEscape ((b :: bytes).map byteChar) =
      (byteChar b == '%' && isEscapeByte (b :: bytes)) := by
  by_cases hb : byteChar b = '%'
  · rcases bytes with _ | ⟨x, _ | ⟨y, bytes⟩⟩
    · simp [opensEscape, isEscapeByte]
    · simp [opensEscape, isEscapeByte]
    · rw [List.map_cons, List.map_cons, List.map_cons, hb, opensEscape, isEscapeByte,
        beq_self_eq_true, Bool.true_and]
  · rw [List.map_cons, opensEscape_cons_of_ne hb, beq_false_of_ne hb, Bool.false_and]

theorem map_byteChar_upperEscapeBytes (bytes : List UInt8) :
    (upperEscapeBytes bytes).map byteChar = upperEscapes (bytes.map byteChar) := by
  fun_induction upperEscapeBytes bytes with
  | case1 b x y bytes hopen ih =>
    rw [Bool.and_eq_true, beq_iff_eq, isEscapeByte, Bool.and_eq_true] at hopen
    obtain ⟨hb, hx, hy⟩ := hopen
    simp only [List.map_cons, hb, byteChar_upperByte, ih, upperEscapes_escape hx hy]
  | case2 b x y bytes hopen ih =>
    rw [← opensEscape_map_byteChar, Bool.not_eq_true] at hopen
    rw [List.map_cons, ih, ← upperEscapes_plain hopen, ← List.map_cons]
  | case3 bytes hshort =>
    -- fewer than three bytes hold no escape
    rcases bytes with _ | ⟨b, _ | ⟨x, _ | ⟨y, bytes⟩⟩⟩
    · rfl
    · simp [upperEscapes]
    · simp [upperEscapes]
    · exact absurd rfl (hshort b x y bytes)

theorem upperEscapeBytes_eq_iff {s t : List UInt8} :
    upperEscapeBytes s = upperEscapeBytes t ↔
      upperEscapes (s.map byteChar) = upperEscapes (t.map byteChar) := by
  rw [← map_byteChar_upperEscapeBytes, ← map_byteChar_upperEscapeBytes]
  exact (List.map_inj_right fun _ _ => byteChar_injective).symm

/-! ## 2.  The comparison -/

/-- To be a digit in either case is to be it in upper case. -/
theorem lowerByte_eq_iff_toUpper {b x : UInt8} (hx : isHexDigit (byteChar x) = true) :
    lowerByte b = lowerByte x ↔ (byteChar b).toUpper = (byteChar x).toUpper := by
  have hiff := lowerByte_eq_iff (b := b) hx
  rw [toNat_byteChar, UInt8.ofNat_toNat] at hiff
  rw [hiff, and_iff_right_iff_imp]
  intro hupper
  refine toNat_lt_of_isHexDigit_byteChar ?_
  rw [← isHexDigit_toUpper, hupper, isHexDigit_toUpper, hx]

/-- **The loop over bytes is the comparison of texts**, each byte being read as a
character. -/
theorem startsWithBytes_eq (literal bytes : List UInt8) :
    startsWithBytes 0 literal bytes =
      startsWithLiteral (literal.map byteChar) (bytes.map byteChar) := by
  rw [Bool.eq_iff_iff, startsWithLiteral, Option.isSome_iff_exists]
  generalize hliteral : literal.map byteChar = t
  induction t using escapeInduction generalizing literal bytes with
  | nil =>
    obtain rfl := List.map_eq_nil_iff.1 hliteral
    exact iff_of_true (by rw [startsWithBytes]) ⟨_, by rw [stripLiteral?]⟩
  | escape x y rest hx hy ih =>
    obtain ⟨p, behindPercent, rfl, hp, hdigits⟩ := List.map_eq_cons_iff.1 hliteral
    obtain ⟨x, behindDigit, rfl, rfl, hdigit⟩ := List.map_eq_cons_iff.1 hdigits
    obtain ⟨y, literal, rfl, rfl, htail⟩ := List.map_eq_cons_iff.1 hdigit
    obtain rfl : p = UInt8.ofNat '%'.toNat :=
      byteChar_injective (hp.trans (byteChar_ofNat (by decide)).symm)
    have hopen : isEscapeByte (UInt8.ofNat '%'.toNat :: x :: y :: literal) = true := by
      rw [isEscapeByte, hx, hy, Bool.and_self]
    rw [startsWithBytes_escape hopen]
    constructor
    · rintro ⟨bytes, rfl, hfirst⟩
      obtain ⟨a, bytes, rfl, ha, hsecond⟩ := startsWithBytes_digit.1 hfirst
      obtain ⟨b, bytes, rfl, hb, hbehind⟩ := startsWithBytes_digit.1 hsecond
      obtain ⟨behind, hstrip⟩ := (ih literal bytes htail).1 hbehind
      refine ⟨behind, (stripLiteral?_escape hx hy).2 ⟨byteChar a, byteChar b, bytes.map byteChar,
        ?_, (lowerByte_eq_iff_toUpper hx).1 ha, (lowerByte_eq_iff_toUpper hy).1 hb, hstrip⟩⟩
      rw [List.map_cons, List.map_cons, List.map_cons, hp]
    · rintro ⟨behind, hstrip⟩
      obtain ⟨a, b, tail, heq, ha, hb, htail'⟩ := (stripLiteral?_escape hx hy).1 hstrip
      obtain ⟨q, behindPercent, rfl, hq, hfirst⟩ := List.map_eq_cons_iff.1 heq
      obtain ⟨a, behindDigit, rfl, rfl, hsecond⟩ := List.map_eq_cons_iff.1 hfirst
      obtain ⟨b, bytes, rfl, rfl, rfl⟩ := List.map_eq_cons_iff.1 hsecond
      obtain rfl := byteChar_injective (hq.trans hp.symm)
      exact ⟨_, rfl, startsWithBytes_digit.2 ⟨a, _, rfl, (lowerByte_eq_iff_toUpper hx).2 ha,
        startsWithBytes_digit.2 ⟨b, bytes, rfl, (lowerByte_eq_iff_toUpper hy).2 hb,
          (ih literal bytes htail).2 ⟨behind, htail'⟩⟩⟩⟩
  | plain c rest hopen ih =>
    obtain ⟨c, literal, rfl, rfl, rfl⟩ := List.map_eq_cons_iff.1 hliteral
    rw [startsWithBytes_plain ((opensEscape_map_byteChar c literal).symm.trans hopen)]
    constructor
    · rintro ⟨bytes, rfl, hbehind⟩
      obtain ⟨behind, hstrip⟩ := (ih literal bytes rfl).1 hbehind
      exact ⟨behind, (stripLiteral?_plain hopen).2 ⟨bytes.map byteChar, List.map_cons, hstrip⟩⟩
    · rintro ⟨behind, hstrip⟩
      obtain ⟨tail, heq, htail⟩ := (stripLiteral?_plain hopen).1 hstrip
      obtain ⟨d, bytes, rfl, hd, rfl⟩ := List.map_eq_cons_iff.1 heq
      obtain rfl := byteChar_injective hd
      exact ⟨bytes, rfl, (ih literal bytes rfl).2 ⟨behind, htail⟩⟩

/-! ## 3.  The relation -/

/-- A text begins with a literal if as many characters of it equal the literal. -/
theorem startsWithLiteral_iff_take {literal text : Text} :
    startsWithLiteral literal text = true ↔
      upperEscapes (text.take literal.length) = upperEscapes literal := by
  rw [startsWithLiteral_iff]
  constructor
  · rintro ⟨piece, rest, rfl, hpiece⟩
    have hlength := congrArg List.length hpiece
    rw [length_upperEscapes, length_upperEscapes] at hlength
    rw [← hlength, List.take_left, hpiece]
  · intro h
    exact ⟨_, _, (List.take_append_drop literal.length text).symm, h⟩

theorem startsWithBytes_iff_take {literal bytes : List UInt8} :
    startsWithBytes 0 literal bytes = true ↔
      upperEscapeBytes (bytes.take literal.length) = upperEscapeBytes literal := by
  rw [startsWithBytes_eq, startsWithLiteral_iff_take, List.length_map, ← List.map_take,
    upperEscapeBytes_eq_iff]

theorem literalAt_iff_take {text literal : Text} {offset : Nat} :
    literalAt text offset literal = true ↔ offset + literal.utf8Size ≤ text.utf8Size ∧
      upperEscapeBytes ((text.utf8.drop offset).take literal.utf8Size) =
        upperEscapeBytes literal.utf8 := by
  rw [← literalAtByte_eq, literalAtByte, Bool.and_eq_true, decide_eq_true_iff,
    startsWithBytes_iff_take, Text.length_utf8]

/-- At the start of a text of its own size, a literal is compared as a whole. -/
theorem literalAt_zero_iff {s t : Text} (h : s.utf8Size = t.utf8Size) :
    literalAt s 0 t = true ↔ upperEscapeBytes s.utf8 = upperEscapeBytes t.utf8 := by
  rw [literalAt_iff_take, Nat.zero_add, List.drop_zero, ← h, List.take_of_length_le (by simp)]
  exact and_iff_right (Nat.le_refl _)

/-- **A literal stands where the text has as many bytes and these equal its own, the digits
of the escapes of both being in upper case.**  So on texts of one size this is an
equivalence, although only the escapes of the literal are looked for. -/
theorem literalAt_iff_upperEscapeBytes :
    (∀ (text literal : Text) (offset : Nat), literalAt text offset literal = true ↔
      offset + literal.utf8Size ≤ text.utf8Size ∧
        upperEscapeBytes ((text.utf8.drop offset).take literal.utf8Size) =
          upperEscapeBytes literal.utf8) ∧
    ∀ size : Nat, Equivalence fun s t : { t : Text // t.utf8Size = size } =>
      literalAt s.1 0 t.1 = true := by
  refine ⟨fun _ _ _ => literalAt_iff_take, fun size => ?_⟩
  have hiff : ∀ s t : { t : Text // t.utf8Size = size },
      literalAt s.1 0 t.1 = true ↔ upperEscapeBytes s.1.utf8 = upperEscapeBytes t.1.utf8 :=
    fun s t => literalAt_zero_iff (s.2.trans t.2.symm)
  constructor
  · intro s
    exact (hiff s s).2 rfl
  · intro s t hst
    exact (hiff t s).2 ((hiff s t).1 hst).symm
  · intro s t u hst htu
    exact (hiff s u).2 (((hiff s t).1 hst).trans ((hiff t u).1 htu))

/-- A `%` in front of an escape opens none, and a truncated escape keeps its case. -/
example : upperEscapeBytes (Text.utf8 "%%4a%4".toList) = Text.utf8 "%%4A%4".toList ∧
    upperEscapeBytes (Text.utf8 "%a".toList) ≠ upperEscapeBytes (Text.utf8 "%A".toList) := by
  decide

end UriRouting
