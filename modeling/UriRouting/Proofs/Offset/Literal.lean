import UriRouting.Proofs.Offset.Bytes
import UriRouting.Proofs.Percent.Literal

/-!
# Comparing bytes with a literal

A literal is looked for at byte offsets, which may lie inside a character.  The comparison
goes through the bytes once: behind a `%` that opens an escape of the literal it counts
down two digits, whose case does not matter.

## 1.  The comparison

`startsWithBytes` is the loop and `literalAtByte` the test at an offset.

## 2.  At the front of a text

`startsWithBytes_iff`: on the bytes of two texts the loop says whether the one begins with
the other as a literal.

## 3.  At an offset

`literalAtByte_eq`: the test by bytes and the test by characters agree at every offset.  A
literal that is not empty stands at boundaries only (`literalAtByte_eq_true_iff`), because
its first byte is a first byte.
-/

namespace UriRouting

/-! ## 1.  The comparison -/

/-- A byte with ASCII letters in lower case. -/
def lowerByte (b : UInt8) : UInt8 := if 65 ≤ b.toNat ∧ b.toNat ≤ 90 then b + 32 else b

/-- Whether the two bytes behind the first one are hexadecimal digits. -/
def isEscapeByte : List UInt8 → Bool
  | _ :: x :: y :: _ => isHexDigit (byteChar x) && isHexDigit (byteChar y)
  | _ => false

/-- Whether bytes begin with those of a literal, `digits` being the number of bytes to
come that are digits of an escape. -/
def startsWithBytes : (digits : Nat) → (literal bytes : List UInt8) → Bool
  | _, [], _ => true
  | _, _ :: _, [] => false
  | digits + 1, expected :: literal, actual :: bytes =>
      lowerByte actual == lowerByte expected && startsWithBytes digits literal bytes
  | 0, expected :: literal, actual :: bytes =>
      let digits := if byteChar expected == '%' && isEscapeByte (expected :: literal) then 2 else 0
      actual == expected && startsWithBytes digits literal bytes

/-- Whether `literal` stands in `text` at a byte offset. -/
def literalAtByte (text : Text) (offset : Nat) (literal : Text) : Bool :=
  offset + literal.utf8Size ≤ text.utf8Size &&
    startsWithBytes 0 literal.utf8 (text.utf8.drop offset)

/-! ## 2.  At the front of a text -/

theorem toNat_lt_of_isHexDigit {c : Char} (h : isHexDigit c = true) : c.toNat < 128 := by
  have hc := isHexDigit_iff.1 h
  omega

theorem toNat_lt_of_isHexDigit_byteChar {b : UInt8} (h : isHexDigit (byteChar b) = true) :
    b.toNat < 128 := by
  rw [← toNat_byteChar]
  exact toNat_lt_of_isHexDigit h

/-- A byte is a digit in either case exactly if its character is. -/
theorem lowerByte_eq_iff {b : UInt8} {x : Char} (hx : isHexDigit x = true) :
    lowerByte b = lowerByte (UInt8.ofNat x.toNat) ↔
      b.toNat < 128 ∧ (byteChar b).toUpper = x.toUpper := by
  have hdigit := isHexDigit_iff.1 hx
  have hb := b.toNat_lt
  have hlower : ∀ a : UInt8, (lowerByte a).toNat =
      if 65 ≤ a.toNat ∧ a.toNat ≤ 90 then a.toNat + 32 else a.toNat := by
    intro a
    rw [lowerByte]
    split
    · rw [UInt8.toNat_add]
      show (a.toNat + 32) % 256 = _
      omega
    · rfl
  rw [← UInt8.toNat_inj, hlower, hlower, UInt8.toNat_ofNat', Nat.mod_eq_of_lt (by omega),
    ← Char.toNat_inj, toNat_toUpper, toNat_toUpper, toNat_byteChar]
  split <;> split <;> split <;> split <;> omega

/-- An escape in the bytes of a text is an escape of the text. -/
theorem isEscapeByte_utf8 (t : Text) :
    isEscapeByte (UInt8.ofNat '%'.toNat :: t.utf8) = opensEscape ('%' :: t) := by
  rw [Bool.eq_iff_iff]
  constructor
  · intro h
    unfold isEscapeByte at h
    split at h
    · rename_i x y bs heq
      rw [Bool.and_eq_true] at h
      obtain ⟨t, rfl, ht⟩ :=
        Text.eq_cons_of_utf8_eq_cons (List.cons.inj heq).2 (toNat_lt_of_isHexDigit_byteChar h.1)
      obtain ⟨t, rfl, -⟩ :=
        Text.eq_cons_of_utf8_eq_cons ht (toNat_lt_of_isHexDigit_byteChar h.2)
      exact opensEscape_escape h.1 h.2 t
    · cases h
  · intro h
    obtain ⟨x, y, rest, heq, hx, hy⟩ := exists_of_opensEscape h
    rw [(List.cons.inj heq).2, Text.utf8_cons_of_lt (toNat_lt_of_isHexDigit hx),
      Text.utf8_cons_of_lt (toNat_lt_of_isHexDigit hy), isEscapeByte,
      byteChar_ofNat (toNat_lt_of_isHexDigit hx), byteChar_ofNat (toNat_lt_of_isHexDigit hy),
      hx, hy, Bool.and_self]

/-- The digits of an escape are compared without regard to case. -/
theorem startsWithBytes_digit {digits : Nat} {expected : UInt8} {literal bytes : List UInt8} :
    startsWithBytes (digits + 1) (expected :: literal) bytes = true ↔
      ∃ actual rest, bytes = actual :: rest ∧ lowerByte actual = lowerByte expected ∧
        startsWithBytes digits literal rest = true := by
  cases bytes with
  | nil => exact iff_of_false Bool.false_ne_true nofun
  | cons actual rest =>
    rw [startsWithBytes, Bool.and_eq_true, beq_iff_eq]
    constructor
    · exact fun h => ⟨actual, rest, rfl, h⟩
    · rintro ⟨_, _, heq, h⟩
      obtain ⟨rfl, rfl⟩ := List.cons.inj heq
      exact h

/-- Any other byte is compared as it is, and may open an escape. -/
theorem startsWithBytes_cons {expected : UInt8} {literal bytes : List UInt8} :
    startsWithBytes 0 (expected :: literal) bytes = true ↔
      ∃ rest, bytes = expected :: rest ∧
        startsWithBytes (if byteChar expected == '%' && isEscapeByte (expected :: literal) then 2
          else 0) literal rest = true := by
  cases bytes with
  | nil => exact iff_of_false Bool.false_ne_true nofun
  | cons actual rest =>
    rw [startsWithBytes, Bool.and_eq_true, beq_iff_eq]
    constructor
    · rintro ⟨rfl, hrest⟩
      exact ⟨rest, rfl, hrest⟩
    · rintro ⟨_, heq, hrest⟩
      obtain ⟨rfl, rfl⟩ := List.cons.inj heq
      exact ⟨rfl, hrest⟩

theorem startsWithBytes_plain {expected : UInt8} {literal bytes : List UInt8}
    (h : (byteChar expected == '%' && isEscapeByte (expected :: literal)) = false) :
    startsWithBytes 0 (expected :: literal) bytes = true ↔
      ∃ rest, bytes = expected :: rest ∧ startsWithBytes 0 literal rest = true := by
  rw [startsWithBytes_cons, h]
  rfl

theorem startsWithBytes_escape {literal bytes : List UInt8}
    (h : isEscapeByte (UInt8.ofNat '%'.toNat :: literal) = true) :
    startsWithBytes 0 (UInt8.ofNat '%'.toNat :: literal) bytes = true ↔
      ∃ rest, bytes = UInt8.ofNat '%'.toNat :: rest ∧ startsWithBytes 2 literal rest = true := by
  rw [startsWithBytes_cons, byteChar_ofNat (by decide), h]
  rfl

/-- The bytes of a character outside ASCII are compared as they are. -/
theorem startsWithBytes_append {front literal bytes : List UInt8}
    (h : ∀ b ∈ front, byteChar b ≠ '%') :
    startsWithBytes 0 (front ++ literal) bytes = true ↔
      ∃ rest, bytes = front ++ rest ∧ startsWithBytes 0 literal rest = true := by
  induction front generalizing bytes with
  | nil => exact ⟨fun h => ⟨bytes, rfl, h⟩, fun ⟨rest, heq, h⟩ => heq ▸ h⟩
  | cons b front ih =>
    obtain ⟨hb, hfront⟩ := List.forall_mem_cons.1 h
    rw [List.cons_append, startsWithBytes_plain (by rw [beq_false_of_ne hb, Bool.false_and])]
    constructor
    · rintro ⟨tail, rfl, htail⟩
      obtain ⟨rest, rfl, hrest⟩ := (ih hfront).1 htail
      exact ⟨rest, rfl, hrest⟩
    · rintro ⟨rest, rfl, hrest⟩
      exact ⟨front ++ rest, rfl, (ih hfront).2 ⟨rest, rfl, hrest⟩⟩

/-- Bytes of a text that begin with those of a character are behind that character. -/
theorem Text.utf8_eq_append_iff {t : Text} {c : Char} {bs : List UInt8} :
    t.utf8 = String.utf8EncodeChar c ++ bs ↔ ∃ rest, t = c :: rest ∧ utf8 rest = bs := by
  constructor
  · intro h
    cases t with
    | nil => exact absurd (List.append_eq_nil_iff.1 h.symm).1 String.utf8EncodeChar_ne_nil
    | cons d rest =>
      have hdecode : ∀ (e : Char) (l : List UInt8),
          (String.utf8EncodeChar e ++ l).toByteArray.utf8DecodeChar? 0 = some e := by
        intro e l
        rw [List.toByteArray_append]
        exact ByteArray.utf8DecodeChar?_utf8EncodeChar_append
      rw [utf8_cons] at h
      have hhead : d = c := by
        rw [← Option.some_inj, ← hdecode d (utf8 rest), h, hdecode]
      subst hhead
      exact ⟨rest, rfl, List.append_cancel_left h⟩
  · rintro ⟨rest, rfl, rfl⟩
    exact utf8_cons c rest

/-- A character of a literal that opens no escape is compared as it is. -/
theorem startsWithBytes_char {c : Char} {literal text : Text}
    (hopen : opensEscape (c :: literal) = false) :
    startsWithBytes 0 (Text.utf8 (c :: literal)) text.utf8 = true ↔
      ∃ rest, text = c :: rest ∧ startsWithBytes 0 literal.utf8 (Text.utf8 rest) = true := by
  have hbytes : startsWithBytes 0 (String.utf8EncodeChar c ++ literal.utf8) text.utf8 = true ↔
      ∃ bs, text.utf8 = String.utf8EncodeChar c ++ bs ∧
        startsWithBytes 0 literal.utf8 bs = true := by
    by_cases hc : c.toNat < 128
    · rw [utf8EncodeChar_of_lt hc, List.singleton_append]
      refine startsWithBytes_plain ?_
      rw [byteChar_ofNat hc]
      by_cases hpercent : c = '%'
      · subst hpercent
        rw [isEscapeByte_utf8, hopen, Bool.and_false]
      · rw [beq_false_of_ne hpercent, Bool.false_and]
    · refine startsWithBytes_append fun b hb hpercent => ?_
      have hle := le_toNat_of_mem_utf8EncodeChar (Nat.le_of_not_lt hc) hb
      rw [← toNat_byteChar, hpercent] at hle
      exact absurd hle (by decide)
  rw [Text.utf8_cons, hbytes]
  constructor
  · rintro ⟨bs, heq, h⟩
    obtain ⟨rest, rfl, rfl⟩ := Text.utf8_eq_append_iff.1 heq
    exact ⟨rest, rfl, h⟩
  · rintro ⟨rest, rfl, h⟩
    exact ⟨Text.utf8 rest, Text.utf8_cons c rest, h⟩

/-- **On the bytes of texts the comparison is that of the texts.** -/
theorem startsWithBytes_iff {literal text : Text} :
    startsWithBytes 0 literal.utf8 text.utf8 = true ↔ startsWithLiteral literal text = true := by
  rw [startsWithLiteral, Option.isSome_iff_exists]
  induction literal using escapeInduction generalizing text with
  | nil => exact iff_of_true (by rw [Text.utf8_nil, startsWithBytes]) ⟨text, by rw [stripLiteral?]⟩
  | escape x y literal hx hy ih =>
    have hbytes : Text.utf8 ('%' :: x :: y :: literal) = UInt8.ofNat '%'.toNat ::
        UInt8.ofNat x.toNat :: UInt8.ofNat y.toNat :: literal.utf8 := by
      rw [Text.utf8_cons_of_lt (by decide), Text.utf8_cons_of_lt (toNat_lt_of_isHexDigit hx),
        Text.utf8_cons_of_lt (toNat_lt_of_isHexDigit hy)]
    have hopen : isEscapeByte (UInt8.ofNat '%'.toNat ::
        UInt8.ofNat x.toNat :: UInt8.ofNat y.toNat :: literal.utf8) = true := by
      rw [isEscapeByte, byteChar_ofNat (toNat_lt_of_isHexDigit hx),
        byteChar_ofNat (toNat_lt_of_isHexDigit hy), hx, hy, Bool.and_self]
    rw [hbytes, startsWithBytes_escape hopen]
    constructor
    · rintro ⟨bs, hbs, hdigits⟩
      obtain ⟨a, as, rfl, ha, hdigit⟩ := startsWithBytes_digit.1 hdigits
      obtain ⟨b, bs, rfl, hb, hbehind⟩ := startsWithBytes_digit.1 hdigit
      obtain ⟨hlta, hupa⟩ := (lowerByte_eq_iff hx).1 ha
      obtain ⟨hltb, hupb⟩ := (lowerByte_eq_iff hy).1 hb
      obtain ⟨tail, rfl, htail⟩ := Text.eq_cons_of_utf8_eq_cons hbs (by decide)
      obtain ⟨tail, rfl, htail'⟩ := Text.eq_cons_of_utf8_eq_cons htail hlta
      obtain ⟨tail, rfl, rfl⟩ := Text.eq_cons_of_utf8_eq_cons htail' hltb
      obtain ⟨rest, hrest⟩ := ih.1 hbehind
      exact ⟨rest, (stripLiteral?_escape hx hy).2 ⟨_, _, tail, rfl, hupa, hupb, hrest⟩⟩
    · rintro ⟨rest, hrest⟩
      obtain ⟨a, b, tail, rfl, ha, hb, htail⟩ := (stripLiteral?_escape hx hy).1 hrest
      have hlt : ∀ {c d : Char}, c.toUpper = d.toUpper → isHexDigit d = true → c.toNat < 128 := by
        intro c d hcd hd
        rw [← isHexDigit_toUpper, ← hcd, isHexDigit_toUpper] at hd
        exact toNat_lt_of_isHexDigit hd
      have hdigit : ∀ {c d : Char}, c.toUpper = d.toUpper → isHexDigit d = true →
          lowerByte (UInt8.ofNat c.toNat) = lowerByte (UInt8.ofNat d.toNat) := by
        intro c d hcd hd
        have hc := hlt hcd hd
        refine (lowerByte_eq_iff hd).2 ⟨?_, by rw [byteChar_ofNat hc, hcd]⟩
        rw [← toNat_byteChar, byteChar_ofNat hc]
        exact hc
      refine ⟨Text.utf8 (a :: b :: tail), Text.utf8_cons_of_lt (by decide) _, ?_⟩
      rw [Text.utf8_cons_of_lt (hlt ha hx), Text.utf8_cons_of_lt (hlt hb hy)]
      exact startsWithBytes_digit.2 ⟨_, _, rfl, hdigit ha hx,
        startsWithBytes_digit.2 ⟨_, _, rfl, hdigit hb hy, ih.2 ⟨rest, htail⟩⟩⟩
  | plain c literal hopen ih =>
    rw [startsWithBytes_char hopen]
    constructor
    · rintro ⟨text, rfl, h⟩
      obtain ⟨rest, hrest⟩ := ih.1 h
      exact ⟨rest, (stripLiteral?_plain hopen).2 ⟨text, rfl, hrest⟩⟩
    · rintro ⟨rest, hrest⟩
      obtain ⟨tail, rfl, htail⟩ := (stripLiteral?_plain hopen).1 hrest
      exact ⟨tail, rfl, ih.2 ⟨rest, htail⟩⟩

/-! ## 3.  At an offset -/

/-- Bytes that begin with a literal are not fewer. -/
theorem length_le_of_startsWithBytes {digits : Nat} {literal bytes : List UInt8}
    (h : startsWithBytes digits literal bytes = true) : literal.length ≤ bytes.length := by
  fun_induction startsWithBytes digits literal bytes with
  | case1 => exact Nat.zero_le _
  | case2 => cases h
  | case3 digits expected literal actual bytes ih =>
    rw [Bool.and_eq_true] at h
    exact Nat.succ_le_succ (ih h.2)
  | case4 expected literal actual bytes digits ih =>
    rw [Bool.and_eq_true] at h
    exact Nat.succ_le_succ (ih h.2)

/-- **A literal that is not empty stands at boundaries only.** -/
theorem literalAtByte_eq_true_iff {text literal : Text} {offset : Nat} (hliteral : literal ≠ []) :
    literalAtByte text offset literal = true ↔
      ∃ rest, dropBytes? offset text = some rest ∧ startsWithLiteral literal rest = true := by
  rw [literalAtByte, Bool.and_eq_true, decide_eq_true_iff]
  constructor
  · rintro ⟨hsize, h⟩
    obtain ⟨c, literal, rfl⟩ := List.exists_cons_of_ne_nil hliteral
    obtain ⟨b, bs, hb⟩ := List.exists_cons_of_ne_nil (String.utf8EncodeChar_ne_nil (c := c))
    -- the byte at the offset is the first byte of the literal
    have hget : text.utf8[offset]? = some b := by
      have hfront := h
      rw [Text.utf8_cons, hb, List.cons_append] at hfront
      obtain ⟨rest, hrest, -⟩ := startsWithBytes_cons.1 hfront
      rw [← Nat.add_zero offset, ← List.getElem?_drop, hrest, List.getElem?_cons_zero]
    have hfirst : b.IsUTF8FirstByte := by
      have hpos : 0 < (String.utf8EncodeChar c).length := by
        rw [hb]
        exact Nat.succ_pos _
      have hzero : (String.utf8EncodeChar c)[0].IsUTF8FirstByte :=
        UInt8.isUTF8FirstByte_getElem_utf8EncodeChar.2 rfl
      simpa only [hb, List.getElem_cons_zero] using hzero
    obtain ⟨rest, hrest⟩ := Option.isSome_iff_exists.1
      (Text.isSome_dropBytes?_iff.2 (Or.inr ⟨b, hget, hfirst⟩))
    rw [Text.drop_utf8 hrest] at h
    exact ⟨rest, hrest, startsWithBytes_iff.1 h⟩
  · rintro ⟨rest, hrest, h⟩
    have hbytes := startsWithBytes_iff.2 h
    have hlength := length_le_of_startsWithBytes hbytes
    rw [Text.length_utf8, Text.length_utf8] at hlength
    obtain ⟨before, rfl, rfl⟩ := Text.dropBytes?_eq_some_iff.1 hrest
    rw [Text.drop_utf8 hrest]
    refine ⟨?_, hbytes⟩
    rw [Text.utf8Size_append]
    omega

/-- **The test by bytes is the test by characters.** -/
theorem literalAtByte_eq (text : Text) (offset : Nat) (literal : Text) :
    literalAtByte text offset literal = literalAt text offset literal := by
  cases literal with
  | nil =>
    rw [literalAtByte, Text.utf8_nil, startsWithBytes, Bool.and_true, Text.utf8Size_nil,
      Nat.add_zero, literalAt]
    cases hrest : dropBytes? offset text with
    | none => rfl
    | some rest =>
      obtain ⟨before, rfl, rfl⟩ := Text.dropBytes?_eq_some_iff.1 hrest
      rw [Text.utf8Size_append]
      exact decide_eq_true (Nat.le_add_right _ _)
  | cons c literal =>
    rw [Bool.eq_iff_iff, literalAtByte_eq_true_iff (List.cons_ne_nil c literal), literalAt]
    cases dropBytes? offset text with
    | none => exact iff_of_false nofun Bool.false_ne_true
    | some rest =>
      constructor
      · rintro ⟨_, ⟨⟩, hrest⟩
        exact hrest
      · intro hrest
        exact ⟨rest, rfl, hrest⟩

end UriRouting
