import UriRouting.Percent.Codec
import UriRouting.Proofs.Percent.Escapes

/-!
# Encoding and decoding

Decoding undoes every encoding that escapes `%`.

## 1.  One escape

An escape is written with the two hexadecimal digits of a byte, and the digits are
read back as the byte (`escapedByte?_hexDigit`).

## 2.  Encoded texts

Whatever the kept characters are, as long as `%` is not one of them, an encoded text
is made of kept characters and escapes (`units_encodeUnless`) and stands for the
UTF-8 bytes of the original (`bytes_encodeUnless`), so that decoding gives the original
back (`decode_encodeUnless`).
-/

namespace UriRouting.Percent

/-! ## 1.  One escape -/

theorem hexValue?_hexDigit : ∀ n < 16, hexValue? (hexDigit n) = some n := by
  decide

theorem isHexDigit_hexDigit : ∀ n < 16, isHexDigit (hexDigit n) = true := by
  decide

theorem digits_lt (b : UInt8) : b.toNat / 16 < 16 ∧ b.toNat % 16 < 16 := by
  have hb : b.toNat < 256 := b.toNat_lt
  omega

/-- The digits of an escape are read back as its byte. -/
theorem escapedByte?_hexDigit (b : UInt8) :
    escapedByte? (hexDigit (b.toNat / 16)) (hexDigit (b.toNat % 16)) = some b := by
  obtain ⟨hhigh, hlow⟩ := digits_lt b
  have hsum : 16 * (b.toNat / 16) + b.toNat % 16 = b.toNat := by omega
  have hvalue : escapedByte? (hexDigit (b.toNat / 16)) (hexDigit (b.toNat % 16)) =
      some (UInt8.ofNat (16 * (b.toNat / 16) + b.toNat % 16)) := by
    rw [escapedByte?, hexValue?_hexDigit _ hhigh, hexValue?_hexDigit _ hlow]
    rfl
  rw [hvalue, hsum, UInt8.ofNat_toNat]

theorem bytes_escapeByte_append (b : UInt8) (rest : Text) :
    bytes (escapeByte b ++ rest) = b :: bytes rest := by
  show bytes ('%' :: hexDigit (b.toNat / 16) :: hexDigit (b.toNat % 16) :: rest) = _
  rw [bytes, escapedByte?_hexDigit]

theorem bytes_escapes_append (bs : List UInt8) (rest : Text) :
    bytes (bs.flatMap escapeByte ++ rest) = bs ++ bytes rest := by
  induction bs with
  | nil => rfl
  | cons b bs ih =>
    rw [List.flatMap_cons, List.append_assoc, bytes_escapeByte_append, ih, List.cons_append]

theorem bytes_cons_of_ne {c : Char} (h : c ≠ '%') (rest : Text) :
    bytes (c :: rest) = String.utf8EncodeChar c ++ bytes rest := by
  rw [bytes]
  exact fun x y rest' h' => absurd h' h

open CharClass in
theorem units_escapes (p : Char → Bool) (bs : List UInt8) : Units p (bs.flatMap escapeByte) := by
  induction bs with
  | nil => exact Units.nil
  | cons b bs ih =>
    obtain ⟨hhigh, hlow⟩ := digits_lt b
    exact Units.escape (isHexDigit_hexDigit _ hhigh) (isHexDigit_hexDigit _ hlow) ih

/-- The characters of an escape are `%` and hexadecimal digits. -/
theorem eq_or_isHexDigit_of_mem_escape {c d : Char} (h : d ∈ escape c) :
    d = '%' ∨ isHexDigit d = true := by
  have hunits : CharClass.Units (fun _ => false) (escape c) := units_escapes _ _
  rcases hunits.mem h with hpercent | hdigit | hnever
  · exact Or.inl hpercent
  · exact Or.inr hdigit
  · cases hnever

/-! ## 2.  Encoded texts -/

variable {keep : Char → Bool}

theorem ne_percent_of_keep (h : keep '%' = false) {c : Char} (hc : keep c = true) : c ≠ '%' := by
  rintro rfl
  rw [h] at hc
  cases hc

theorem encodeUnless_cons (c : Char) (t : Text) :
    encodeUnless keep (c :: t) = (if keep c then [c] else escape c) ++ encodeUnless keep t :=
  List.flatMap_cons

/-- An encoded text is made of kept characters and of escapes. -/
theorem units_encodeUnless (h : keep '%' = false) (t : Text) :
    CharClass.Units keep (encodeUnless keep t) := by
  induction t with
  | nil => exact CharClass.Units.nil
  | cons c t ih =>
    rw [encodeUnless_cons]
    refine CharClass.Units.append ?_ ih
    split
    · rename_i hkeep
      exact CharClass.Units.char (ne_percent_of_keep h hkeep) hkeep CharClass.Units.nil
    · exact units_escapes keep _

/-- Encoding brings in no character but `%` and hexadecimal digits. -/
theorem notMem_encodeUnless {c : Char} (hpercent : c ≠ '%') (hdigit : isHexDigit c = false)
    {t : Text} (h : c ∉ t) : c ∉ encodeUnless keep t := by
  intro hmem
  obtain ⟨d, hd, hc⟩ := List.mem_flatMap.1 hmem
  split at hc
  · exact h (List.mem_singleton.1 hc ▸ hd)
  · rcases eq_or_isHexDigit_of_mem_escape hc with rfl | htrue
    · exact hpercent rfl
    · rw [hdigit] at htrue
      cases htrue

/-- An encoded text stands for the bytes of the text. -/
theorem bytes_encodeUnless (h : keep '%' = false) (t : Text) :
    bytes (encodeUnless keep t) = t.flatMap String.utf8EncodeChar := by
  induction t with
  | nil => rfl
  | cons c t ih =>
    rw [encodeUnless_cons, List.flatMap_cons]
    split
    · rename_i hkeep
      rw [List.singleton_append, bytes_cons_of_ne (ne_percent_of_keep h hkeep), ih]
    · rw [escape, bytes_escapes_append, ih]

/-- Bytes that are the UTF-8 form of a text are read as the text. -/
theorem ofUtf8?_flatMap (t : Text) : ofUtf8? (t.flatMap String.utf8EncodeChar) = some t := by
  have hdecode : (t.flatMap String.utf8EncodeChar).toByteArray.utf8Decode? = some t.toArray :=
    List.utf8Decode?_utf8Encode
  rw [ofUtf8?, hdecode, Option.map_some]

/-- **Decoding undoes encoding.** -/
theorem decode_encodeUnless (h : keep '%' = false) (t : Text) :
    decode (encodeUnless keep t) = some t := by
  rw [decode, bytes_encodeUnless h, ofUtf8?_flatMap]

theorem encodeUnless_ne_nil (h : keep '%' = false) {t : Text} (ht : t ≠ []) :
    encodeUnless keep t ≠ [] := by
  intro hnil
  have hdecode := decode_encodeUnless h t
  rw [hnil] at hdecode
  exact ht (Option.some.inj hdecode).symm

theorem decode_encode (t : Text) : decode (encode t) = some t := decode_encodeUnless rfl t

theorem units_encode (t : Text) : CharClass.Units isUnreserved (encode t) :=
  units_encodeUnless rfl t

theorem encode_ne_nil {t : Text} (h : t ≠ []) : encode t ≠ [] := encodeUnless_ne_nil rfl h

theorem decode_encodeReserved (t : Text) : decode (encodeReserved t) = some t :=
  decode_encodeUnless rfl t

theorem units_encodeReserved (t : Text) :
    CharClass.Units CharClass.reserved.admits (encodeReserved t) := units_encodeUnless rfl t

theorem encodeReserved_ne_nil {t : Text} (h : t ≠ []) : encodeReserved t ≠ [] :=
  encodeUnless_ne_nil rfl h

end UriRouting.Percent
