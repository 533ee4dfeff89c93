import Mathlib.Data.List.Basic
import UriRouting.Proofs.Offset.Run
import UriRouting.Proofs.Pattern.Cut
import UriRouting.Proofs.Percent.Codec

/-!
# Encoding byte by byte

Encoding is told here once more on bytes, where a text is not yet cut into characters.  A
byte that is not escaped is an ASCII character of its own, since all bytes of any other
character lie above ASCII; so both ways write the same.

## 1.  Bytes

`encodeBytes` keeps the unreserved bytes and escapes all others, and `encode` is this on
the bytes of a text (`encode_eq_encodeBytes`).

## 2.  Two paths

`encodeReservedByPaths` looks at the bytes first and returns a text in which none has to
be escaped as it is; only another text is encoded, one character after another.  The text
of two texts may take the second path where one of the two takes the first, and yet it is
the one after the other, because the paths agree wherever both may be taken
(`encodeReserved_eq_byPaths`).

## 3.  Encoders and classes

`encoders_agree`: what is encoded is decoded again, and belongs to the class of its
encoder whole.
-/

namespace UriRouting.Percent

/-! ## 1.  Bytes -/

/-- The text of bytes in which every byte is escaped that is not an unreserved
character. -/
def encodeBytes (bs : List UInt8) : Text :=
  bs.flatMap fun b => if isUnreserved (byteChar b) then [byteChar b] else escapeByte b

theorem encodeBytes_append (bs cs : List UInt8) :
    encodeBytes (bs ++ cs) = encodeBytes bs ++ encodeBytes cs := List.flatMap_append

/-- A byte above ASCII is no character of its own. -/
theorem not_admits_byteChar {b : UInt8} (hb : 128 ≤ b.toNat) {k : CharClass} (hk : k ≠ .any) :
    k.admits (byteChar b) = false := by
  refine eq_false_of_ne_true fun hadmits => ?_
  have hlt := CharClass.toNat_lt_of_admits hk hadmits
  rw [toNat_byteChar] at hlt
  omega

/-- The bytes of a character are kept if they are an unreserved character, and all of them
are escaped if not. -/
theorem encodeBytes_utf8EncodeChar (c : Char) :
    encodeBytes (String.utf8EncodeChar c) = if isUnreserved c then [c] else escape c := by
  by_cases hc : c.toNat < 128
  · rw [escape, utf8EncodeChar_of_lt hc, encodeBytes, List.flatMap_singleton,
      List.flatMap_singleton, byteChar_ofNat hc]
  · have hnot : isUnreserved c ≠ true := fun h => hc (toNat_lt_of_isUnreserved h)
    rw [if_neg hnot, escape, encodeBytes]
    refine List.flatMap_congr fun b hb => if_neg ?_
    have hbyte := le_toNat_of_mem_utf8EncodeChar (Nat.le_of_not_lt hc) hb
    rw [show isUnreserved (byteChar b) = false from
      not_admits_byteChar (k := .unreserved) hbyte (by decide)]
    exact Bool.false_ne_true

/-- **Characters are encoded byte by byte.** -/
theorem encode_eq_encodeBytes (t : Text) : encode t = encodeBytes t.utf8 := by
  induction t with
  | nil => rfl
  | cons c t ih =>
    rw [encode, encodeUnless_cons, ← encode, ih, Text.utf8_cons, encodeBytes_append,
      encodeBytes_utf8EncodeChar]

/-! ## 2.  Two paths -/

/-- Whether no byte of a text has to be escaped. -/
def keepsAll (t : Text) : Bool :=
  t.utf8.all fun b => isUnreserved (byteChar b) || isReserved (byteChar b)

/-- The encoding of a text that leaves delimiters: the text itself if no byte has to be
escaped, and otherwise the encodings of the characters. -/
def encodeReservedByPaths (t : Text) : Text :=
  if keepsAll t then t
  else t.flatMap fun c =>
    if c.toNat < 128 && isReserved c then [c] else encodeBytes (String.utf8EncodeChar c)

/-- A byte has to be escaped exactly if it belongs to a character that has to be. -/
theorem all_utf8EncodeChar (c : Char) :
    ((String.utf8EncodeChar c).all fun b => isUnreserved (byteChar b) || isReserved (byteChar b)) =
      (isUnreserved c || isReserved c) := by
  by_cases hc : c.toNat < 128
  · rw [utf8EncodeChar_of_lt hc, List.all_cons, List.all_nil, Bool.and_true, byteChar_ofNat hc]
  · have hnot : (isUnreserved c || isReserved c) = false := by
      refine eq_false_of_ne_true fun h => hc ?_
      exact CharClass.toNat_lt_of_admits (k := .reserved) (by decide) h
    obtain ⟨b, bs, hbytes⟩ := List.exists_cons_of_ne_nil (String.utf8EncodeChar_ne_nil (c := c))
    have hb : 128 ≤ b.toNat :=
      le_toNat_of_mem_utf8EncodeChar (Nat.le_of_not_lt hc) (hbytes ▸ List.mem_cons_self)
    have hbyte : (isUnreserved (byteChar b) || isReserved (byteChar b)) = false :=
      not_admits_byteChar (k := .reserved) hb (by decide)
    rw [hbytes, List.all_cons, hbyte, Bool.false_and, hnot]

theorem keepsAll_eq (t : Text) :
    keepsAll t = t.all fun c => isUnreserved c || isReserved c := by
  induction t with
  | nil => rfl
  | cons c t ih =>
    rw [keepsAll, Text.utf8_cons, List.all_append, all_utf8EncodeChar, ← keepsAll, ih,
      List.all_cons]

theorem encodeUnless_eq_self {keep : Char → Bool} {t : Text} (h : ∀ c ∈ t, keep c = true) :
    encodeUnless keep t = t := by
  induction t with
  | nil => rfl
  | cons c t ih =>
    obtain ⟨hc, ht⟩ := List.forall_mem_cons.1 h
    rw [encodeUnless_cons, if_pos hc, ih ht, List.singleton_append]

/-- **Both paths write the same.** -/
theorem encodeReserved_eq_byPaths (t : Text) : encodeReserved t = encodeReservedByPaths t := by
  rw [encodeReservedByPaths]
  split
  · rename_i hkeeps
    rw [keepsAll_eq] at hkeeps
    exact encodeUnless_eq_self (List.all_eq_true.1 hkeeps)
  · rw [encodeReserved, encodeUnless]
    refine List.flatMap_congr fun c _ => ?_
    rw [encodeBytes_utf8EncodeChar]
    have hascii : isReserved c = true → c.toNat < 128 := toNat_lt_of_isReserved
    by_cases hreserved : isReserved c = true
    · simp [hreserved, hascii hreserved]
    · simp [hreserved]

theorem encodeReserved_append (v w : Text) :
    encodeReserved (v ++ w) = encodeReserved v ++ encodeReserved w := List.flatMap_append

/-! ## 3.  Encoders and classes -/

/-- **Encoders and classes agree.**  What either encoder writes is decoded to the text
that was encoded, and all of it is a run of the encoder's class; and the encoding that
leaves delimiters goes through texts one after another, whichever path each of the three
calls takes. -/
theorem encoders_agree (v w : Text) :
    (encode v = encodeBytes v.utf8 ∧ encodeReserved v = encodeReservedByPaths v) ∧
      (decode (encode v) = some v ∧ decode (encodeReserved v) = some v) ∧
      (CharClass.unreserved.runBytes (encode v) = Text.utf8Size (encode v) ∧
        CharClass.reserved.runBytes (encodeReserved v) = Text.utf8Size (encodeReserved v)) ∧
      encodeReservedByPaths (v ++ w) = encodeReservedByPaths v ++ encodeReservedByPaths w := by
  refine ⟨⟨encode_eq_encodeBytes v, encodeReserved_eq_byPaths v⟩,
    ⟨decode_encode v, decode_encodeReserved v⟩, ⟨?_, ?_⟩, ?_⟩
  · exact (units_encode v).runBytes_eq (k := .unreserved) (by decide)
  · exact (units_encodeReserved v).runBytes_eq (by decide)
  · rw [← encodeReserved_eq_byPaths, ← encodeReserved_eq_byPaths, ← encodeReserved_eq_byPaths,
      encodeReserved_append]

/-- Only the first of two texts takes the short path. -/
example :
    keepsAll ['a', '/'] = true ∧ keepsAll ['é', '%'] = false ∧
      encodeReserved (['a', '/'] ++ ['é', '%']) = "a/%C3%A9%25".toList := by
  decide +kernel

end UriRouting.Percent
