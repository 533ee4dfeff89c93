import UriRouting.Proofs.Offset.Literal
import UriRouting.Template.Parser

/-!
# Runs of bytes

A run is measured on bytes, one byte or one escape at a time.  Outside `any` only ASCII
belongs to a class, so a run never ends inside a character.

* `runLength_utf8`: the run of the bytes of a text is the run of the text;
* `nameLength_utf8`: the same for the characters of a name.
-/

namespace UriRouting

/-! ## Runs -/

/-- The length of the longest beginning made of bytes that `p` admits and of whole
escapes. -/
def runLength (p : Char → Bool) : List UInt8 → Nat
  | [] => 0
  | b :: bytes =>
      if byteChar b == '%' then
        if isEscapeByte (b :: bytes) then runLength p (bytes.drop 2) + 3 else 0
      else if p (byteChar b) then runLength p bytes + 1 else 0
termination_by bytes => bytes.length
decreasing_by
  · rw [List.length_drop, List.length_cons]
    omega
  · exact Nat.lt_succ_self _

/-- The length of the longest run of a class that bytes begin with. -/
def CharClass.runLength (k : CharClass) (bytes : List UInt8) : Nat :=
  match k with
  | any => bytes.length
  | _ => UriRouting.runLength k.admits bytes

theorem toNat_lt_of_isNameChar {c : Char} (h : isNameChar c = true) : c.toNat < 128 := by
  simp only [isNameChar, Bool.or_eq_true, isAlphanum_iff, beq_iff_eq] at h
  rcases h with ((h | rfl) | rfl) | rfl
  · omega
  all_goals decide

theorem toNat_lt_of_isUnreserved {c : Char} (h : isUnreserved c = true) : c.toNat < 128 := by
  simp only [isUnreserved, Bool.or_eq_true, isAlphanum_iff, beq_iff_eq] at h
  rcases h with (((h | rfl) | rfl) | rfl) | rfl
  · omega
  all_goals decide

theorem toNat_lt_of_isReserved {c : Char} (h : isReserved c = true) : c.toNat < 128 := by
  have hall : reservedChars.all (fun d => d.toNat < 128) = true := by decide
  exact of_decide_eq_true (List.all_eq_true.1 hall c (List.contains_iff_mem.1 h))

/-- Every class but `any` admits ASCII characters only. -/
theorem CharClass.toNat_lt_of_admits {k : CharClass} (hk : k ≠ .any) {c : Char}
    (h : k.admits c = true) : c.toNat < 128 := by
  cases k with
  | unreserved => exact toNat_lt_of_isUnreserved h
  | unreservedList =>
    rcases Bool.or_eq_true_iff.1 h with h | h
    · exact toNat_lt_of_isUnreserved h
    · rw [beq_iff_eq.1 h]
      decide
  | reserved =>
    rcases Bool.or_eq_true_iff.1 h with h | h
    · exact toNat_lt_of_isUnreserved h
    · exact toNat_lt_of_isReserved h
  | any => exact absurd rfl hk

theorem utf8Size_of_lt {c : Char} (hc : c.toNat < 128) : c.utf8Size = 1 := by
  rw [← String.length_utf8EncodeChar, utf8EncodeChar_of_lt hc, List.length_singleton]

/-- The bytes of a character outside ASCII end a run. -/
theorem runLength_of_le {p : Char → Bool} (hp : ∀ c, p c = true → c.toNat < 128) {c : Char}
    (hc : 128 ≤ c.toNat) (bytes : List UInt8) :
    runLength p (String.utf8EncodeChar c ++ bytes) = 0 := by
  obtain ⟨b, bs, hb⟩ := List.exists_cons_of_ne_nil (String.utf8EncodeChar_ne_nil (c := c))
  have hle := le_toNat_of_mem_utf8EncodeChar hc (b := b) (hb ▸ List.mem_cons_self)
  rw [← toNat_byteChar] at hle
  have hpercent : byteChar b ≠ '%' := by
    intro h
    rw [h] at hle
    exact absurd hle (by decide)
  have hends : p (byteChar b) ≠ true := fun h => Nat.not_lt.2 hle (hp _ h)
  rw [hb, List.cons_append, runLength, beq_false_of_ne hpercent, if_neg Bool.false_ne_true,
    if_neg hends]

/-- **The run of the bytes of a text is the run of the text.** -/
theorem runLength_utf8 {p : Char → Bool} (hp : ∀ c, p c = true → c.toNat < 128) (t : Text) :
    runLength p t.utf8 = Text.utf8Size (t.take (CharClass.runOf p t)) := by
  induction t using escapeInduction with
  | nil => rw [Text.utf8_nil, runLength, List.take_nil, Text.utf8Size_nil]
  | escape x y t hx hy ih =>
    have hltx := toNat_lt_of_isHexDigit hx
    have hlty := toNat_lt_of_isHexDigit hy
    have hopen : isEscapeByte (UInt8.ofNat '%'.toNat :: Text.utf8 (x :: y :: t)) = true := by
      rw [isEscapeByte_utf8]
      exact opensEscape_escape hx hy t
    rw [Text.utf8_cons_of_lt (by decide), runLength, byteChar_ofNat (by decide),
      if_pos (beq_self_eq_true _), if_pos hopen, Text.utf8_cons_of_lt hltx,
      Text.utf8_cons_of_lt hlty,
      show (_ :: _ :: t.utf8).drop 2 = t.utf8 from rfl, ih, CharClass.runOf_escape hx hy,
      List.take_succ_cons, List.take_succ_cons, List.take_succ_cons]
    simp only [Text.utf8Size_cons, utf8Size_of_lt hltx, utf8Size_of_lt hlty,
      utf8Size_of_lt (c := '%') (by decide)]
    omega
  | plain c t hopen ih =>
    rw [CharClass.runOf_plain hopen]
    by_cases hc : c.toNat < 128
    · rw [Text.utf8_cons_of_lt hc, runLength, byteChar_ofNat hc]
      by_cases hpercent : c = '%'
      · subst hpercent
        rw [if_pos (beq_self_eq_true _), isEscapeByte_utf8, hopen, if_neg Bool.false_ne_true,
          if_neg (fun h => h.1 rfl), List.take_zero, Text.utf8Size_nil]
      · rw [beq_false_of_ne hpercent, if_neg Bool.false_ne_true]
        by_cases hadmits : p c = true
        · rw [if_pos hadmits, if_pos ⟨hpercent, hadmits⟩, List.take_succ_cons, Text.utf8Size_cons,
            utf8Size_of_lt hc, ih, Nat.add_comm]
        · rw [if_neg hadmits, if_neg (fun h => hadmits h.2), List.take_zero, Text.utf8Size_nil]
    · have hends : ¬(c ≠ '%' ∧ p c = true) := fun h => hc (hp c h.2)
      rw [Text.utf8_cons, runLength_of_le hp (Nat.le_of_not_lt hc), if_neg hends, List.take_zero,
        Text.utf8Size_nil]

theorem runLength_admits {k : CharClass} (hk : k ≠ .any) (t : Text) :
    runLength k.admits t.utf8 = Text.utf8Size (t.take (CharClass.runOf k.admits t)) :=
  runLength_utf8 (fun _ => CharClass.toNat_lt_of_admits hk) t

theorem CharClass.runLength_utf8 (k : CharClass) (t : Text) :
    k.runLength t.utf8 = k.runBytes t := by
  cases k with
  | any =>
    show t.utf8.length = Text.utf8Size (t.take t.length)
    rw [Text.length_utf8, List.take_length]
  | unreserved => exact runLength_admits (by decide) t
  | unreservedList => exact runLength_admits (by decide) t
  | reserved => exact runLength_admits (by decide) t

/-! ## Names -/

/-- The number of bytes at the front that may belong to a name. -/
def nameLength (bytes : List UInt8) : Nat :=
  (bytes.takeWhile fun b => b.toNat < 128 && isNameChar (byteChar b)).length

theorem nameLength_utf8 (t : Text) :
    nameLength t.utf8 = Text.utf8Size (t.takeWhile isNameChar) := by
  induction t with
  | nil => rfl
  | cons c t ih =>
    by_cases hc : isNameChar c = true
    · have hlt := toNat_lt_of_isNameChar hc
      have hbyte : (UInt8.ofNat c.toNat).toNat < 128 := by
        rwa [← toNat_byteChar, byteChar_ofNat hlt]
      rw [List.takeWhile_cons_of_pos hc, Text.utf8Size_cons, utf8Size_of_lt hlt, ← ih, nameLength,
        Text.utf8_cons_of_lt hlt, List.takeWhile_cons_of_pos, List.length_cons, Nat.add_comm]
      · rfl
      · rw [byteChar_ofNat hlt, hc, decide_eq_true hbyte, Bool.and_self]
    · obtain ⟨b, bs, hb⟩ := List.exists_cons_of_ne_nil (String.utf8EncodeChar_ne_nil (c := c))
      rw [List.takeWhile_cons_of_neg hc, Text.utf8Size_nil, nameLength, Text.utf8_cons, hb,
        List.cons_append, List.takeWhile_cons_of_neg, List.length_nil]
      -- the first byte is the character itself or not ASCII
      intro hbyte
      rw [Bool.and_eq_true, decide_eq_true_iff] at hbyte
      obtain ⟨rfl, -⟩ := utf8EncodeChar_eq_of_cons hb hbyte.1
      exact hc hbyte.2

end UriRouting
