import UriRouting.Percent.Literal
import UriRouting.Proofs.Except
import UriRouting.Proofs.Text.Size

/-!
# Texts as bytes

A position in a text counts bytes, and a text may be cut only where a character begins or
at its end.  This file says which positions these are.

## 1.  The bytes of a text

`Text.utf8`, and the two kinds of characters: an ASCII character is one byte, its code
point (`utf8EncodeChar_of_lt`), and all bytes of any other character are above them
(`le_toNat_of_mem_utf8EncodeChar`).

## 2.  Boundaries

`dropBytes?_eq_some_iff`: an offset is a boundary if a beginning of the text takes up as
many bytes.  `isSome_dropBytes?_iff`: it is one exactly if it is the end or the byte
there is a first byte.

## 3.  Slices

`Text.sliceFrom` and `Text.slice` cut a text at offsets and fail at any that is not a
boundary.
-/

namespace UriRouting

/-! ## 1.  The bytes of a text -/

theorem utf8EncodeChar_of_lt {c : Char} (hc : c.toNat < 128) :
    String.utf8EncodeChar c = [UInt8.ofNat c.toNat] := by
  rw [String.utf8EncodeChar.eq_1, Char.toNat_val]
  exact if_pos (Nat.le_of_lt_succ hc)

/-- No byte of a character outside ASCII is an ASCII byte. -/
theorem le_toNat_of_mem_utf8EncodeChar {c : Char} (hc : 128 ≤ c.toNat) {b : UInt8}
    (hb : b ∈ String.utf8EncodeChar c) : 128 ≤ b.toNat := by
  have hbyte : ∀ n : Nat, 128 ≤ n % 256 → 128 ≤ (UInt8.ofNat n).toNat := by
    intro n hn
    rwa [UInt8.toNat_ofNat']
  rw [String.utf8EncodeChar.eq_1, Char.toNat_val, if_neg (by omega)] at hb
  split at hb
  · simp only [List.mem_cons, List.not_mem_nil, or_false] at hb
    rcases hb with rfl | rfl
    all_goals exact hbyte _ (by omega)
  · split at hb
    · simp only [List.mem_cons, List.not_mem_nil, or_false] at hb
      rcases hb with rfl | rfl | rfl
      all_goals exact hbyte _ (by omega)
    · simp only [List.mem_cons, List.not_mem_nil, or_false] at hb
      rcases hb with rfl | rfl | rfl | rfl
      all_goals exact hbyte _ (by omega)

/-- The character whose code point is a byte. -/
def byteChar (b : UInt8) : Char := Char.ofNat b.toNat

theorem toNat_byteChar (b : UInt8) : (byteChar b).toNat = b.toNat := by
  have hb := b.toNat_lt
  have hvalid : b.toNat.isValidChar := Or.inl (by omega)
  rw [byteChar, Char.ofNat, dif_pos hvalid]
  rfl

theorem byteChar_ofNat {c : Char} (hc : c.toNat < 128) :
    byteChar (UInt8.ofNat c.toNat) = c := by
  rw [byteChar, UInt8.toNat_ofNat', Nat.mod_eq_of_lt (by omega), Char.ofNat_toNat]

/-- The first byte of a character is an ASCII byte only if the character is ASCII, and
then it is the whole character. -/
theorem utf8EncodeChar_eq_of_cons {c : Char} {b : UInt8} {bs : List UInt8}
    (h : String.utf8EncodeChar c = b :: bs) (hb : b.toNat < 128) : byteChar b = c ∧ bs = [] := by
  by_cases hc : c.toNat < 128
  · rw [utf8EncodeChar_of_lt hc] at h
    obtain ⟨rfl, rfl⟩ := List.cons.inj h
    exact ⟨byteChar_ofNat hc, rfl⟩
  · have hmem : b ∈ String.utf8EncodeChar c := h ▸ List.mem_cons_self
    have hle := le_toNat_of_mem_utf8EncodeChar (Nat.le_of_not_lt hc) hmem
    omega

namespace Text

/-- The UTF-8 bytes of a text. -/
def utf8 (t : Text) : List UInt8 := t.flatMap String.utf8EncodeChar

@[simp] theorem utf8_nil : utf8 [] = [] := rfl

@[simp] theorem utf8_cons (c : Char) (t : Text) :
    utf8 (c :: t) = String.utf8EncodeChar c ++ utf8 t := List.flatMap_cons

@[simp] theorem utf8_append (s t : Text) : utf8 (s ++ t) = utf8 s ++ utf8 t :=
  List.flatMap_append

@[simp] theorem length_utf8 (t : Text) : t.utf8.length = t.utf8Size := by
  induction t with
  | nil => rfl
  | cons c t ih =>
    rw [utf8_cons, List.length_append, String.length_utf8EncodeChar, ih, utf8Size_cons]

theorem utf8_cons_of_lt {c : Char} (hc : c.toNat < 128) (t : Text) :
    utf8 (c :: t) = UInt8.ofNat c.toNat :: utf8 t := by
  rw [utf8_cons, utf8EncodeChar_of_lt hc, List.singleton_append]

/-- An ASCII byte at the front of a text is a character of it. -/
theorem eq_cons_of_utf8_eq_cons {t : Text} {b : UInt8} {bs : List UInt8} (h : t.utf8 = b :: bs)
    (hb : b.toNat < 128) : ∃ rest, t = byteChar b :: rest ∧ utf8 rest = bs := by
  cases t with
  | nil => cases h
  | cons c rest =>
    obtain ⟨d, ds, hc⟩ := List.exists_cons_of_ne_nil (String.utf8EncodeChar_ne_nil (c := c))
    rw [utf8_cons, hc, List.cons_append] at h
    obtain ⟨rfl, hrest⟩ := List.cons.inj h
    obtain ⟨rfl, rfl⟩ := utf8EncodeChar_eq_of_cons hc hb
    exact ⟨rest, rfl, hrest⟩

/-! ## 2.  Boundaries -/

/-- An offset is a boundary if a beginning of the text takes up as many bytes. -/
theorem dropBytes?_eq_some_iff {n : Nat} {t rest : Text} :
    dropBytes? n t = some rest ↔ ∃ before, t = before ++ rest ∧ before.utf8Size = n := by
  induction t generalizing n with
  | nil =>
    cases n with
    | zero =>
      rw [dropBytes?, Option.some_inj]
      constructor
      · rintro rfl
        exact ⟨[], rfl, rfl⟩
      · rintro ⟨before, heq, -⟩
        exact (List.append_eq_nil_iff.1 heq.symm).2.symm
    | succ n =>
      rw [dropBytes?]
      constructor
      · intro h
        cases h
      · rintro ⟨before, heq, hsize⟩
        rw [(List.append_eq_nil_iff.1 heq.symm).1] at hsize
        cases hsize
  | cons c t ih =>
    have hc := c.utf8Size_pos
    cases n with
    | zero =>
      rw [dropBytes?, Option.some_inj]
      constructor
      · rintro rfl
        exact ⟨[], rfl, rfl⟩
      · rintro ⟨before, heq, hsize⟩
        cases before with
        | nil => exact heq
        | cons d before =>
          have hd := d.utf8Size_pos
          rw [utf8Size_cons] at hsize
          omega
    | succ n =>
      rw [dropBytes?]
      constructor
      · intro h
        split at h
        · obtain ⟨before, rfl, hsize⟩ := ih.1 h
          refine ⟨c :: before, rfl, ?_⟩
          rw [utf8Size_cons]
          omega
        · cases h
      · rintro ⟨before, heq, hsize⟩
        cases before with
        | nil => cases hsize
        | cons d before =>
          obtain ⟨rfl, htail⟩ := List.cons.inj heq
          rw [utf8Size_cons] at hsize
          rw [if_pos (by omega)]
          exact ih.2 ⟨before, htail, by omega⟩

theorem dropBytes?_append (before rest : Text) :
    dropBytes? before.utf8Size (before ++ rest) = some rest :=
  dropBytes?_eq_some_iff.2 ⟨before, rfl, rfl⟩

/-- What stands at a boundary inside a text are the bytes of what follows. -/
theorem drop_utf8 {n : Nat} {t rest : Text} (h : dropBytes? n t = some rest) :
    t.utf8.drop n = rest.utf8 := by
  obtain ⟨before, rfl, rfl⟩ := dropBytes?_eq_some_iff.1 h
  rw [utf8_append, ← length_utf8, List.drop_left]

/-- **An offset is a boundary exactly if it is the end or the byte there is the first
byte of a character.** -/
theorem isSome_dropBytes?_iff {n : Nat} {t : Text} :
    (dropBytes? n t).isSome = true ↔
      n = t.utf8Size ∨ ∃ b, t.utf8[n]? = some b ∧ b.IsUTF8FirstByte := by
  induction t generalizing n with
  | nil =>
    cases n with
    | zero => exact iff_of_true rfl (Or.inl rfl)
    | succ n =>
      refine iff_of_false Bool.false_ne_true ?_
      rintro (h | ⟨b, hb, -⟩)
      · cases h
      · cases hb
  | cons c t ih =>
    have hlength := String.length_utf8EncodeChar c
    have hfirst : ∀ (i : Nat) (hi : i < (String.utf8EncodeChar c).length),
        (String.utf8EncodeChar c)[i].IsUTF8FirstByte ↔ i = 0 :=
      fun i hi => UInt8.isUTF8FirstByte_getElem_utf8EncodeChar
    rcases Nat.lt_or_ge n c.utf8Size with hlt | hge
    · have hn : n < (String.utf8EncodeChar c).length := by rwa [hlength]
      have hget : (utf8 (c :: t))[n]? = some (String.utf8EncodeChar c)[n] := by
        rw [utf8_cons, List.getElem?_append_left hn, List.getElem?_eq_getElem hn]
      have hiff : (∃ b, (utf8 (c :: t))[n]? = some b ∧ b.IsUTF8FirstByte) ↔ n = 0 := by
        rw [hget, ← hfirst n hn]
        exact ⟨fun ⟨_, hb, h⟩ => Option.some_inj.1 hb ▸ h, fun h => ⟨_, rfl, h⟩⟩
      rw [hiff, utf8Size_cons]
      cases n with
      | zero => exact iff_of_true rfl (Or.inr rfl)
      | succ n =>
        rw [dropBytes?, if_neg (by omega)]
        refine iff_of_false Bool.false_ne_true ?_
        omega
    · have hc := c.utf8Size_pos
      obtain ⟨k, rfl⟩ := Nat.exists_eq_add_of_le hge
      have hdrop : dropBytes? (c.utf8Size + k) (c :: t) = dropBytes? k t := by
        obtain ⟨m, hm⟩ := Nat.exists_eq_succ_of_ne_zero (n := c.utf8Size + k) (by omega)
        rw [hm, dropBytes?, if_pos (by omega), ← Nat.succ_eq_add_one, ← hm, Nat.add_sub_cancel_left]
      rw [hdrop, ih, utf8_cons, List.getElem?_append_right (by omega), hlength,
        Nat.add_sub_cancel_left, utf8Size_cons, Nat.add_left_cancel_iff]

end Text

/-! ## 3.  Slices -/

/-- What a computation with offsets can run into. -/
inductive Fault where
  /-- An offset that is past the end of a text or inside a character. -/
  | offset (n : Nat)
  /-- The two ends of a slice in the wrong order. -/
  | reversed (low high : Nat)
  /-- A turn of a loop that did not get ahead of a position. -/
  | stuck (pos : Nat)
  deriving DecidableEq, Repr

namespace Text

/-- The text from an offset on. -/
def sliceFrom (t : Text) (low : Nat) : Except Fault Text :=
  match dropBytes? low t with
  | some rest => .ok rest
  | none => .error (.offset low)

/-- The text between two offsets. -/
def slice (t : Text) (low high : Nat) : Except Fault Text :=
  if low ≤ high then do
    let rest ← t.sliceFrom low
    let after ← t.sliceFrom high
    pure (rest.take (rest.length - after.length))
  else .error (.reversed low high)

theorem sliceFrom_eq_ok_iff {t rest : Text} {low : Nat} :
    t.sliceFrom low = .ok rest ↔ ∃ before, t = before ++ rest ∧ utf8Size before = low := by
  rw [← dropBytes?_eq_some_iff, sliceFrom]
  cases dropBytes? low t with
  | none => exact iff_of_false nofun nofun
  | some rest' => rw [Except.ok.injEq, Option.some_inj]

/-- Of two beginnings of a text, the one with more bytes goes on from the other. -/
theorem exists_of_append_eq_append {a b s t : Text} (h : a ++ s = b ++ t)
    (hle : a.utf8Size ≤ b.utf8Size) : ∃ mid, b = a ++ mid ∧ s = mid ++ t := by
  rcases List.append_eq_append_iff.1 h with hmid | ⟨mid, rfl, rfl⟩
  · exact hmid
  · have hnil : mid = [] := by
      cases mid with
      | nil => rfl
      | cons c mid =>
        have hc := c.utf8Size_pos
        rw [utf8Size_append, utf8Size_cons] at hle
        omega
    subst hnil
    exact ⟨[], by rw [List.append_nil, List.append_nil], rfl⟩

theorem sliceFrom_append (before rest : Text) :
    (before ++ rest).sliceFrom before.utf8Size = .ok rest := by
  rw [sliceFrom, dropBytes?_append]

theorem slice_append (before taken rest : Text) :
    (before ++ (taken ++ rest)).slice before.utf8Size (before.utf8Size + taken.utf8Size) =
      .ok taken := by
  have hafter := sliceFrom_append (before ++ taken) rest
  rw [utf8Size_append, List.append_assoc] at hafter
  rw [slice, if_pos (Nat.le_add_right _ _), sliceFrom_append, hafter]
  show Except.ok _ = _
  rw [List.length_append, Nat.add_sub_cancel, List.take_left]

/-- **A slice is the text between its ends, and fails unless both are boundaries and in
their order.** -/
theorem slice_eq_ok_iff {t taken : Text} {low high : Nat} :
    t.slice low high = .ok taken ↔
      ∃ before rest, t = before ++ (taken ++ rest) ∧ before.utf8Size = low ∧
        before.utf8Size + taken.utf8Size = high := by
  constructor
  · intro h
    by_cases hle : low ≤ high
    · rw [slice, if_pos hle] at h
      obtain ⟨rest, hrest, hbehind⟩ := except_bind_eq_ok_iff.1 h
      obtain ⟨after, hafter, hpure⟩ := except_bind_eq_ok_iff.1 hbehind
      obtain ⟨before, rfl, rfl⟩ := sliceFrom_eq_ok_iff.1 hrest
      obtain ⟨before', heq, rfl⟩ := sliceFrom_eq_ok_iff.1 hafter
      obtain ⟨mid, rfl, rfl⟩ := exists_of_append_eq_append heq hle
      have htaken := Except.ok.inj hpure
      rw [List.length_append, Nat.add_sub_cancel, List.take_left] at htaken
      subst htaken
      exact ⟨before, after, rfl, rfl, (utf8Size_append _ _).symm⟩
    · rw [slice, if_neg hle] at h
      cases h
  · rintro ⟨before, rest, rfl, rfl, rfl⟩
    exact slice_append before taken rest

example : slice ['a', 'é', 'b'] 1 3 = .ok ['é'] ∧ slice ['a', 'é', 'b'] 1 2 = .error (.offset 2) :=
  ⟨rfl, rfl⟩

end Text
end UriRouting
