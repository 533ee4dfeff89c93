import UriRouting.Proofs.Offset.Run
import UriRouting.Proofs.Pattern.Boundary

/-!
# Where runs of bytes end

The ends of a run are found by trying the literal that follows at every byte offset.  This
file shows that the offsets found are those of the cuts between characters.

## 1.  Offsets of cuts

`Text.offset` takes a number of characters to the bytes that they fill.

## 2.  Searching

`literalOffsets_eq` and `firstLiteralOffset?_eq`: a search over all offsets, those inside
characters too, finds the offsets of the cuts behind which a literal stands.

## 3.  Greedy tokens

`Boundary.endOffsets_eq` does so for the ends of a greedy run.

## 4.  Values inside operators

`Boundary.valueOffset_eq` does so for the end of a value.  The literal that closes a
pattern is looked for at the one offset where it would close the text.
-/

namespace UriRouting

/-! ## 1.  Offsets of cuts -/

namespace Text

/-- The number of bytes that the first `n` characters of a text take. -/
def offset (t : Text) (n : Nat) : Nat := utf8Size (t.take n)

variable {t : Text} {m n : Nat}

theorem dropBytes?_offset (t : Text) (n : Nat) : dropBytes? (t.offset n) t = some (t.drop n) :=
  dropBytes?_eq_some_iff.2 ⟨t.take n, (List.take_append_drop n t).symm, rfl⟩

theorem exists_offset_of_dropBytes? {rest : Text} {k : Nat} (h : dropBytes? k t = some rest) :
    ∃ n, n ≤ t.length ∧ k = t.offset n ∧ rest = t.drop n := by
  obtain ⟨before, rfl, rfl⟩ := dropBytes?_eq_some_iff.1 h
  refine ⟨before.length, ?_, ?_, ?_⟩
  · rw [List.length_append]
    exact Nat.le_add_right _ _
  · rw [offset, List.take_left]
  · rw [List.drop_left]

theorem offset_le_iff (hm : m ≤ t.length) : t.offset m ≤ t.offset n ↔ m ≤ n :=
  utf8Size_take_le_iff hm

theorem offset_injective (hm : m ≤ t.length) (hn : n ≤ t.length) :
    t.offset m = t.offset n ↔ m = n := by
  rw [Nat.le_antisymm_iff, offset_le_iff hm, offset_le_iff hn, ← Nat.le_antisymm_iff]

/-- A least length of one character at most is the same in bytes. -/
theorem le_offset_iff {least : Nat} (hleast : least ≤ 1) (hn : n ≤ t.length) :
    least ≤ t.offset n ↔ least ≤ n := by
  rcases Nat.le_one_iff_eq_zero_or_eq_one.1 hleast with rfl | rfl
  · exact iff_of_true (Nat.zero_le _) (Nat.zero_le _)
  · rw [offset, utf8Size_pos_iff, List.length_take, Nat.min_eq_left hn]

end Text

/-! ## 2.  Searching -/

/-- The offsets from `least` to `most` at which a literal stands. -/
def literalOffsets (literal : Text) (least most : Nat) (text : Text) : List Nat :=
  (List.range' least (most + 1 - least)).filter fun n => literalAtByte text n literal

/-- The first offset from `least` to `most` at which a literal stands. -/
def firstLiteralOffset? (literal : Text) (least most : Nat) (text : Text) : Option Nat :=
  (List.range' least (most + 1 - least)).find? fun n => literalAtByte text n literal

/-- Ascending lists with the same members are the same. -/
theorem eq_of_pairwise_of_mem_iff {l l' : List Nat} (hl : l.Pairwise (· < ·))
    (hl' : l'.Pairwise (· < ·)) (h : ∀ n, n ∈ l ↔ n ∈ l') : l = l' := by
  refine List.Perm.eq_of_pairwise (fun a b _ _ hab hba => absurd hab (Nat.lt_asymm hba)) hl hl' ?_
  exact (List.perm_ext_iff_of_nodup (hl.imp Nat.ne_of_lt) (hl'.imp Nat.ne_of_lt)).2 h

section Search

variable {literal text : Text} {least m : Nat}

/-- **A search over all offsets finds the cuts.** -/
theorem literalOffsets_eq (hliteral : literal ≠ []) (hleast : least ≤ 1) :
    literalOffsets literal least (text.offset m) text =
      (literalCuts literal least m text).map text.offset := by
  refine eq_of_pairwise_of_mem_iff ((List.pairwise_lt_range' 1).filter _) ?_ fun k => ?_
  · refine List.pairwise_map.2 ((pairwise_literalCuts literal least m text).imp_of_mem ?_)
    intro i j hi hj hij
    have hlength := (mem_literalCuts.1 hj).2.2.1
    exact Text.utf8Size_take_lt hij (by omega)
  · rw [literalOffsets, List.mem_filter, List.mem_range'_1, literalAtByte_eq_true_iff hliteral,
      List.mem_map]
    constructor
    · rintro ⟨hrange, rest, hrest, hstarts⟩
      obtain ⟨n, hn, rfl, rfl⟩ := Text.exists_offset_of_dropBytes? hrest
      refine ⟨n, mem_literalCuts.2 ⟨(Text.le_offset_iff hleast hn).1 hrange.1,
        (Text.offset_le_iff hn).1 (by omega), hn, hstarts⟩, rfl⟩
    · rintro ⟨n, hcut, rfl⟩
      obtain ⟨hlow, hhigh, hn, hstarts⟩ := mem_literalCuts.1 hcut
      have hlow := (Text.le_offset_iff hleast hn).2 hlow
      have hhigh := (Text.offset_le_iff hn).2 hhigh
      exact ⟨⟨hlow, by omega⟩, text.drop n, Text.dropBytes?_offset text n, hstarts⟩

theorem firstLiteralOffset?_eq (hliteral : literal ≠ []) (hleast : least ≤ 1) :
    firstLiteralOffset? literal least (text.offset m) text =
      (firstLiteralCut? literal least m text).map text.offset := by
  have hoffsets : literalOffsets literal least (text.offset m) text =
      (literalCuts literal least m text).map text.offset := literalOffsets_eq hliteral hleast
  rw [firstLiteralOffset?, ← List.head?_filter, firstLiteralCut?_eq_head?, ← List.head?_map,
    ← hoffsets, literalOffsets]

end Search

/-! ## 3.  Greedy tokens -/

namespace Boundary

/-- The text that ends a run. -/
def text? : Boundary → Option Text
  | free => none
  | literal text _ => some text
  | delimiter c => some [c]

/-- Whether a run may also end without that text. -/
def isOptional : Boundary → Bool
  | delimiter _ => true
  | _ => false

/-- Whether the text has to close the candidate. -/
def isTerminal : Boundary → Bool
  | literal _ closing => closing
  | _ => false

/-- The offsets at which a greedy run may end, in the order in which they are tried. -/
def endOffsets (b : Boundary) (k : CharClass) (least : Nat) (text : Text) : List Nat :=
  let run := k.runLength text.utf8
  let found :=
    match b.text?.filter fun stop => !stop.isEmpty with
    | some stop => literalOffsets stop least run text
    | none => []
  let ends := if b.isOptional then found else found.reverse
  let isOpen := b.text?.all (·.isEmpty) || b.isOptional
  if isOpen && least ≤ run && !ends.contains run then ends ++ [run] else ends

theorem contains_map_offset {t : Text} {ns : List Nat} (hns : ∀ n ∈ ns, n ≤ t.length) {m : Nat}
    (hm : m ≤ t.length) : (ns.map t.offset).contains (t.offset m) = ns.contains m := by
  rw [Bool.eq_iff_iff, List.contains_iff_mem, List.contains_iff_mem, List.mem_map]
  constructor
  · rintro ⟨n, hn, heq⟩
    exact (Text.offset_injective (hns n hn) hm).1 heq ▸ hn
  · exact fun h => ⟨m, h, rfl⟩

/-- **The ends of a greedy run are cuts between characters.** -/
theorem endOffsets_eq {b : Boundary} (hb : b.text? ≠ some []) (k : CharClass) {least : Nat}
    (hleast : least ≤ 1) (text : Text) :
    b.endOffsets k least text = (b.ends k least text).map text.offset := by
  have hrun : k.run text ≤ text.length := CharClass.run_le_length k text
  have hbytes : k.runLength text.utf8 = text.offset (k.run text) := CharClass.runLength_utf8 k text
  cases b with
  | free =>
    simp only [endOffsets, text?, isOptional, ends, hbytes, Option.filter_none, Option.all_none,
      Bool.or_false, Bool.true_and, List.reverse_nil, Bool.false_eq_true, if_false,
      List.contains_nil, Bool.not_false, Bool.and_true, List.nil_append, decide_eq_true_iff,
      Text.le_offset_iff hleast hrun]
    split
    · rfl
    · rfl
  | literal lit closing =>
    have hlit : lit ≠ [] := fun h => hb (congrArg some h)
    have hempty : lit.isEmpty = false := List.isEmpty_eq_false_iff.2 hlit
    simp only [endOffsets, text?, isOptional, ends, hbytes, Option.filter_some, hempty,
      Bool.not_false, if_true, literalOffsets_eq hlit hleast, Option.all_some, Bool.or_false,
      Bool.false_and, Bool.false_eq_true, if_false, List.map_reverse]
  | delimiter c =>
    have hcuts : ∀ n ∈ literalCuts [c] least (k.run text) text, n ≤ text.length :=
      fun n hn => (mem_literalCuts.1 hn).2.2.1
    simp only [endOffsets, text?, isOptional, ends, hbytes, Option.filter_some, List.isEmpty_cons,
      Bool.not_false, if_true, literalOffsets_eq (List.cons_ne_nil c []) hleast, Bool.or_true,
      Bool.true_and, contains_map_offset hcuts hrun, Bool.and_eq_true, decide_eq_true_iff,
      Text.le_offset_iff hleast hrun]
    split
    · rw [List.map_append, List.map_singleton]
    · rfl

/-! ## 4.  Values inside operators -/

/-- The offset at which a literal would have to stand to close a text, or that of the run
if it does not stand there. -/
def closingOffset (literal : Text) (run : Nat) (text : Text) : Nat :=
  let start := text.utf8Size - literal.utf8Size
  if literal.utf8Size ≤ text.utf8Size ∧ start ≤ run ∧ literalAtByte text start literal then start
  else run

/-- The offset at which a value ends that could go on for `run` bytes. -/
def valueOffset (b : Boundary) (least run : Nat) (text : Text) : Nat :=
  match b.text?.filter fun stop => !stop.isEmpty with
  | some stop =>
      if b.isTerminal then closingOffset stop run text
      else (firstLiteralOffset? stop least run text).getD run
  | none => run

end Boundary

theorem utf8Size_upperEscapes (t : Text) : (upperEscapes t).utf8Size = t.utf8Size := by
  have hupper : ∀ {x : Char}, isHexDigit x = true → x.toUpper.utf8Size = x.utf8Size := by
    intro x hx
    have hx' : isHexDigit x.toUpper = true := by rwa [isHexDigit_toUpper]
    rw [utf8Size_of_lt (toNat_lt_of_isHexDigit hx), utf8Size_of_lt (toNat_lt_of_isHexDigit hx')]
  induction t using escapeInduction with
  | nil => rfl
  | escape x y rest hx hy ih =>
    rw [upperEscapes_escape hx hy]
    simp only [Text.utf8Size_cons, hupper hx, hupper hy, ih]
  | plain c rest hopen ih =>
    rw [upperEscapes_plain hopen, Text.utf8Size_cons, ih, Text.utf8Size_cons]

/-- A literal takes a piece of its own size, in characters and in bytes. -/
theorem exists_piece_of_stripLiteral? {literal text rest : Text}
    (h : stripLiteral? literal text = some rest) :
    ∃ piece, text = piece ++ rest ∧ piece.length = literal.length ∧
      piece.utf8Size = literal.utf8Size := by
  obtain ⟨piece, rfl, hpiece⟩ := stripLiteral?_eq_some_iff.1 h
  refine ⟨piece, rfl, ?_, ?_⟩
  · rw [← length_upperEscapes, hpiece, length_upperEscapes]
  · rw [← utf8Size_upperEscapes, hpiece, utf8Size_upperEscapes]

theorem Text.eq_nil_of_utf8Size {t : Text} (h : t.utf8Size = 0) : t = [] := by
  cases t with
  | nil => rfl
  | cons c t =>
    have hc := c.utf8Size_pos
    rw [utf8Size_cons] at h
    omega

namespace Boundary

/-- **A literal that closes a text is found at one offset, between two characters.** -/
theorem closingOffset_eq {lit text : Text} (hlit : lit ≠ []) {r : Nat} (hr : r ≤ text.length)
    (least : Nat) :
    closingOffset lit (text.offset r) text =
      text.offset ((literal lit true).valueEnd least r text) := by
  by_cases hcloses : ∃ before piece, text = before ++ piece ∧ stripLiteral? lit piece = some []
  · obtain ⟨before, piece, rfl, hstrip⟩ := hcloses
    obtain ⟨piece', hpiece, hlength, hsize⟩ := exists_piece_of_stripLiteral? hstrip
    rw [List.append_nil] at hpiece
    subst hpiece
    have hbefore : (before ++ piece).offset before.length = before.utf8Size := by
      rw [Text.offset, List.take_left]
    have hstands : literalAtByte (before ++ piece) before.utf8Size lit = true :=
      (literalAtByte_eq_true_iff hlit).2 ⟨piece, Text.dropBytes?_append before piece,
        Option.isSome_iff_exists.2 ⟨[], hstrip⟩⟩
    have hstarts : startsWithLiteral lit ((before ++ piece).drop before.length) = true := by
      rw [List.drop_left]
      exact Option.isSome_iff_exists.2 ⟨[], hstrip⟩
    have hle : before.utf8Size ≤ (before ++ piece).offset r ↔ before.length ≤ r := by
      rw [← hbefore, Text.offset_le_iff]
      rw [List.length_append]
      exact Nat.le_add_right _ _
    simp only [closingOffset, valueEnd, ← hsize, ← hlength, Text.utf8Size_append,
      List.length_append, Nat.add_sub_cancel, Nat.le_add_left, true_and, hstands, hstarts,
      and_true, hle]
    split
    · exact hbefore.symm
    · rfl
  · have hbytes : ¬(lit.utf8Size ≤ text.utf8Size ∧
        text.utf8Size - lit.utf8Size ≤ text.offset r ∧
        literalAtByte text (text.utf8Size - lit.utf8Size) lit = true) := by
      rintro ⟨hsize, -, hstands⟩
      obtain ⟨rest, hrest, hstarts⟩ := (literalAtByte_eq_true_iff hlit).1 hstands
      obtain ⟨before, rfl, hbefore⟩ := Text.dropBytes?_eq_some_iff.1 hrest
      obtain ⟨last, hlast⟩ := Option.isSome_iff_exists.1 hstarts
      obtain ⟨piece, rfl, -, hpiece⟩ := exists_piece_of_stripLiteral? hlast
      have hnil : last = [] := by
        apply Text.eq_nil_of_utf8Size
        simp only [Text.utf8Size_append] at hbefore hsize
        omega
      subst hnil
      exact hcloses ⟨before, piece ++ [], rfl, hlast⟩
    have hchars : ¬(lit.length ≤ text.length ∧ text.length - lit.length ≤ r ∧
        startsWithLiteral lit (text.drop (text.length - lit.length)) = true) := by
      rintro ⟨hlength, -, hstarts⟩
      obtain ⟨last, hlast⟩ := Option.isSome_iff_exists.1 hstarts
      obtain ⟨piece, hdrop, hpiece, -⟩ := exists_piece_of_stripLiteral? hlast
      have hnil : last = [] := by
        have hcount := congrArg List.length hdrop
        rw [List.length_drop, List.length_append, hpiece] at hcount
        exact List.length_eq_zero_iff.1 (by omega)
      subst hnil
      exact hcloses
        ⟨text.take (text.length - lit.length), _, (List.take_append_drop _ _).symm, hlast⟩
    simp only [closingOffset, valueEnd, if_neg hbytes, if_neg hchars]

/-- **A value ends between two characters.** -/
theorem valueOffset_eq {b : Boundary} (hb : b.text? ≠ some []) {least : Nat} (hleast : least ≤ 1)
    {text : Text} {r : Nat} (hr : r ≤ text.length) :
    b.valueOffset least (text.offset r) text = text.offset (b.valueEnd least r text) := by
  have hfirst : ∀ {lit : Text}, lit ≠ [] →
      (firstLiteralOffset? lit least (text.offset r) text).getD (text.offset r) =
        text.offset ((firstLiteralCut? lit least r text).getD r) := by
    intro lit hlit
    rw [firstLiteralOffset?_eq hlit hleast]
    cases firstLiteralCut? lit least r text <;> rfl
  cases b with
  | free => rfl
  | literal lit closing =>
    have hlit : lit ≠ [] := fun h => hb (congrArg some h)
    have hempty : lit.isEmpty = false := List.isEmpty_eq_false_iff.2 hlit
    simp only [valueOffset, text?, isTerminal, Option.filter_some, hempty, Bool.not_false, if_true]
    cases closing with
    | false => exact hfirst hlit
    | true => exact closingOffset_eq hlit hr least
  | delimiter c => exact hfirst (List.cons_ne_nil c [])

end Boundary
end UriRouting
