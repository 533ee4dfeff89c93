import UriRouting.Percent.Literal
import UriRouting.Proofs.Percent.Escapes

/-!
# What it is to begin with a literal

A text begins with a literal when some piece at its front equals the literal up to
the case of the digits of the escapes.

* `upperEscapes`: the text with the digits of its escapes in upper case.
* `stripLiteral?_eq_some_iff`: taking a literal from the front of a text leaves what
  follows such a piece.
* `mem_literalCuts` and `pairwise_literalCuts`: the cuts behind which a literal
  stands, each of them once, in ascending order.
-/

namespace UriRouting

/-! ## Escapes in upper case -/

/-- The text with the digits of its escapes in upper case. -/
def upperEscapes : Text → Text
  | [] => []
  | '%' :: x :: y :: rest =>
      if isHexDigit x && isHexDigit y then '%' :: x.toUpper :: y.toUpper :: upperEscapes rest
      else '%' :: upperEscapes (x :: y :: rest)
  | c :: rest => c :: upperEscapes rest

theorem upperEscapes_escape {x y : Char} (hx : isHexDigit x = true) (hy : isHexDigit y = true)
    (rest : Text) :
    upperEscapes ('%' :: x :: y :: rest) = '%' :: x.toUpper :: y.toUpper :: upperEscapes rest := by
  rw [upperEscapes, hx, hy, Bool.and_self, if_pos rfl]

theorem upperEscapes_plain {c : Char} {rest : Text} (h : opensEscape (c :: rest) = false) :
    upperEscapes (c :: rest) = c :: upperEscapes rest := by
  by_cases hc : c = '%'
  · subst hc
    rcases rest with _ | ⟨x, _ | ⟨y, rest⟩⟩
    · rfl
    · rfl
    · rw [upperEscapes, show (isHexDigit x && isHexDigit y) = false from h]
      rfl
  · rw [upperEscapes]
    exact fun x y rest' h' => absurd h' hc

@[simp] theorem length_upperEscapes (t : Text) : (upperEscapes t).length = t.length := by
  induction t using escapeInduction with
  | nil => rfl
  | escape x y rest hx hy ih =>
    rw [upperEscapes_escape hx hy]
    simp only [List.length_cons, ih]
  | plain c rest hopen ih =>
    rw [upperEscapes_plain hopen]
    simp only [List.length_cons, ih]

theorem head?_upperEscapes (t : Text) : (upperEscapes t).head? = t.head? := by
  cases t with
  | nil => rfl
  | cons c rest =>
    cases hopen : opensEscape (c :: rest) with
    | false => rw [upperEscapes_plain hopen, List.head?_cons, List.head?_cons]
    | true =>
      obtain ⟨x, y, rest', heq, hx, hy⟩ := exists_of_opensEscape hopen
      rw [heq, upperEscapes_escape hx hy, List.head?_cons, List.head?_cons]

/-- Whether a character and a text open an escape does not depend on the case of
the escapes in the text. -/
theorem opensEscape_cons_upperEscapes (c : Char) (t : Text) :
    opensEscape (c :: upperEscapes t) = opensEscape (c :: t) := by
  by_cases hc : c = '%'
  · subst hc
    cases t with
    | nil => rfl
    | cons x rest =>
      cases hopen : opensEscape (x :: rest) with
      | true =>
        obtain ⟨a, b, rest', heq, ha, hb⟩ := exists_of_opensEscape hopen
        rw [heq, upperEscapes_escape ha hb]
        rfl
      | false =>
        have hhead := head?_upperEscapes rest
        rw [upperEscapes_plain hopen]
        cases rest with
        | nil => rfl
        | cons y rest =>
          obtain ⟨tail, htail⟩ := List.head?_eq_some_iff.1 hhead
          rw [htail]
          rfl
  · rw [opensEscape_cons_of_ne hc, opensEscape_cons_of_ne hc]

theorem opensEscape_upperEscapes (t : Text) : opensEscape (upperEscapes t) = opensEscape t := by
  cases t with
  | nil => rfl
  | cons c rest =>
    cases hopen : opensEscape (c :: rest) with
    | false => rw [upperEscapes_plain hopen, opensEscape_cons_upperEscapes, hopen]
    | true =>
      obtain ⟨x, y, rest', heq, hx, hy⟩ := exists_of_opensEscape hopen
      rw [heq, upperEscapes_escape hx hy]
      refine opensEscape_escape ?_ ?_ _
      · rw [isHexDigit_toUpper, hx]
      · rw [isHexDigit_toUpper, hy]

/-- A text that equals one without `%` up to the case of the escapes is that text. -/
theorem eq_of_upperEscapes_eq {s t : Text} (ht : '%' ∉ t) (h : upperEscapes s = upperEscapes t) :
    s = t := by
  induction t generalizing s with
  | nil =>
    have hlength := congrArg List.length h
    rw [length_upperEscapes, length_upperEscapes] at hlength
    exact List.length_eq_zero_iff.1 hlength
  | cons c t ih =>
    rw [List.mem_cons, not_or] at ht
    have hhead : s.head? = some c := by
      rw [← head?_upperEscapes, h, head?_upperEscapes, List.head?_cons]
    obtain ⟨rest, rfl⟩ := List.head?_eq_some_iff.1 hhead
    rw [upperEscapes_plain (opensEscape_cons_of_ne (Ne.symm ht.1) rest),
      upperEscapes_plain (opensEscape_cons_of_ne (Ne.symm ht.1) t)] at h
    rw [ih ht.2 (List.cons.inj h).2]

/-! ## Taking a literal -/

theorem stripLiteral?_escape {x y : Char} (hx : isHexDigit x = true) (hy : isHexDigit y = true)
    {literal text rest : Text} :
    stripLiteral? ('%' :: x :: y :: literal) text = some rest ↔
      ∃ a b tail, text = '%' :: a :: b :: tail ∧ a.toUpper = x.toUpper ∧ b.toUpper = y.toUpper ∧
        stripLiteral? literal tail = some rest := by
  constructor
  · intro h
    unfold stripLiteral? at h
    split at h
    · rename_i heq
      cases heq
    · rename_i heq
      cases heq
      rw [hx, hy, Bool.and_self, if_pos rfl] at h
      split at h
      · rename_i a b tail
        split at h
        · rename_i hcase
          exact ⟨a, b, tail, rfl, hcase.1, hcase.2, h⟩
        · cases h
      · cases h
    · rename_i c literal' d text' hnot heq
      cases heq
      split at h
      · rename_i hd
        exact absurd hd.symm fun hd => hnot _ _ _ rfl rfl hd
      · cases h
    · cases h
  · rintro ⟨a, b, tail, rfl, ha, hb, h⟩
    rw [stripLiteral?, hx, hy, Bool.and_self, if_pos rfl, if_pos ⟨ha, hb⟩]
    exact h

/-- A character of a literal that opens no escape has to be met as it is. -/
theorem stripLiteral?_cons_cons {c : Char} {literal : Text}
    (hopen : opensEscape (c :: literal) = false) (d : Char) (text : Text) :
    stripLiteral? (c :: literal) (d :: text) =
      if c = d then stripLiteral? literal text else none := by
  by_cases hc : c = '%'
  · subst hc
    by_cases hd : d = '%'
    · subst hd
      rcases literal with _ | ⟨x, _ | ⟨y, literal⟩⟩
      · rfl
      · rfl
      · have hdigits : (isHexDigit x && isHexDigit y) = false := hopen
        rcases text with _ | ⟨a, _ | ⟨b, text⟩⟩ <;>
          simp only [stripLiteral?, hdigits, if_pos, Bool.false_eq_true, if_false]
    · rw [stripLiteral?]
      exact fun x y literal' _ _ h => absurd h hd
  · rw [stripLiteral?]
    exact fun x y literal' h => absurd h hc

theorem stripLiteral?_plain {c : Char} {literal text rest : Text}
    (hopen : opensEscape (c :: literal) = false) :
    stripLiteral? (c :: literal) text = some rest ↔
      ∃ tail, text = c :: tail ∧ stripLiteral? literal tail = some rest := by
  cases text with
  | nil =>
    constructor
    · intro h
      rw [stripLiteral?] at h
      cases h
    · rintro ⟨tail, h, -⟩
      cases h
  | cons d tail =>
    rw [stripLiteral?_cons_cons hopen]
    by_cases hd : c = d
    · subst hd
      rw [if_pos rfl]
      constructor
      · intro h
        exact ⟨tail, rfl, h⟩
      · rintro ⟨tail', heq, h⟩
        cases heq
        exact h
    · rw [if_neg hd]
      constructor
      · intro h
        cases h
      · rintro ⟨tail', heq, -⟩
        exact absurd (List.cons.inj heq).1.symm hd

/-- Taking a literal from the front of a text leaves what follows a piece that
equals the literal up to the case of its escapes. -/
theorem stripLiteral?_eq_some_iff {literal text rest : Text} :
    stripLiteral? literal text = some rest ↔
      ∃ piece, text = piece ++ rest ∧ upperEscapes piece = upperEscapes literal := by
  induction literal using escapeInduction generalizing text with
  | nil =>
    rw [stripLiteral?]
    constructor
    · intro h
      cases h
      exact ⟨[], rfl, rfl⟩
    · rintro ⟨piece, rfl, hpiece⟩
      have hlength := congrArg List.length hpiece
      rw [length_upperEscapes, length_upperEscapes, List.length_nil] at hlength
      rw [List.length_eq_zero_iff.1 hlength, List.nil_append]
  | escape x y literal hx hy ih =>
    rw [stripLiteral?_escape hx hy, upperEscapes_escape hx hy]
    constructor
    · rintro ⟨a, b, tail, rfl, ha, hb, h⟩
      obtain ⟨piece, rfl, hpiece⟩ := ih.1 h
      have hdigits : isHexDigit a = true ∧ isHexDigit b = true := by
        rw [← isHexDigit_toUpper a, ← isHexDigit_toUpper b, ha, hb, isHexDigit_toUpper,
          isHexDigit_toUpper]
        exact ⟨hx, hy⟩
      refine ⟨'%' :: a :: b :: piece, rfl, ?_⟩
      rw [upperEscapes_escape hdigits.1 hdigits.2, ha, hb, hpiece]
    · rintro ⟨piece, rfl, hpiece⟩
      have hopen : opensEscape piece = true := by
        rw [← opensEscape_upperEscapes, hpiece]
        exact opensEscape_escape (by rw [isHexDigit_toUpper, hx]) (by rw [isHexDigit_toUpper, hy]) _
      obtain ⟨a, b, piece, rfl, ha, hb⟩ := exists_of_opensEscape hopen
      rw [upperEscapes_escape ha hb] at hpiece
      simp only [List.cons.injEq, true_and] at hpiece
      exact ⟨a, b, piece ++ rest, rfl, hpiece.1, hpiece.2.1, ih.2 ⟨piece, rfl, hpiece.2.2⟩⟩
  | plain c literal hopen ih =>
    rw [stripLiteral?_plain hopen, upperEscapes_plain hopen]
    constructor
    · rintro ⟨tail, rfl, h⟩
      obtain ⟨piece, rfl, hpiece⟩ := ih.1 h
      refine ⟨c :: piece, rfl, ?_⟩
      rw [upperEscapes_plain, hpiece]
      rw [← opensEscape_cons_upperEscapes, hpiece, opensEscape_cons_upperEscapes, hopen]
    · rintro ⟨piece, rfl, hpiece⟩
      have hopen' : opensEscape piece = false := by
        rw [← opensEscape_upperEscapes, hpiece, opensEscape_cons_upperEscapes, hopen]
      cases piece with
      | nil => cases hpiece
      | cons d piece =>
        rw [upperEscapes_plain hopen'] at hpiece
        obtain ⟨rfl, htail⟩ := List.cons.inj hpiece
        exact ⟨piece ++ rest, rfl, ih.2 ⟨piece, rfl, htail⟩⟩

theorem stripLiteral?_append (literal rest : Text) :
    stripLiteral? literal (literal ++ rest) = some rest :=
  stripLiteral?_eq_some_iff.2 ⟨literal, rfl, rfl⟩

theorem stripLiteral?_nil {literal : Text} (h : literal ≠ []) :
    stripLiteral? literal [] = none := by
  obtain ⟨c, tail, rfl⟩ := List.exists_cons_of_ne_nil h
  rw [stripLiteral?]

theorem startsWithLiteral_iff {literal text : Text} :
    startsWithLiteral literal text = true ↔
      ∃ piece rest, text = piece ++ rest ∧ upperEscapes piece = upperEscapes literal := by
  rw [startsWithLiteral, Option.isSome_iff_exists]
  constructor
  · rintro ⟨rest, h⟩
    obtain ⟨piece, heq, hpiece⟩ := stripLiteral?_eq_some_iff.1 h
    exact ⟨piece, rest, heq, hpiece⟩
  · rintro ⟨piece, rest, heq, hpiece⟩
    exact ⟨rest, stripLiteral?_eq_some_iff.2 ⟨piece, heq, hpiece⟩⟩

theorem startsWithLiteral_append (literal rest : Text) :
    startsWithLiteral literal (literal ++ rest) = true :=
  startsWithLiteral_iff.2 ⟨literal, rest, rfl, rfl⟩

/-! ## Where a literal stands -/

variable {literal : Text} {least shift most n : Nat}

/-- At the last cut that is tried, the literal stands behind it or there is none. -/
theorem mem_literalCutsFrom_last {text : Text} (h : most = 0 ∨ text = []) :
    n ∈ literalCutsFrom literal least shift most text ↔
      n = shift ∧ least ≤ shift ∧ startsWithLiteral literal text = true := by
  have hcuts : literalCutsFrom literal least shift most text =
      if least ≤ shift ∧ startsWithLiteral literal text then [shift] else [] := by
    rcases h with rfl | rfl
    · rw [literalCutsFrom]
      rintro most' c rest ⟨⟩
    · cases most <;> rfl
  rw [hcuts]
  split
  · rename_i hcut
    rw [List.mem_singleton]
    exact ⟨fun hn => ⟨hn, hcut⟩, And.left⟩
  · rename_i hcut
    exact ⟨fun hn => absurd hn List.not_mem_nil, fun hn => absurd hn.2 hcut⟩

/-- Before the last one, a cut is this one or a later one. -/
theorem mem_literalCutsFrom_succ {c : Char} {rest : Text} :
    n ∈ literalCutsFrom literal least shift (most + 1) (c :: rest) ↔
      (n = shift ∧ least ≤ shift ∧ startsWithLiteral literal (c :: rest) = true) ∨
        n ∈ literalCutsFrom literal least (shift + 1) most rest := by
  rw [literalCutsFrom]
  split
  · rename_i hcut
    simp [hcut]
  · rename_i hcut
    simp [hcut]

theorem exists_cut_iff_of_last {text : Text} (h : most = 0 ∨ text = []) :
    (∃ k, n = shift + k ∧ k ≤ most ∧ k ≤ text.length ∧ least ≤ n ∧
      startsWithLiteral literal (text.drop k) = true) ↔
      n = shift ∧ least ≤ shift ∧ startsWithLiteral literal text = true := by
  constructor
  · rintro ⟨k, rfl, hmost, hlength, hleast, hstarts⟩
    obtain rfl : k = 0 := by
      rcases h with rfl | rfl
      · exact Nat.le_zero.1 hmost
      · exact Nat.le_zero.1 hlength
    exact ⟨rfl, hleast, hstarts⟩
  · rintro ⟨rfl, hleast, hstarts⟩
    exact ⟨0, rfl, Nat.zero_le _, Nat.zero_le _, hleast, hstarts⟩

theorem mem_literalCutsFrom {text : Text} :
    n ∈ literalCutsFrom literal least shift most text ↔
      ∃ k, n = shift + k ∧ k ≤ most ∧ k ≤ text.length ∧ least ≤ n ∧
        startsWithLiteral literal (text.drop k) = true := by
  induction text generalizing shift most with
  | nil => rw [mem_literalCutsFrom_last (Or.inr rfl), exists_cut_iff_of_last (Or.inr rfl)]
  | cons c rest ih =>
    cases most with
    | zero => rw [mem_literalCutsFrom_last (Or.inl rfl), exists_cut_iff_of_last (Or.inl rfl)]
    | succ most =>
      rw [mem_literalCutsFrom_succ, ih]
      constructor
      · rintro (⟨rfl, hleast, hstarts⟩ | ⟨k, rfl, hmost, hlength, hleast, hstarts⟩)
        · exact ⟨0, rfl, Nat.zero_le _, Nat.zero_le _, hleast, hstarts⟩
        · exact ⟨k + 1, by omega, by omega, Nat.succ_le_succ hlength, hleast, hstarts⟩
      · rintro ⟨k, rfl, hmost, hlength, hleast, hstarts⟩
        cases k with
        | zero => exact Or.inl ⟨rfl, hleast, hstarts⟩
        | succ k =>
          refine Or.inr ⟨k, by omega, by omega, Nat.le_of_succ_le_succ hlength, hleast, hstarts⟩

/-- The cuts that are listed are those behind which the literal stands. -/
theorem mem_literalCuts {literal text : Text} {least most n : Nat} :
    n ∈ literalCuts literal least most text ↔
      least ≤ n ∧ n ≤ most ∧ n ≤ text.length ∧
        startsWithLiteral literal (text.drop n) = true := by
  rw [literalCuts, mem_literalCutsFrom]
  constructor
  · rintro ⟨k, rfl, hmost, hlength, hleast, hstarts⟩
    rw [Nat.zero_add] at hleast ⊢
    exact ⟨hleast, hmost, hlength, hstarts⟩
  · rintro ⟨hleast, hmost, hlength, hstarts⟩
    exact ⟨n, (Nat.zero_add n).symm, hmost, hlength, hleast, hstarts⟩

theorem pairwise_literalCutsFrom (literal : Text) (least shift most : Nat) (text : Text) :
    (literalCutsFrom literal least shift most text).Pairwise (· < ·) := by
  fun_induction literalCutsFrom literal least shift most text with
  | case1 shift most c rest later hcut ih =>
    refine List.pairwise_cons.2 ⟨fun n hn => ?_, ih⟩
    obtain ⟨k, rfl, -⟩ := mem_literalCutsFrom.1 hn
    omega
  | case2 shift most c rest later hcut ih => exact ih
  | case3 shift most text hcut hshape => exact List.pairwise_singleton _ _
  | case4 shift most text hcut hshape => exact List.Pairwise.nil

/-- The cuts are listed in ascending order. -/
theorem pairwise_literalCuts (literal : Text) (least most : Nat) (text : Text) :
    (literalCuts literal least most text).Pairwise (· < ·) :=
  pairwise_literalCutsFrom literal least 0 most text

/-- The first cut is the head of the list of cuts. -/
theorem firstLiteralCut?_eq_head? (literal : Text) (least most : Nat) (text : Text) :
    firstLiteralCut? literal least most text = (literalCuts literal least most text).head? := by
  suffices h : ∀ shift, firstLiteralCutFrom? literal least shift most text =
      (literalCutsFrom literal least shift most text).head? from h 0
  intro shift
  fun_induction literalCutsFrom literal least shift most text with
  | case1 shift most c rest later hcut ih =>
    rw [firstLiteralCutFrom?, if_pos hcut, List.head?_cons]
  | case2 shift most c rest later hcut ih =>
    rw [firstLiteralCutFrom?, if_neg hcut, ih]
  | case3 shift most text hcut hshape =>
    rw [firstLiteralCutFrom?, if_pos hcut, List.head?_cons]
    exact hshape
  | case4 shift most text hcut hshape =>
    rw [firstLiteralCutFrom?, if_neg hcut, List.head?_nil]
    exact hshape

end UriRouting
