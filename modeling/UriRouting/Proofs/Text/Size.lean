import UriRouting.Text

/-!
# Lengths in bytes

Positions count bytes and cuts count characters.  On the beginnings of one text
the two counts are in the same order, so either may be compared in place of the
other.
-/

namespace UriRouting.Text

theorem utf8Size_pos_iff {t : Text} : 1 ≤ t.utf8Size ↔ 1 ≤ t.length := by
  cases t with
  | nil => rw [utf8Size_nil, List.length_nil]
  | cons c t =>
    have hc := c.utf8Size_pos
    rw [utf8Size_cons, List.length_cons]
    omega

/-- Of two beginnings of a text, the one with more characters has more bytes. -/
theorem utf8Size_take_lt {t : Text} {m n : Nat} (hmn : m < n) (hm : m < t.length) :
    utf8Size (t.take m) < utf8Size (t.take n) := by
  induction t generalizing m n with
  | nil => exact absurd hm (Nat.not_lt_zero m)
  | cons c t ih =>
    have hc := c.utf8Size_pos
    cases n with
    | zero => exact absurd hmn (Nat.not_lt_zero m)
    | succ n =>
      cases m with
      | zero =>
        rw [List.take_zero, List.take_succ_cons, utf8Size_nil, utf8Size_cons]
        omega
      | succ m =>
        rw [List.take_succ_cons, List.take_succ_cons, utf8Size_cons, utf8Size_cons]
        have hrest := ih (Nat.lt_of_succ_lt_succ hmn) (Nat.lt_of_succ_lt_succ hm)
        omega

theorem utf8Size_take_le_iff {t : Text} {m n : Nat} (hm : m ≤ t.length) :
    utf8Size (t.take m) ≤ utf8Size (t.take n) ↔ m ≤ n := by
  constructor
  · intro h
    rcases Nat.lt_or_ge n m with hlt | hge
    · have hsize := utf8Size_take_lt (t := t) hlt (Nat.lt_of_lt_of_le hlt hm)
      omega
    · exact hge
  · intro hmn
    rcases Nat.lt_or_ge m t.length with hlt | hge
    · rcases Nat.lt_or_eq_of_le hmn with hmn | rfl
      · exact Nat.le_of_lt (utf8Size_take_lt hmn hlt)
      · exact Nat.le_refl _
    · refine Nat.le_of_eq (congrArg utf8Size ?_)
      rw [List.take_of_length_le hge, List.take_of_length_le (Nat.le_trans hge hmn)]

end UriRouting.Text
