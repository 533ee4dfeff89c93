import UriRouting.Percent.CharClass

/-!
# Texts as escapes and plain characters

Everything that reads percent-encoded text cuts it in the same way: from left to
right, a complete escape --- `%` and two hexadecimal digits --- is one unit, and
every other character is one.

* `opensEscape` decides which of the two comes first, and `escapeInduction` is
  induction along the units of a text.
* `CharClass.Units`: the texts that are made of admitted characters and escapes,
  with `CharClass.runOf_append`: such a text belongs to the run whole.
-/

namespace UriRouting

/-! ## Hexadecimal digits -/

theorem isHexDigit_iff {c : Char} :
    isHexDigit c = true ↔ (48 ≤ c.toNat ∧ c.toNat ≤ 57) ∨ (97 ≤ c.toNat ∧ c.toNat ≤ 102) ∨
      (65 ≤ c.toNat ∧ c.toNat ≤ 70) := by
  simp only [isHexDigit, Bool.or_eq_true, Bool.and_eq_true, decide_eq_true_eq,
    Char.isDigit_iff_toNat, or_assoc]
  rfl

theorem isAlphanum_iff {c : Char} :
    c.isAlphanum = true ↔ ((65 ≤ c.toNat ∧ c.toNat ≤ 90) ∨ (97 ≤ c.toNat ∧ c.toNat ≤ 122)) ∨
      (48 ≤ c.toNat ∧ c.toNat ≤ 57) := by
  show ((decide (c.val ≥ 'A'.val ∧ c.val ≤ 'Z'.val) ||
    (decide (c.val ≥ 'a'.val) && decide (c.val ≤ 'z'.val))) || c.isDigit) = true ↔ _
  simp only [Bool.or_eq_true, Bool.and_eq_true, decide_eq_true_eq, Char.isDigit_iff_toNat]
  rfl

theorem isAlphanum_of_isHexDigit {c : Char} (h : isHexDigit c = true) : c.isAlphanum = true := by
  rw [isHexDigit_iff] at h
  rw [isAlphanum_iff]
  omega

theorem isUnreserved_of_isHexDigit {c : Char} (h : isHexDigit c = true) :
    isUnreserved c = true := by
  rw [isUnreserved, isAlphanum_of_isHexDigit h]
  rfl

theorem toNat_toUpper (c : Char) :
    c.toUpper.toNat = if 97 ≤ c.toNat ∧ c.toNat ≤ 122 then c.toNat - 32 else c.toNat := by
  have hle : ('a'.val ≤ c.val ∧ c.val ≤ 'z'.val) ↔ (97 ≤ c.toNat ∧ c.toNat ≤ 122) := Iff.rfl
  delta Char.toUpper
  split
  · rename_i h
    rw [if_pos (hle.1 h)]
    have hlow := (hle.1 h).1
    have hhigh := (hle.1 h).2
    show (c.val + ('A'.val - 'a'.val)).toNat = c.toNat - 32
    rw [UInt32.toNat_add]
    show (c.toNat + 4294967264) % 4294967296 = c.toNat - 32
    omega
  · rename_i h
    rw [if_neg fun h' => h (hle.2 h')]

/-- Upper case makes no digit and unmakes none. -/
@[simp] theorem isHexDigit_toUpper (c : Char) : isHexDigit c.toUpper = isHexDigit c := by
  rw [Bool.eq_iff_iff, isHexDigit_iff, isHexDigit_iff, toNat_toUpper]
  split <;> omega

/-! ## Units -/

/-- Whether a text begins with an escape. -/
def opensEscape : Text → Bool
  | '%' :: x :: y :: _ => isHexDigit x && isHexDigit y
  | _ => false

@[simp] theorem opensEscape_escape {x y : Char} (hx : isHexDigit x = true)
    (hy : isHexDigit y = true) (rest : Text) : opensEscape ('%' :: x :: y :: rest) = true := by
  rw [opensEscape, hx, hy, Bool.and_self]

theorem exists_of_opensEscape {t : Text} (h : opensEscape t = true) :
    ∃ x y rest, t = '%' :: x :: y :: rest ∧ isHexDigit x = true ∧ isHexDigit y = true := by
  unfold opensEscape at h
  split at h
  · rename_i x y rest
    rw [Bool.and_eq_true] at h
    exact ⟨x, y, rest, rfl, h.1, h.2⟩
  · cases h

theorem opensEscape_cons_of_ne {c : Char} (h : c ≠ '%') (rest : Text) :
    opensEscape (c :: rest) = false := by
  cases hopen : opensEscape (c :: rest) with
  | false => rfl
  | true =>
    obtain ⟨x, y, rest', heq, -, -⟩ := exists_of_opensEscape hopen
    exact absurd (List.cons.inj heq).1 h

/-- Induction along the units of a text. -/
theorem escapeInduction {motive : Text → Prop} (nil : motive [])
    (escape : ∀ x y rest, isHexDigit x = true → isHexDigit y = true → motive rest →
      motive ('%' :: x :: y :: rest))
    (plain : ∀ c rest, opensEscape (c :: rest) = false → motive rest → motive (c :: rest))
    (t : Text) : motive t := by
  induction hn : t.length using Nat.strongRecOn generalizing t with
  | ind n ih =>
    cases t with
    | nil => exact nil
    | cons c rest =>
      rw [List.length_cons] at hn
      cases hopen : opensEscape (c :: rest) with
      | false => exact plain c rest hopen (ih rest.length (by omega) rest rfl)
      | true =>
        obtain ⟨x, y, rest', heq, hx, hy⟩ := exists_of_opensEscape hopen
        rw [(List.cons.inj heq).2, List.length_cons, List.length_cons] at hn
        rw [heq]
        exact escape x y rest' hx hy (ih rest'.length (by omega) rest' rfl)

/-! ## Runs -/

namespace CharClass

variable {p : Char → Bool}

theorem runOf_escape {x y : Char} (hx : isHexDigit x = true) (hy : isHexDigit y = true)
    (rest : Text) : runOf p ('%' :: x :: y :: rest) = runOf p rest + 3 := by
  rw [runOf, hx, hy, Bool.and_self, if_pos rfl]

theorem runOf_plain {c : Char} {rest : Text} (h : opensEscape (c :: rest) = false) :
    runOf p (c :: rest) = if c ≠ '%' ∧ p c = true then runOf p rest + 1 else 0 := by
  by_cases hc : c = '%'
  · subst hc
    rcases rest with _ | ⟨x, _ | ⟨y, rest⟩⟩
    · rfl
    · rfl
    · rw [runOf, show (isHexDigit x && isHexDigit y) = false from h]
      rfl
  · rw [runOf]
    · simp [hc]
    · exact fun x y rest' h' => absurd h' hc

theorem runOf_le_length (t : Text) : runOf p t ≤ t.length := by
  induction t using escapeInduction with
  | nil => exact Nat.le_refl 0
  | escape x y rest hx hy ih =>
    rw [runOf_escape hx hy]
    simp only [List.length_cons]
    omega
  | plain c rest hopen ih =>
    rw [runOf_plain hopen]
    split
    · rw [List.length_cons]
      omega
    · exact Nat.zero_le _

theorem run_le_length (k : CharClass) (t : Text) : k.run t ≤ t.length := by
  cases k with
  | any => exact Nat.le_refl _
  | unreserved => exact runOf_le_length t
  | unreservedList => exact runOf_le_length t
  | reserved => exact runOf_le_length t

/-- Texts made of characters that `p` admits and of whole escapes. -/
inductive Units (p : Char → Bool) : Text → Prop where
  | nil : Units p []
  | escape {x y : Char} {rest : Text} (hx : isHexDigit x = true) (hy : isHexDigit y = true)
      (h : Units p rest) : Units p ('%' :: x :: y :: rest)
  | char {c : Char} {rest : Text} (hne : c ≠ '%') (hc : p c = true) (h : Units p rest) :
      Units p (c :: rest)

theorem Units.append {s t : Text} (hs : Units p s) (ht : Units p t) : Units p (s ++ t) := by
  induction hs with
  | nil => exact ht
  | escape hx hy _ ih => exact Units.escape hx hy ih
  | char hne hc _ ih => exact Units.char hne hc ih

theorem Units.mono {q : Char → Bool} (hpq : ∀ c, p c = true → q c = true) {t : Text}
    (h : Units p t) : Units q t := by
  induction h with
  | nil => exact Units.nil
  | escape hx hy _ ih => exact Units.escape hx hy ih
  | char hne hc _ ih => exact Units.char hne (hpq _ hc) ih

theorem units_of_forall {t : Text} (h : ∀ c ∈ t, c ≠ '%' ∧ p c = true) : Units p t := by
  induction t with
  | nil => exact Units.nil
  | cons c t ih =>
    obtain ⟨⟨hne, hc⟩, ht⟩ := List.forall_mem_cons.1 h
    exact Units.char hne hc (ih ht)

/-- The characters of such a text are admitted ones and those of escapes. -/
theorem Units.mem {t : Text} (h : Units p t) {c : Char} (hc : c ∈ t) :
    c = '%' ∨ isHexDigit c = true ∨ p c = true := by
  induction h with
  | nil => exact absurd hc List.not_mem_nil
  | escape hx hy _ ih =>
    simp only [List.mem_cons] at hc
    rcases hc with rfl | rfl | rfl | hc
    · exact Or.inl rfl
    · exact Or.inr (Or.inl hx)
    · exact Or.inr (Or.inl hy)
    · exact ih hc
  | char hne hp _ ih =>
    rcases List.mem_cons.1 hc with rfl | hc
    · exact Or.inr (Or.inr hp)
    · exact ih hc

/-- A text of the class lies in the run whole, whatever follows it. -/
theorem runOf_append {w : Text} (h : Units p w) (t : Text) :
    runOf p (w ++ t) = w.length + runOf p t := by
  induction h with
  | nil => rw [List.nil_append, List.length_nil, Nat.zero_add]
  | escape hx hy _ ih =>
    simp only [List.cons_append, List.length_cons]
    rw [runOf_escape hx hy, ih]
    omega
  | char hne hc _ ih =>
    rw [List.cons_append, runOf_plain (opensEscape_cons_of_ne hne _), if_pos ⟨hne, hc⟩, ih,
      List.length_cons]
    omega

/-- A text is made of units exactly when all of it is a run. -/
theorem units_iff {t : Text} : Units p t ↔ runOf p t = t.length := by
  constructor
  · intro h
    have hrun := runOf_append h []
    rwa [List.append_nil, show runOf p [] = 0 from rfl, Nat.add_zero] at hrun
  · intro h
    induction t using escapeInduction with
    | nil => exact Units.nil
    | escape x y rest hx hy ih =>
      rw [runOf_escape hx hy, List.length_cons, List.length_cons, List.length_cons] at h
      exact Units.escape hx hy (ih (by omega))
    | plain c rest hopen ih =>
      rw [runOf_plain hopen, List.length_cons] at h
      split at h
      · rename_i hc
        exact Units.char hc.1 hc.2 (ih (by omega))
      · omega

instance (p : Char → Bool) (t : Text) : Decidable (Units p t) :=
  decidable_of_iff _ units_iff.symm

/-- Behind a run, no further run begins. -/
theorem runOf_drop_runOf (t : Text) : runOf p (t.drop (runOf p t)) = 0 := by
  induction t using escapeInduction with
  | nil => rfl
  | escape x y rest hx hy ih =>
    rw [runOf_escape hx hy]
    exact ih
  | plain c rest hopen ih =>
    rw [runOf_plain hopen]
    split
    · exact ih
    · rename_i hc
      rw [List.drop_zero, runOf_plain hopen, if_neg hc]

/-- A run that begins with an escape holds it. -/
theorem three_le_runOf {t : Text} (h : opensEscape t = true) : 3 ≤ runOf p t := by
  obtain ⟨x, y, rest, rfl, hx, hy⟩ := exists_of_opensEscape h
  rw [runOf_escape hx hy]
  omega

/-- What begins no run and is as long as an escape does so whatever follows it. -/
theorem runOf_append_eq_zero_iff {s : Text} (h : 3 ≤ s.length) (t : Text) :
    runOf p (s ++ t) = 0 ↔ runOf p s = 0 := by
  obtain ⟨a, b, c, s, rfl⟩ : ∃ a b c s', s = a :: b :: c :: s' := by
    rcases s with _ | ⟨a, _ | ⟨b, _ | ⟨c, s⟩⟩⟩
    · exact absurd h (by simp)
    · exact absurd h (by simp)
    · exact absurd h (by simp)
    · exact ⟨a, b, c, s, rfl⟩
  simp only [List.cons_append]
  have hopens : opensEscape (a :: b :: c :: (s ++ t)) = opensEscape (a :: b :: c :: s) := by
    by_cases ha : a = '%'
    · subst ha
      rfl
    · rw [opensEscape_cons_of_ne ha, opensEscape_cons_of_ne ha]
  cases hopen : opensEscape (a :: b :: c :: s) with
  | true =>
    have hlong := three_le_runOf (p := p) hopen
    have hlong' := three_le_runOf (p := p) (hopens.trans hopen)
    omega
  | false =>
    rw [runOf_plain hopen, runOf_plain (hopens.trans hopen)]
    split
    · exact ⟨fun h => absurd h (Nat.succ_ne_zero _), fun h => absurd h (Nat.succ_ne_zero _)⟩
    · exact Iff.rfl

/-- A character outside the class that begins no escape ends a run. -/
theorem runOf_cons_eq_zero {c : Char} (hne : c ≠ '%') (hc : p c = false) (rest : Text) :
    runOf p (c :: rest) = 0 := by
  rw [runOf_plain (opensEscape_cons_of_ne hne rest), if_neg]
  rintro ⟨-, h⟩
  rw [hc] at h
  cases h

end CharClass
end UriRouting
