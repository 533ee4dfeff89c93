import UriRouting.Text

/-!
# Cutting a text at a separator

Cutting and joining undo each other.  `Text.fields` and `Text.joined` are inverse
on the lists that have a piece at all and no separator inside a piece, and
`Text.splitOnce` is the cut at the first separator.

* `Text.Avoids`: none of the given characters occurs in a text.
* `Text.splitOnce_eq_some_iff`, `Text.splitOnce_eq_none_iff`: what `splitOnce` cuts.
* `Text.fields_eq_iff`: the fields of a text are the one list of pieces without
  separator that reads as the text.
* `Text.fieldsAtMost_spec`: a bounded number of fields still reads as the text, and
  `Text.fieldsAtMost_three_eq_iff`: what three fields are, the last of which may hold
  the separator.
-/

namespace UriRouting.Text

/-! ## Characters that do not occur -/

/-- None of the given characters occurs in a text. -/
def Avoids (t : Text) (chars : List Char) : Prop := ∀ c ∈ t, c ∉ chars

instance (t : Text) (chars : List Char) : Decidable (t.Avoids chars) :=
  List.decidableBAll (· ∉ chars) t

@[simp] theorem avoids_nil (chars : List Char) : Avoids [] chars := by
  intro c hc
  exact absurd hc (List.not_mem_nil)

@[simp] theorem avoids_cons {c : Char} {t : Text} {chars : List Char} :
    Avoids (c :: t) chars ↔ c ∉ chars ∧ t.Avoids chars :=
  List.forall_mem_cons

@[simp] theorem avoids_append {s t : Text} {chars : List Char} :
    Avoids (s ++ t) chars ↔ s.Avoids chars ∧ t.Avoids chars :=
  List.forall_mem_append

@[simp] theorem avoids_reverse {t : Text} {chars : List Char} :
    Avoids t.reverse chars ↔ t.Avoids chars := by
  simp only [Avoids, List.mem_reverse]

theorem avoids_singleton_iff {t : Text} {c : Char} : t.Avoids [c] ↔ c ∉ t := by
  constructor
  · intro h hc
    exact h c hc (List.mem_singleton_self c)
  · intro h d hd hdc
    rw [List.mem_singleton] at hdc
    exact h (hdc ▸ hd)

theorem Avoids.mono {t : Text} {chars chars' : List Char} (h : t.Avoids chars)
    (hsub : chars' ⊆ chars) : t.Avoids chars' :=
  fun c hc hmem => h c hc (hsub hmem)

/-! ## The cut at the first separator -/

variable {sep : Char}

theorem splitOnce_append {before : Text} (h : sep ∉ before) (after : Text) :
    splitOnce sep (before ++ sep :: after) = some (before, after) := by
  induction before with
  | nil => rw [List.nil_append, splitOnce, if_pos rfl]
  | cons c before ih =>
    rw [List.mem_cons, not_or] at h
    rw [List.cons_append, splitOnce, if_neg (Ne.symm h.1), ih h.2]
    rfl

theorem splitOnce_eq_none_iff {t : Text} : splitOnce sep t = none ↔ sep ∉ t := by
  induction t with
  | nil => simp [splitOnce]
  | cons c t ih =>
    by_cases hc : c = sep
    · simp [splitOnce, hc]
    · rw [splitOnce, if_neg hc, Option.map_eq_none_iff, ih, List.mem_cons, not_or]
      exact ⟨fun h => ⟨Ne.symm hc, h⟩, And.right⟩

/-- `splitOnce` cuts at the first separator, and at no other one. -/
theorem splitOnce_eq_some_iff {t before after : Text} :
    splitOnce sep t = some (before, after) ↔ t = before ++ sep :: after ∧ sep ∉ before := by
  constructor
  · intro h
    induction t generalizing before with
    | nil => cases h
    | cons c t ih =>
      by_cases hc : c = sep
      · rw [splitOnce, if_pos hc] at h
        cases h
        exact ⟨by rw [hc, List.nil_append], List.not_mem_nil⟩
      · rw [splitOnce, if_neg hc] at h
        obtain ⟨⟨start, rest⟩, hrest, heq⟩ := Option.map_eq_some_iff.1 h
        cases heq
        obtain ⟨rfl, hmem⟩ := ih hrest
        refine ⟨rfl, ?_⟩
        rw [List.mem_cons, not_or]
        exact ⟨Ne.symm hc, hmem⟩
  · rintro ⟨rfl, h⟩
    exact splitOnce_append h after

/-! ## Joining -/

@[simp] theorem joined_nil (sep : Text) : joined sep [] = [] := rfl

@[simp] theorem joined_singleton (sep t : Text) : joined sep [t] = t := List.intercalate_singleton

theorem joined_cons_cons (sep t u : Text) (ts : List Text) :
    joined sep (t :: u :: ts) = t ++ sep ++ joined sep (u :: ts) := List.intercalate_cons_cons

theorem joined_cons (sep t : Text) (ts : List Text) :
    joined sep (t :: ts) = t ++ ts.flatMap (sep ++ ·) := by
  induction ts generalizing t with
  | nil => rw [joined_singleton, List.flatMap_nil, List.append_nil]
  | cons u ts ih => rw [joined_cons_cons, ih, List.flatMap_cons, List.append_assoc,
      List.append_assoc]

/-- A list of texts avoids what its pieces and the separator avoid. -/
theorem avoids_joined {sep : Text} {ts : List Text} {chars : List Char} (hsep : sep.Avoids chars) :
    (joined sep ts).Avoids chars ↔ ∀ t ∈ ts, t.Avoids chars := by
  induction ts with
  | nil => simp
  | cons t ts ih =>
    cases ts with
    | nil => simp
    | cons u ts =>
      rw [joined_cons_cons, avoids_append, avoids_append, ih, List.forall_mem_cons (a := t)]
      exact ⟨fun h => ⟨h.1.1, h.2⟩, fun h => ⟨⟨h.1, hsep⟩, h.2⟩⟩

/-! ## Fields -/

theorem fields_of_notMem {t : Text} (h : sep ∉ t) : fields sep t = [t] := by
  induction t with
  | nil => rfl
  | cons c t ih =>
    rw [List.mem_cons, not_or] at h
    rw [fields, if_neg (Ne.symm h.1), ih h.2]

theorem fields_append {t : Text} (h : sep ∉ t) (rest : Text) :
    fields sep (t ++ sep :: rest) = t :: fields sep rest := by
  induction t with
  | nil => rw [List.nil_append, fields, if_pos rfl]
  | cons c t ih =>
    rw [List.mem_cons, not_or] at h
    rw [List.cons_append, fields, if_neg (Ne.symm h.1), ih h.2]

/-- The fields of a joined list are the list. -/
theorem fields_joined {ts : List Text} (hne : ts ≠ []) (h : ∀ t ∈ ts, sep ∉ t) :
    fields sep (joined [sep] ts) = ts := by
  induction ts with
  | nil => exact absurd rfl hne
  | cons t ts ih =>
    obtain ⟨ht, hts⟩ := List.forall_mem_cons.1 h
    cases ts with
    | nil => rw [joined_singleton, fields_of_notMem ht]
    | cons u ts =>
      rw [joined_cons_cons, List.append_assoc, List.singleton_append, fields_append ht,
        ih (List.cons_ne_nil u ts) hts]

/-- A text is cut into pieces without separator that read as the text. -/
theorem fields_spec (sep : Char) (t : Text) :
    fields sep t ≠ [] ∧ (∀ f ∈ fields sep t, sep ∉ f) ∧ joined [sep] (fields sep t) = t := by
  induction t with
  | nil => exact ⟨List.cons_ne_nil _ _, by simp [fields], rfl⟩
  | cons c t ih =>
    obtain ⟨hne, hsep, hjoin⟩ := ih
    obtain ⟨f, fs, hf⟩ := List.exists_cons_of_ne_nil hne
    rw [hf] at hsep hjoin
    by_cases hc : c = sep
    · rw [fields, if_pos hc, hf]
      refine ⟨List.cons_ne_nil _ _, ?_, ?_⟩
      · exact List.forall_mem_cons.2 ⟨List.not_mem_nil, hsep⟩
      · rw [joined_cons_cons, hjoin, hc, List.nil_append, List.singleton_append]
    · rw [fields, if_neg hc, hf]
      obtain ⟨hfirst, hothers⟩ := List.forall_mem_cons.1 hsep
      refine ⟨List.cons_ne_nil _ _, List.forall_mem_cons.2 ⟨?_, hothers⟩, ?_⟩
      · rw [List.mem_cons, not_or]
        exact ⟨Ne.symm hc, hfirst⟩
      · rw [← hjoin]
        cases fs with
        | nil => rw [joined_singleton, joined_singleton]
        | cons g gs => rw [joined_cons_cons, joined_cons_cons, List.cons_append, List.cons_append]

/-- The fields of a text are the one list of pieces without separator that reads
as the text. -/
theorem fields_eq_iff {t : Text} {ts : List Text} :
    fields sep t = ts ↔ ts ≠ [] ∧ (∀ f ∈ ts, sep ∉ f) ∧ joined [sep] ts = t := by
  constructor
  · rintro rfl
    exact fields_spec sep t
  · rintro ⟨hne, hsep, rfl⟩
    exact fields_joined hne hsep

/-! ## A bounded number of fields -/

theorem fieldsAtMost_two_append {before : Text} (h : sep ∉ before) (n : Nat) (after : Text) :
    fieldsAtMost sep (n + 2) (before ++ sep :: after) =
      before :: fieldsAtMost sep (n + 1) after := by
  rw [fieldsAtMost, splitOnce_append h]

/-- A bounded number of fields still reads as the text. -/
theorem fieldsAtMost_spec (sep : Char) (n : Nat) (t : Text) :
    fieldsAtMost sep (n + 1) t ≠ [] ∧ (fieldsAtMost sep (n + 1) t).length ≤ n + 1 ∧
      joined [sep] (fieldsAtMost sep (n + 1) t) = t := by
  induction n generalizing t with
  | zero => exact ⟨List.cons_ne_nil _ _, Nat.le_refl 1, joined_singleton _ t⟩
  | succ n ih =>
    cases hcut : splitOnce sep t with
    | none =>
      rw [fieldsAtMost, hcut]
      exact ⟨List.cons_ne_nil _ _, by simp, joined_singleton _ t⟩
    | some cut =>
      obtain ⟨field, rest⟩ := cut
      obtain ⟨rfl, hfield⟩ := splitOnce_eq_some_iff.1 hcut
      obtain ⟨hne, hlength, hjoin⟩ := ih rest
      obtain ⟨f, fs, hf⟩ := List.exists_cons_of_ne_nil hne
      rw [fieldsAtMost_two_append hfield]
      refine ⟨List.cons_ne_nil _ _, Nat.succ_le_succ hlength, ?_⟩
      rw [hf] at hjoin ⊢
      rw [joined_cons_cons, hjoin, List.append_assoc, List.singleton_append]

/-- Of three fields, the first two are what stands before the first two separators. -/
theorem fieldsAtMost_three_eq_iff {t first second third : Text} :
    fieldsAtMost sep 3 t = [first, second, third] ↔
      t = first ++ sep :: (second ++ sep :: third) ∧ sep ∉ first ∧ sep ∉ second := by
  constructor
  · intro h
    cases hfirst : splitOnce sep t with
    | none => simp [fieldsAtMost, hfirst] at h
    | some cut =>
      obtain ⟨a, rest⟩ := cut
      cases hsecond : splitOnce sep rest with
      | none => simp [fieldsAtMost, hfirst, hsecond] at h
      | some cut =>
        obtain ⟨b, c⟩ := cut
        simp only [fieldsAtMost, hfirst, hsecond, List.cons.injEq, and_true] at h
        obtain ⟨rfl, rfl, rfl⟩ := h
        obtain ⟨rfl, ha⟩ := splitOnce_eq_some_iff.1 hfirst
        obtain ⟨rfl, hb⟩ := splitOnce_eq_some_iff.1 hsecond
        exact ⟨rfl, ha, hb⟩
  · rintro ⟨rfl, hfirst, hsecond⟩
    rw [fieldsAtMost_two_append hfirst, fieldsAtMost_two_append hsecond, fieldsAtMost]

end UriRouting.Text
