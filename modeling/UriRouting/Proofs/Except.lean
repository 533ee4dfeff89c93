/-!
# Computations that may fail

When a computation that may fail ends well, so did each of its steps; and what every
step of a fold keeps, the fold keeps.

When it fails, its error is that of the first step that fails.  `errorOf?` is the error,
`errorOf?_bind` says which of two steps it comes from, and `foldlM_eq_error_iff` says so
of a fold.  An error can be rewritten step by step (`mapError_bind`).
-/

namespace UriRouting

variable {ε α β γ : Type}

theorem except_bind_eq_ok_iff {x : Except ε α} {f : α → Except ε β} {b : β} :
    x >>= f = .ok b ↔ ∃ a, x = .ok a ∧ f a = .ok b := by
  cases x with
  | error e =>
    constructor
    · intro h
      cases h
    · rintro ⟨a, ha, -⟩
      cases ha
  | ok a =>
    constructor
    · intro h
      exact ⟨a, rfl, h⟩
    · rintro ⟨a', ha, h⟩
      cases ha
      exact h

theorem except_map_eq_ok_iff {x : Except ε α} {f : α → β} {b : β} :
    x.map f = .ok b ↔ ∃ a, x = .ok a ∧ f a = b := by
  cases x with
  | error e =>
    constructor
    · intro h
      cases h
    · rintro ⟨a, ha, -⟩
      cases ha
  | ok a =>
    constructor
    · intro h
      cases h
      exact ⟨a, rfl, rfl⟩
    · rintro ⟨a', ha, rfl⟩
      cases ha
      rfl

theorem except_bind_eq_error_iff {x : Except ε α} {f : α → Except ε β} {e : ε} :
    x >>= f = .error e ↔ x = .error e ∨ ∃ a, x = .ok a ∧ f a = .error e := by
  cases x with
  | error e' =>
    constructor
    · intro h
      cases h
      exact Or.inl rfl
    · rintro (h | ⟨a, ha, -⟩)
      · cases h
        rfl
      · cases ha
  | ok a =>
    constructor
    · intro h
      exact Or.inr ⟨a, rfl, h⟩
    · rintro (h | ⟨a', ha, h⟩)
      · cases h
      · cases ha
        exact h

theorem except_map_map (x : Except ε α) (f : α → β) (g : β → γ) :
    (x.map f).map g = x.map fun a => g (f a) := by
  cases x <;> rfl

theorem except_map_eq_error_iff {x : Except ε α} {f : α → β} {e : ε} :
    x.map f = .error e ↔ x = .error e := by
  cases x with
  | error e' =>
    constructor <;>
    · intro h
      cases h
      rfl
  | ok a =>
    constructor <;>
    · intro h
      cases h

theorem foldlM_nil_eq_ok_iff {f : γ → α → Except ε γ} {s s' : γ} :
    ([] : List α).foldlM f s = .ok s' ↔ s' = s := by
  constructor
  · intro h
    cases h
    rfl
  · rintro rfl
    rfl

theorem foldlM_cons_eq_ok_iff {f : γ → α → Except ε γ} {a : α} {as : List α} {s s' : γ} :
    (a :: as).foldlM f s = .ok s' ↔ ∃ mid, f s a = .ok mid ∧ as.foldlM f mid = .ok s' := by
  rw [List.foldlM_cons, except_bind_eq_ok_iff]

/-- A fold fails with the error of the first step that fails. -/
theorem foldlM_eq_error_iff {f : γ → α → Except ε γ} {as : List α} {s : γ} {e : ε} :
    as.foldlM f s = .error e ↔ ∃ before a after mid, as = before ++ a :: after ∧
      before.foldlM f s = .ok mid ∧ f mid a = .error e := by
  induction as generalizing s with
  | nil =>
    constructor
    · intro h
      cases h
    · rintro ⟨before, a, after, mid, h, -⟩
      simp at h
  | cons first as ih =>
    rw [List.foldlM_cons]
    cases hfirst : f s first with
    | error e' =>
      constructor
      · intro h
        cases h
        exact ⟨[], first, as, s, rfl, rfl, hfirst⟩
      · rintro ⟨before, a, after, mid, heq, hbefore, ha⟩
        cases before with
        | nil =>
          obtain ⟨rfl, rfl⟩ := List.cons.inj heq
          obtain rfl := foldlM_nil_eq_ok_iff.1 hbefore
          exact hfirst.symm.trans ha
        | cons b before =>
          obtain ⟨rfl, rfl⟩ := List.cons.inj heq
          obtain ⟨mid', hmid', -⟩ := foldlM_cons_eq_ok_iff.1 hbefore
          cases hfirst.symm.trans hmid'
    | ok next =>
      refine Iff.trans ih ?_
      constructor
      · rintro ⟨before, a, after, mid, rfl, hbefore, ha⟩
        exact ⟨first :: before, a, after, mid, rfl,
          foldlM_cons_eq_ok_iff.2 ⟨next, hfirst, hbefore⟩, ha⟩
      · rintro ⟨before, a, after, mid, heq, hbefore, ha⟩
        cases before with
        | nil =>
          obtain ⟨rfl, rfl⟩ := List.cons.inj heq
          obtain rfl := foldlM_nil_eq_ok_iff.1 hbefore
          cases hfirst.symm.trans ha
        | cons b before =>
          obtain ⟨rfl, rfl⟩ := List.cons.inj heq
          obtain ⟨mid', hmid', hbefore⟩ := foldlM_cons_eq_ok_iff.1 hbefore
          cases hfirst.symm.trans hmid'
          exact ⟨before, a, after, mid, rfl, hbefore, ha⟩

/-- Folds whose steps succeed alike succeed alike. -/
theorem foldlM_eq_ok_congr {f g : γ → α → Except ε γ} {as : List α}
    (h : ∀ a ∈ as, ∀ s s', f s a = .ok s' ↔ g s a = .ok s') {s s' : γ} :
    as.foldlM f s = .ok s' ↔ as.foldlM g s = .ok s' := by
  induction as generalizing s with
  | nil => exact Iff.rfl
  | cons a as ih =>
    obtain ⟨ha, has⟩ := List.forall_mem_cons.1 h
    simp only [foldlM_cons_eq_ok_iff, ha, ih has]

/-- A fold over the lists of a list is a fold of folds. -/
theorem foldlM_flatMap_eq_ok_iff {f : γ → β → Except ε γ} {g : α → List β} {as : List α}
    {s s' : γ} : (as.flatMap g).foldlM f s = .ok s' ↔
      as.foldlM (fun s a => (g a).foldlM f s) s = .ok s' := by
  induction as generalizing s with
  | nil => exact Iff.rfl
  | cons a as ih =>
    rw [List.flatMap_cons, List.foldlM_append, except_bind_eq_ok_iff, foldlM_cons_eq_ok_iff]
    simp only [ih]

/-- What every step keeps holds at the end of a fold. -/
theorem foldlM_invariant {P : γ → Prop} {f : γ → α → Except ε γ}
    (hstep : ∀ s a s', P s → f s a = .ok s' → P s') {as : List α} {s s' : γ} (hs : P s)
    (h : as.foldlM f s = .ok s') : P s' := by
  induction as generalizing s with
  | nil =>
    obtain rfl := foldlM_nil_eq_ok_iff.1 h
    exact hs
  | cons a as ih =>
    obtain ⟨mid, hmid, h⟩ := foldlM_cons_eq_ok_iff.1 h
    exact ih (hstep s a mid hs hmid) h

/-! ## Errors -/

/-- The error of a computation that fails. -/
def errorOf? : Except ε α → Option ε
  | .ok _ => none
  | .error e => some e

@[simp] theorem errorOf?_ok (a : α) : errorOf? (.ok a : Except ε α) = none := rfl

@[simp] theorem errorOf?_error (e : ε) : errorOf? (.error e : Except ε α) = some e := rfl

theorem errorOf?_eq_some_iff {x : Except ε α} {e : ε} : errorOf? x = some e ↔ x = .error e := by
  cases x <;> simp

theorem errorOf?_eq_none_iff {x : Except ε α} : errorOf? x = none ↔ ∃ a, x = .ok a := by
  cases x <;> simp

/-- The error of two steps is the one of the first, or else the one of the second. -/
theorem errorOf?_bind {x : Except ε α} {f : α → Except ε β} {fault : Option ε}
    (h : ∀ a, x = .ok a → errorOf? (f a) = fault) : errorOf? (x >>= f) = (errorOf? x).or fault := by
  cases x with
  | error e => rfl
  | ok a => exact h a rfl

/-- Rewriting the error of two steps is rewriting the error of each. -/
theorem mapError_bind {δ : Type} (g : ε → δ) (x : Except ε α) (f : α → Except ε β) :
    (x >>= f).mapError g = x.mapError g >>= fun a => (f a).mapError g := by
  cases x <;> rfl

theorem mapError_map {δ : Type} (g : ε → δ) (x : Except ε α) (f : α → β) :
    (x.map f).mapError g = (x.mapError g).map f := by
  cases x <;> rfl

theorem errorOf?_bind_pure {x : Except ε α} {f : α → β} :
    errorOf? (x >>= fun a => pure (f a)) = errorOf? x := by
  cases x <;> rfl

end UriRouting
