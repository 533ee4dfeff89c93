import UriRouting.Proofs.Pattern.Boundary

/-!
# Cuts between escapes

Runs are measured in whole escapes, but they are cut wherever some other text stands.
Such a cut can fall into an escape only if that text begins with a hexadecimal digit,
since inside an escape every cut has a digit behind it.

* `CutsEscape`: a cut that falls into an escape; `not_cutsEscape` is the remark above.
* `CharClass.units_take_of_le_runOf`: a beginning of a run that no digit follows is made
  of whole units, and `CharClass.startsWithHexDigit_drop_run`: a whole run is one.
* `CharClass.Units.of_append`: a text of units comes apart at such a cut.
* `IsEnd.units_take`: the same for the ends that are tried, when none of the texts that
  may stand there begins with a digit.
-/

namespace UriRouting

/-- Whether a text begins with a hexadecimal digit. -/
def startsWithHexDigit (t : Text) : Bool := t.head?.any isHexDigit

@[simp] theorem startsWithHexDigit_nil : startsWithHexDigit [] = false := rfl

@[simp] theorem startsWithHexDigit_cons (c : Char) (t : Text) :
    startsWithHexDigit (c :: t) = isHexDigit c := rfl

/-- Whether the cut between two texts falls into an escape, behind its `%` or behind its
first digit. -/
def CutsEscape (before after : Text) : Prop :=
  ∃ start rest x y, isHexDigit x = true ∧ isHexDigit y = true ∧
    ((before = start ++ ['%'] ∧ after = x :: y :: rest) ∨
      (before = start ++ ['%', x] ∧ after = y :: rest))

theorem not_cutsEscape {before after : Text} (h : startsWithHexDigit after = false) :
    ¬CutsEscape before after := by
  rintro ⟨start, rest, x, y, hx, hy, ⟨-, rfl⟩ | ⟨-, rfl⟩⟩
  · rw [startsWithHexDigit_cons, hx] at h
    cases h
  · rw [startsWithHexDigit_cons, hy] at h
    cases h

/-- Whether a text begins with a character that is no hexadecimal digit. -/
def startsOutsideDigits (t : Text) : Bool := t.head?.any fun c => !isHexDigit c

/-- Where a literal stands, no digit does unless the literal begins with one. -/
theorem startsWithHexDigit_of_startsWithLiteral {literal text : Text}
    (hliteral : startsOutsideDigits literal = true) (h : startsWithLiteral literal text = true) :
    startsWithHexDigit text = false := by
  cases literal with
  | nil => cases hliteral
  | cons c literal =>
    obtain ⟨rest, rfl⟩ := exists_cons_of_startsWithLiteral h
    simpa [startsOutsideDigits] using hliteral

namespace CharClass

variable {p : Char → Bool}

theorem units_take_of_le_runOf {t : Text} {n : Nat} (hn : n ≤ runOf p t)
    (hcut : startsWithHexDigit (t.drop n) = false) : Units p (t.take n) := by
  induction t using escapeInduction generalizing n with
  | nil =>
    rw [List.take_nil]
    exact Units.nil
  | escape x y rest hx hy ih =>
    rw [runOf_escape hx hy] at hn
    -- A cut inside the escape would have one of its digits behind it.
    rcases n with _ | _ | _ | n
    · exact Units.nil
    · rw [List.drop_succ_cons, List.drop_zero, startsWithHexDigit_cons, hx] at hcut
      cases hcut
    · rw [List.drop_succ_cons, List.drop_succ_cons, List.drop_zero, startsWithHexDigit_cons,
        hy] at hcut
      cases hcut
    · exact Units.escape hx hy (ih (by omega) hcut)
  | plain c rest hopen ih =>
    rw [runOf_plain hopen] at hn
    split at hn
    · rename_i hc
      cases n with
      | zero => exact Units.nil
      | succ n => exact Units.char hc.1 hc.2 (ih (Nat.le_of_succ_le_succ hn) hcut)
    · rw [Nat.le_zero.1 hn]
      exact Units.nil

/-- A run goes on over every digit, so none is behind it. -/
theorem startsWithHexDigit_drop_run (k : CharClass) (t : Text) :
    startsWithHexDigit (t.drop (k.run t)) = false := by
  have hrunOf : startsWithHexDigit (t.drop (runOf k.admits t)) = false := by
    induction t using escapeInduction with
    | nil => rfl
    | escape x y rest hx hy ih =>
      rw [runOf_escape hx hy]
      exact ih
    | plain c rest hopen ih =>
      rw [runOf_plain hopen]
      split
      · exact ih
      · rename_i hc
        rw [List.drop_zero, startsWithHexDigit_cons]
        cases hdigit : isHexDigit c with
        | false => rfl
        | true =>
          refine absurd ⟨?_, k.admits_of_isUnreserved (isUnreserved_of_isHexDigit hdigit)⟩ hc
          rintro rfl
          cases hdigit
  cases k with
  | any =>
    rw [run, List.drop_length]
    rfl
  | unreserved => exact hrunOf
  | unreservedList => exact hrunOf
  | reserved => exact hrunOf

/-- A text of units comes apart at a cut that no digit follows. -/
theorem Units.of_append {s t : Text} (h : Units p (s ++ t)) (ht : startsWithHexDigit t = false) :
    Units p s ∧ Units p t := by
  generalize htext : s ++ t = text at h
  induction h generalizing s with
  | nil =>
    obtain ⟨rfl, rfl⟩ := List.append_eq_nil_iff.1 htext
    exact ⟨Units.nil, Units.nil⟩
  | @escape x y rest hx hy h ih =>
    rcases s with _ | ⟨a, _ | ⟨b, _ | ⟨c, s⟩⟩⟩
    · obtain rfl : t = '%' :: x :: y :: rest := htext
      exact ⟨Units.nil, Units.escape hx hy h⟩
    · obtain rfl : t = x :: y :: rest := (List.cons.inj htext).2
      rw [startsWithHexDigit_cons, hx] at ht
      cases ht
    · obtain rfl : t = y :: rest := (List.cons.inj (List.cons.inj htext).2).2
      rw [startsWithHexDigit_cons, hy] at ht
      cases ht
    · simp only [List.cons_append, List.cons.injEq] at htext
      obtain ⟨rfl, rfl, rfl, htext⟩ := htext
      obtain ⟨hs, ht'⟩ := ih htext
      exact ⟨Units.escape hx hy hs, ht'⟩
  | @char c rest hne hc h ih =>
    cases s with
    | nil =>
      obtain rfl : t = c :: rest := htext
      exact ⟨Units.nil, Units.char hne hc h⟩
    | cons d s =>
      simp only [List.cons_append, List.cons.injEq] at htext
      obtain ⟨rfl, htext⟩ := htext
      obtain ⟨hs, ht'⟩ := ih htext
      exact ⟨Units.char hne hc hs, ht'⟩

/-- A text of units that avoids some characters of a class is one of a narrower class. -/
theorem Units.mono_of_mem {q : Char → Bool} {t : Text} (h : Units p t)
    (hpq : ∀ c ∈ t, p c = true → q c = true) : Units q t := by
  induction h with
  | nil => exact Units.nil
  | escape hx hy _ ih =>
    exact Units.escape hx hy (ih fun c hc => hpq c (by simp [hc]))
  | char hne hc _ ih =>
    exact Units.char hne (hpq _ List.mem_cons_self hc)
      (ih fun c hc => hpq c (List.mem_cons_of_mem _ hc))

/-- The run of a text of units is the whole text. -/
theorem Units.runBytes_eq {k : CharClass} (hk : k ≠ .any) {t : Text} (h : Units k.admits t) :
    k.runBytes t = t.utf8Size := by
  have hrun := runBytes_append hk h []
  rwa [List.append_nil, show k.runBytes [] = 0 by cases k <;> rfl, Nat.add_zero] at hrun

end CharClass

/-! ## The ends of runs -/

/-- Whether none of the texts that may end a capture can stand inside an escape. -/
def keepEscapes (stops : List Text) : Bool := stops.all startsOutsideDigits

@[simp] theorem keepEscapes_append (stops stops' : List Text) :
    keepEscapes (stops ++ stops') = (keepEscapes stops && keepEscapes stops') :=
  List.all_append

namespace IsEnd

variable {stops : List Text} {k : CharClass} {text : Text} {n : Nat}

/-- No digit follows the end of a run when no text that may stand there begins with one. -/
theorem startsWithHexDigit_drop (h : IsEnd stops (k.run text) text n)
    (hstops : keepEscapes stops = true) :
    startsWithHexDigit (text.drop n) = false := by
  rcases h with rfl | ⟨-, stop, hstop, hstarts⟩
  · exact k.startsWithHexDigit_drop_run text
  · exact startsWithHexDigit_of_startsWithLiteral (List.all_eq_true.1 hstops stop hstop) hstarts

theorem units_take (hk : k ≠ .any) (h : IsEnd stops (k.run text) text n)
    (hstops : keepEscapes stops = true) : CharClass.Units k.admits (text.take n) := by
  have hrun := h.le
  rw [CharClass.run_eq_runOf hk] at hrun
  exact CharClass.units_take_of_le_runOf hrun (h.startsWithHexDigit_drop hstops)

end IsEnd
end UriRouting
