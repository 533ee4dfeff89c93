import UriRouting.Proofs.Percent.Codec

/-!
# Texts whose escapes are canonical

Encoding escapes a character as a whole, and only if it has to be escaped.  A text in
which escapes stand in no other way is canonical.  Cut anywhere but inside the escapes of
a character, it stays canonical, and a canonical text of unreserved characters and escapes
is what encoding writes for some text.

* `Canonical`: the texts, with `canonical_encode` and `canonical_of_notMem` for what
  templates put into them.
* `Canonical.of_append`: a cut in front of a character that stands in no escape.
* `Canonical.of_append_right`: a cut behind a text without `%`.
* `Canonical.exists_encode_eq`: the converse of `canonical_encode`.
-/

namespace UriRouting.Percent

/-- Texts in which every `%` belongs to the escapes of a whole character, one that cannot
stand for itself. -/
inductive Canonical : Text → Prop where
  | nil : Canonical []
  | plain {c : Char} {rest : Text} (hne : c ≠ '%') (h : Canonical rest) : Canonical (c :: rest)
  | escaped {c : Char} {rest : Text} (hc : isUnreserved c = false) (h : Canonical rest) :
      Canonical (escape c ++ rest)

/-- An escape begins with `%`. -/
theorem exists_escape_eq_cons (c : Char) : ∃ rest, escape c = '%' :: rest := by
  obtain ⟨b, bs, hbytes⟩ := List.exists_cons_of_ne_nil (String.utf8EncodeChar_ne_nil (c := c))
  exact ⟨_, by rw [escape, hbytes, List.flatMap_cons]; rfl⟩

namespace Canonical

variable {s t : Text}

theorem append (hs : Canonical s) (ht : Canonical t) : Canonical (s ++ t) := by
  induction hs with
  | nil => exact ht
  | plain hne _ ih => exact plain hne ih
  | escaped hc _ ih =>
    rw [List.append_assoc]
    exact escaped hc ih

/-- A canonical text comes apart in front of a character that stands in no escape, and at
its end. -/
theorem of_append (h : Canonical (s ++ t))
    (ht : ∀ c ∈ t.head?, c ≠ '%' ∧ isHexDigit c = false) : Canonical s ∧ Canonical t := by
  generalize htext : s ++ t = text at h
  induction h generalizing s with
  | nil =>
    obtain ⟨rfl, rfl⟩ := List.append_eq_nil_iff.1 htext
    exact ⟨nil, nil⟩
  | @plain c rest hne h ih =>
    rcases List.append_eq_cons_iff.1 htext with ⟨rfl, rfl⟩ | ⟨s, rfl, rfl⟩
    · exact ⟨nil, plain hne h⟩
    · obtain ⟨hs, ht⟩ := ih rfl
      exact ⟨plain hne hs, ht⟩
  | @escaped c rest hc h ih =>
    rcases List.append_eq_append_iff.1 htext with ⟨inside, hescape, rfl⟩ | ⟨s, rfl, rfl⟩
    · cases inside with
      | nil =>
        rw [List.append_nil] at hescape
        rw [← hescape, ← List.append_nil (escape c)]
        exact ⟨escaped hc nil, h⟩
      | cons d inside =>
        have hd : d ∈ escape c := by
          rw [hescape]
          exact List.mem_append_right s List.mem_cons_self
        obtain ⟨hpercent, hdigit⟩ := ht d rfl
        rcases eq_or_isHexDigit_of_mem_escape hd with rfl | hd
        · exact absurd rfl hpercent
        · rw [hdigit] at hd
          cases hd
    · obtain ⟨hs, ht⟩ := ih rfl
      exact ⟨escaped hc hs, ht⟩

theorem of_cons {c : Char} (h : Canonical (c :: t)) (hc : c ≠ '%') : Canonical t := by
  generalize htext : c :: t = text at h
  cases h with
  | nil => cases htext
  | plain _ h =>
    obtain ⟨rfl, rfl⟩ := List.cons.inj htext
    exact h
  | @escaped d rest _ _ =>
    obtain ⟨tail, htail⟩ := exists_escape_eq_cons d
    rw [htail, List.cons_append] at htext
    exact absurd (List.cons.inj htext).1 hc

/-- A text without `%` may be taken from the front. -/
theorem of_append_right (h : Canonical (s ++ t)) (hs : '%' ∉ s) : Canonical t := by
  induction s with
  | nil => exact h
  | cons c s ih =>
    rw [List.mem_cons, not_or] at hs
    exact ih (of_cons h (Ne.symm hs.1)) hs.2

/-- **A canonical text is what encoding writes**, if it holds nothing but `%` and
unreserved characters. -/
theorem exists_encode_eq (h : Canonical s) (hs : ∀ c ∈ s, c = '%' ∨ isUnreserved c = true) :
    ∃ t, encode t = s := by
  induction h with
  | nil => exact ⟨[], rfl⟩
  | @plain c rest hne _ ih =>
    obtain ⟨hc, hrest⟩ := List.forall_mem_cons.1 hs
    obtain ⟨t, rfl⟩ := ih hrest
    have hkeep : isUnreserved c = true := hc.resolve_left hne
    refine ⟨c :: t, ?_⟩
    rw [encode, encodeUnless_cons, if_pos hkeep]
    rfl
  | @escaped c rest hc _ ih =>
    obtain ⟨t, rfl⟩ := ih fun d hd => hs d (List.mem_append_right _ hd)
    refine ⟨c :: t, ?_⟩
    rw [encode, encodeUnless_cons, if_neg (by rw [hc]; decide)]
    rfl

end Canonical

theorem canonical_of_notMem {t : Text} (h : '%' ∉ t) : Canonical t := by
  induction t with
  | nil => exact Canonical.nil
  | cons c t ih =>
    rw [List.mem_cons, not_or] at h
    exact Canonical.plain (Ne.symm h.1) (ih h.2)

theorem canonical_encode (t : Text) : Canonical (encode t) := by
  induction t with
  | nil => exact Canonical.nil
  | cons c t ih =>
    rw [encode, encodeUnless_cons]
    split
    · rename_i hkeep
      exact Canonical.plain (ne_percent_of_keep rfl hkeep) ih
    · rename_i hkeep
      exact Canonical.escaped (Bool.not_eq_true _ ▸ hkeep) ih

end UriRouting.Percent
