import UriRouting.Proofs.Offset.Run
import UriRouting.Proofs.Pattern.Cut

/-!
# The run is the longest one

A run is scanned forwards, one byte or one escape at a time, and the scan never looks back.
It stops at a `%` that opens no escape, at a character of another class and at any byte
outside ASCII.

* `Text.utf8_prefix_iff`: no text begins in the middle of a character of another one.
* `CharClass.IsLongestRun`: what it is to be the longest beginning made of units.
* `CharClass.runBytes_longest`: the scan finds it, at a boundary, and units in front of a
  text lengthen its run by their own length.
-/

namespace UriRouting

/-- The bytes of a text begin with those of another one only if the text does. -/
theorem Text.utf8_prefix_iff {s t : Text} : s.utf8 <+: t.utf8 ↔ s <+: t := by
  constructor
  · intro h
    induction s generalizing t with
    | nil => exact List.nil_prefix
    | cons c s ih =>
      obtain ⟨bs, hbs⟩ := h
      rw [utf8_cons, List.append_assoc] at hbs
      obtain ⟨rest, rfl, hrest⟩ := utf8_eq_append_iff.1 hbs.symm
      exact List.cons_prefix_cons.2 ⟨rfl, ih ⟨bs, hrest.symm⟩⟩
  · rintro ⟨rest, rfl⟩
    rw [utf8_append]
    exact List.prefix_append _ _

namespace CharClass

/-- The number of bytes in the longest beginning of a text that is made of characters of a
class and of complete escapes. -/
structure IsLongestRun (k : CharClass) (t : Text) (n : Nat) : Prop where
  /-- The first `n` bytes are a text, and that text is made of units. -/
  units : ∃ w rest, t = w ++ rest ∧ w.utf8Size = n ∧ Units k.admits w
  /-- No text of units that takes up more bytes begins the text. -/
  longest : ∀ w, Units k.admits w → w.utf8 <+: t.utf8 → w.utf8Size ≤ n

variable {k : CharClass}

theorem isLongestRun_runBytes (hk : k ≠ .any) (t : Text) : IsLongestRun k t (k.runBytes t) where
  units := by
    refine ⟨t.take (k.run t), t.drop (k.run t), (List.take_append_drop _ t).symm, rfl, ?_⟩
    have hcut := startsWithHexDigit_drop_run k t
    rw [run_eq_runOf hk] at hcut ⊢
    exact units_take_of_le_runOf (Nat.le_refl _) hcut
  longest := by
    intro w hw hbytes
    obtain ⟨rest, rfl⟩ := Text.utf8_prefix_iff.1 hbytes
    rw [runBytes_append hk hw]
    exact Nat.le_add_right _ _

/-- **A run is the longest beginning of a text that is made of units of its class.**  The
scan over bytes finds it, it ends at a boundary, and it is additive: units of the class in
front of a text are all part of the run. -/
theorem runBytes_longest (hk : k ≠ .any) :
    (∀ t : Text, k.runLength t.utf8 = k.runBytes t ∧
      (dropBytes? (k.runBytes t) t).isSome = true ∧ IsLongestRun k t (k.runBytes t)) ∧
    ∀ w t : Text, Units k.admits w → k.runBytes (w ++ t) = w.utf8Size + k.runBytes t := by
  refine ⟨fun t => ⟨k.runLength_utf8 t, ?_, isLongestRun_runBytes hk t⟩,
    fun w t hw => runBytes_append hk hw t⟩
  obtain ⟨w, rest, heq, hsize, -⟩ := (isLongestRun_runBytes hk t).units
  rw [Text.dropBytes?_eq_some_iff.2 ⟨w, heq, hsize⟩]
  rfl

/-- The run ends at the `%` of a truncated escape, and escapes in front lengthen it. -/
theorem runBytes_longest_truncated : CharClass.unreservedList ≠ .any ∧
    CharClass.unreservedList.runLength (Text.utf8 "a,%c3%A".toList) = 5 ∧
    IsLongestRun .unreservedList "a,%c3%A".toList 5 ∧
    CharClass.unreservedList.runBytes "%41~a,%c3%A".toList = 4 + 5 := by
  have hk : CharClass.unreservedList ≠ .any := by decide
  obtain ⟨hruns, hadd⟩ := runBytes_longest hk
  obtain ⟨hscan, -, hlongest⟩ := hruns "a,%c3%A".toList
  exact ⟨hk, hscan, hlongest, hadd "%41~".toList "a,%c3%A".toList (by decide)⟩

end CharClass
end UriRouting
