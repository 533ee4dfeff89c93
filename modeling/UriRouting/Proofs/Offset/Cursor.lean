import UriRouting.Proofs.Offset.Boundary

/-!
# Positions in a candidate

A candidate is matched from one position in it to the next.  Every step forward is a slice,
every position that a literal leads to is looked at, and every loop has to get ahead, so
a computation over positions fails wherever one of these goes wrong.

## 1.  Positions

`Text.startOf`: where a text begins that the candidate ends with.

## 2.  Steps

`advance`, `eat`, `takeName` and `takeValueAt`, each with its equation: from the start of
a text it does to the candidate what the step on texts does to that text.

## 3.  Loops

`loopAt` is stuck where a turn takes something and does not get ahead.  `loopAt_eq` reduces
it to `repeatedly`, for turns that shorten the text.
-/

namespace UriRouting

/-! ## 1.  Positions -/

namespace Text

/-- The position in a text at which its end `rest` begins. -/
def startOf (input rest : Text) : Nat := input.utf8Size - rest.utf8Size

variable {input rest rest' : Text}

theorem startOf_append (before rest : Text) : (before ++ rest).startOf rest = before.utf8Size := by
  rw [startOf, utf8Size_append, Nat.add_sub_cancel]

theorem startOf_self (input : Text) : input.startOf input = 0 := Nat.sub_self _

theorem dropBytes?_startOf (h : rest <:+ input) :
    dropBytes? (input.startOf rest) input = some rest := by
  obtain ⟨before, rfl⟩ := h
  rw [startOf_append, dropBytes?_append]

theorem sliceFrom_startOf (h : rest <:+ input) :
    input.sliceFrom (input.startOf rest) = .ok rest := by
  rw [sliceFrom, dropBytes?_startOf h]

/-- Behind what is taken the rest begins. -/
theorem startOf_add_offset (h : rest <:+ input) (n : Nat) :
    input.startOf rest + rest.offset n = input.startOf (rest.drop n) := by
  obtain ⟨before, rfl⟩ := h
  have hsplit : before ++ rest = (before ++ rest.take n) ++ rest.drop n := by
    rw [List.append_assoc, List.take_append_drop]
  rw [startOf_append, hsplit, startOf_append, utf8Size_append, offset]

/-- A shorter end begins later. -/
theorem startOf_lt (h : rest <:+ input) (h' : rest' <:+ rest)
    (hlength : rest'.length < rest.length) :
    input.startOf rest < input.startOf rest' := by
  obtain ⟨before, rfl⟩ := h
  obtain ⟨front, rfl⟩ := h'
  rw [← List.append_assoc, startOf_append, List.append_assoc, startOf_append, utf8Size_append]
  rw [List.length_append] at hlength
  have hfront : 1 ≤ utf8Size front := utf8Size_pos_iff.2 (by omega)
  omega

theorem startOf_le (input rest : Text) : input.startOf rest ≤ input.utf8Size := Nat.sub_le _ _

end Text

namespace Offset

variable (input : Text)

/-! ## 2.  Steps -/

/-- What stands between a position and one further ahead, and that position. -/
def advance (pos len : Nat) : Except Fault (Text × Nat) := do
  let taken ← input.slice pos (pos + len)
  pure (taken, pos + len)

/-- The position behind a literal, if it stands at a position. -/
def eat (literal : Text) (pos : Nat) : Except Fault (Option Nat) :=
  if literalAtByte input pos literal then do
    let _ ← input.sliceFrom (pos + literal.utf8Size)
    pure (some (pos + literal.utf8Size))
  else pure none

/-- A name and the position behind it. -/
def takeName (pos : Nat) : Except Fault (Text × Nat) := do
  let rest ← input.sliceFrom pos
  advance input pos (nameLength rest.utf8)

/-- A value of class `k` with at least `least` bytes, and the position behind it.  It ends
at the first occurrence of `stop`, unless that is empty, and then where the boundary says. -/
def takeValueAt (k : CharClass) (b : Boundary) (least : Nat) (stop : Text) (pos : Nat) :
    Except Fault (Option (Text × Nat)) := do
  let rest ← input.sliceFrom pos
  let run := k.runLength rest.utf8
  let run := if stop.isEmpty then run else (firstLiteralOffset? stop least run rest).getD run
  let n := b.valueOffset least run rest
  if least ≤ n then (advance input pos n).map some else pure none

/-- What is taken, with the position at which the rest begins. -/
def placed {α : Type} (taken : α × Text) : α × Nat := (taken.1, input.startOf taken.2)

variable {input} {rest : Text}

theorem advance_eq (h : rest <:+ input) (n : Nat) :
    advance input (input.startOf rest) (rest.offset n) =
      .ok (rest.take n, input.startOf (rest.drop n)) := by
  have hslice : input.slice (input.startOf rest) (input.startOf rest + rest.offset n) =
      .ok (rest.take n) := by
    obtain ⟨before, rfl⟩ := h
    rw [Text.slice_eq_ok_iff]
    exact ⟨before, rest.drop n, by rw [List.take_append_drop], (Text.startOf_append _ _).symm,
      by rw [Text.startOf_append, Text.offset]⟩
  rw [advance, hslice, ← Text.startOf_add_offset h]
  rfl

theorem isSuffix_of_stripLiteral? {literal text : Text}
    (h : stripLiteral? literal text = some rest) : rest <:+ text := by
  obtain ⟨piece, rfl, -⟩ := stripLiteral?_eq_some_iff.1 h
  exact List.suffix_append _ _

theorem eat_eq (h : rest <:+ input) (literal : Text) :
    eat input literal (input.startOf rest) =
      .ok ((stripLiteral? literal rest).map input.startOf) := by
  have hstands : literalAtByte input (input.startOf rest) literal =
      startsWithLiteral literal rest := by
    rw [literalAtByte_eq, literalAt, Text.dropBytes?_startOf h]
  rw [eat, hstands, startsWithLiteral]
  cases hstrip : stripLiteral? literal rest with
  | none => rfl
  | some behind =>
    obtain ⟨piece, rfl, -, hsize⟩ := exists_piece_of_stripLiteral? hstrip
    have hpos : input.startOf (piece ++ behind) + literal.utf8Size = input.startOf behind := by
      have hoffset := Text.startOf_add_offset h piece.length
      rw [Text.offset, List.take_left, List.drop_left, hsize] at hoffset
      exact hoffset
    have hbehind : behind <:+ input := (List.suffix_append piece behind).trans h
    rw [Option.isSome_some, if_pos rfl, hpos, Text.sliceFrom_startOf hbehind]
    rfl

theorem takeName_eq (h : rest <:+ input) :
    takeName input (input.startOf rest) =
      .ok (rest.takeWhile isNameChar, input.startOf (rest.dropWhile isNameChar)) := by
  have hoffset : nameLength rest.utf8 = rest.offset (rest.takeWhile isNameChar).length := by
    rw [nameLength_utf8, Text.offset, ← List.prefix_iff_eq_take.1 (List.takeWhile_prefix _)]
  have hdrop : rest.drop (rest.takeWhile isNameChar).length = rest.dropWhile isNameChar := by
    have hsplit : (rest.takeWhile isNameChar ++ rest.dropWhile isNameChar).drop
        (rest.takeWhile isNameChar).length = rest.dropWhile isNameChar := List.drop_left
    rwa [List.takeWhile_append_dropWhile] at hsplit
  rw [takeName, Text.sliceFrom_startOf h]
  show advance input (input.startOf rest) (nameLength rest.utf8) = _
  rw [hoffset, advance_eq h, ← List.prefix_iff_eq_take.1 (List.takeWhile_prefix _), hdrop]

theorem takeValueAt_eq (h : rest <:+ input) (k : CharClass) {b : Boundary} (hb : b.text? ≠ some [])
    {least : Nat} (hleast : least ≤ 1) (stop : Text) :
    takeValueAt input k b least stop (input.startOf rest) =
      .ok ((takeValue k b least stop rest).map (placed input)) := by
  let run := if stop.isEmpty then k.run rest
    else (firstLiteralCut? stop least (k.run rest) rest).getD (k.run rest)
  have hrun : run ≤ rest.length := by
    refine Nat.le_trans ?_ (k.run_le_length rest)
    show (if stop.isEmpty then k.run rest else _) ≤ k.run rest
    split
    · exact Nat.le_refl _
    · exact (IsEnd.of_firstLiteralCut? stop least (k.run rest) rest).le
  have hoffset : (if stop.isEmpty then k.runLength rest.utf8
      else (firstLiteralOffset? stop least (k.runLength rest.utf8) rest).getD
        (k.runLength rest.utf8)) = rest.offset run := by
    rw [CharClass.runLength_utf8, CharClass.runBytes, ← Text.offset]
    show _ = rest.offset (if stop.isEmpty then k.run rest else _)
    split
    · rfl
    · rename_i hstop
      rw [firstLiteralOffset?_eq (fun hnil => hstop (List.isEmpty_iff.2 hnil)) hleast]
      cases firstLiteralCut? stop least (k.run rest) rest <;> rfl
  have hend : b.valueEnd least run rest ≤ rest.length :=
    Nat.le_trans (b.isEnd_valueEnd least run rest).le hrun
  rw [takeValueAt, Text.sliceFrom_startOf h]
  show (if least ≤ b.valueOffset least _ rest then _ else _) = _
  rw [hoffset, Boundary.valueOffset_eq hb hleast hrun, advance_eq h]
  simp only [Text.le_offset_iff hleast hend]
  show _ = Except.ok
    (Option.map (placed input) (if least ≤ b.valueEnd least run rest then _ else _))
  split
  · rfl
  · rfl

/-! ## 3.  Loops -/

/-- The results of the turns of a loop, the turns being counted from `turn` on, and the
position that is reached. -/
def loopAt {α : Type} (input : Text) (step : Nat → Nat → Except Fault (Option (α × Nat)))
    (turn pos : Nat) : Except Fault (List α × Nat) := do
  match ← step turn pos with
  | none => pure ([], pos)
  | some (a, next) =>
      if pos < next ∧ next ≤ input.utf8Size then do
        let (as, last) ← loopAt input step (turn + 1) next
        pure (a :: as, last)
      else throw (.stuck pos)
termination_by input.utf8Size - pos

/-- A step that leaves an end of the text, shorter than the text. -/
def Shortens {α : Type} (step : Text → Option (α × Text)) : Prop :=
  ∀ text a rest, step text = some (a, rest) → rest <:+ text ∧ rest.length < text.length

section Loop

variable {α : Type} {step : Nat → Nat → Except Fault (Option (α × Nat))}
  {f : Text → Option (α × Text)}

theorem loopAt_of_none {turn pos : Nat} (h : step turn pos = .ok none) :
    loopAt input step turn pos = .ok ([], pos) := by
  rw [loopAt, h]
  rfl

theorem loopAt_of_some {turn pos next : Nat} {a : α} (h : step turn pos = .ok (some (a, next)))
    (hlt : pos < next) (hle : next ≤ input.utf8Size) :
    loopAt input step turn pos =
      (loopAt input step (turn + 1) next).map fun taken => (a :: taken.1, taken.2) := by
  rw [loopAt, h]
  show (if pos < next ∧ next ≤ input.utf8Size then _ else _) = _
  rw [if_pos ⟨hlt, hle⟩]
  cases loopAt input step (turn + 1) next <;> rfl

/-- A loop all of whose turns shorten the text gets to its end. -/
theorem loopAt_eq_repeatedly (hf : Shortens f) {start : Nat}
    (hstep : ∀ turn rest, start ≤ turn → rest <:+ input →
      step turn (input.startOf rest) = .ok ((f rest).map (placed input)))
    (h : rest <:+ input) :
    loopAt input step start (input.startOf rest) = .ok (placed input (repeatedly f rest)) := by
  fun_induction repeatedly f rest generalizing start with
  | case1 text hnone =>
    refine loopAt_of_none ?_
    rw [hstep start text (Nat.le_refl _) h, hnone]
    rfl
  | case2 text a rest hsome hlt as last hloop ih =>
    have hsuffix := (hf text a rest hsome).1
    have hturn : step start (input.startOf text) = .ok (some (a, input.startOf rest)) := by
      rw [hstep start text (Nat.le_refl _) h, hsome]
      rfl
    have hothers : loopAt input step (start + 1) (input.startOf rest) =
        .ok (placed input (repeatedly f rest)) :=
      ih (fun turn rest hle => hstep turn rest (by omega)) (hsuffix.trans h)
    rw [hloop] at hothers
    rw [loopAt_of_some hturn (Text.startOf_lt h hsuffix hlt) (Text.startOf_le input rest), hothers]
    rfl
  | case3 text a rest hsome hlt => exact absurd (hf text a rest hsome).2 hlt

/-- A loop whose first turn differs from the others. -/
theorem loopAt_eq {first : Text → Option (α × Text)} (hfirst : Shortens first) (hf : Shortens f)
    (hzero : ∀ rest, rest <:+ input →
      step 0 (input.startOf rest) = .ok ((first rest).map (placed input)))
    (hstep : ∀ turn rest, 1 ≤ turn → rest <:+ input →
      step turn (input.startOf rest) = .ok ((f rest).map (placed input)))
    (h : rest <:+ input) :
    loopAt input step 0 (input.startOf rest) = .ok (placed input
      (match first rest with
        | none => ([], rest)
        | some (a, rest) => (a :: (repeatedly f rest).1, (repeatedly f rest).2))) := by
  cases htaken : first rest with
  | none =>
    refine loopAt_of_none ?_
    rw [hzero rest h, htaken]
    rfl
  | some taken =>
    obtain ⟨a, behind⟩ := taken
    obtain ⟨hsuffix, hlt⟩ := hfirst rest a behind htaken
    have hturn : step 0 (input.startOf rest) = .ok (some (a, input.startOf behind)) := by
      rw [hzero rest h, htaken]
      rfl
    rw [loopAt_of_some hturn (Text.startOf_lt h hsuffix hlt) (Text.startOf_le input behind),
      loopAt_eq_repeatedly hf hstep (hsuffix.trans h)]
    rfl

end Loop

end Offset
end UriRouting
