import UriRouting.Proofs.Offset.Walk

/-!
# The loops of operators end

Groups and items are taken in loops that nothing bounds: a turn that takes something is
followed by another one.  Leads, separators and values may all be empty, so what gets the
cursor ahead is the name of a group, which a template never leaves empty, and the first
character of an item.

## 1.  Turns

`pairTurn` and `itemTurn` are the turns of the two loops, with the mark to which a turn that
takes nothing sets the cursor back.

## 2.  Runs

`Runs` is a loop without a bound: it holds of the loops that end, and tells what they have
taken by then and where the cursor stands.

## 3.  Progress

`Progresses` says what is wanted of a turn and of its loop, and
`Progresses.of_loopAt` that a guarded loop without a fault has it.

## 4.  Boundaries without text

A boundary with an empty text bounds nothing (`Boundary.effective`).

## 5.  The two loops

`loops_progress`: both loops get ahead in each turn and end, at every position and in front
of every boundary.
-/

namespace UriRouting
namespace Offset

/-! ## 1.  Turns -/

section Definitions

variable (input : Text) (op : Operator) (b : Boundary)

/-- Whether a literal stands at a position, and where the cursor is afterwards. -/
def tryEat (literal : Text) (pos : Nat) : Except Fault (Bool × Nat) := do
  match ← eat input literal pos with
  | some next => pure (true, next)
  | none => pure (false, pos)

/-- A value at a position, and where the cursor is afterwards. -/
def tryValue (k : CharClass) (least : Nat) (stop : Text) (pos : Nat) :
    Except Fault (Option Text × Nat) := do
  match ← takeValueAt input k b least stop pos with
  | some (raw, next) => pure (some raw, next)
  | none => pure (none, pos)

/-- A turn of the loop over groups: what it captures, and where it leaves the cursor. -/
def pairTurn (first next : Text) (turn mark : Nat) : Except Fault (Option Capture × Nat) := do
  let (found, pos) ← tryEat input (if turn = 0 then first else next) mark
  if found then
    let (name, pos) ← takeName input pos
    match op.variable? name with
    | none => pure (none, mark)
    | some v =>
        let (found, pos) ← tryEat input ['='] pos
        if found then
          let (raw, pos) ← tryValue input b .unreservedList 0 [] pos
          pure (some ⟨v, .ofCommaSeparated (raw.getD [])⟩, pos)
        else pure (some ⟨v, .one []⟩, pos)
  else pure (none, pos)

/-- One item with `lead` before and `tail` after it, or nothing and the cursor at its mark. -/
def decoratedTurn (lead tail : Text) (mark : Nat) : Except Fault (Option Text × Nat) := do
  let (found, pos) ← tryEat input lead mark
  if found then
    let (item, pos) ← tryValue input b .unreserved 1 (if tail.isEmpty then lead else tail) pos
    match item with
    | none => pure (none, mark)
    | some item =>
        let (found, pos) ← tryEat input tail pos
        if found then pure (some item, pos) else pure (none, mark)
  else pure (none, mark)

/-- An item at a position, and where the cursor is afterwards. -/
def tryItem (lead separator tail : Text) (pos : Nat) : Except Fault (Option Text × Nat) :=
  if separator.isEmpty then decoratedTurn input b lead tail pos
  else tryValue input b .unreserved 1 separator pos

/-- A turn of the loop over items: the item that it adds, and where it leaves the cursor. -/
def itemTurn (lead separator tail : Text) (turn mark : Nat) :
    Except Fault (Option Text × Nat) := do
  let (found, pos) ← if turn = 0 then pure (true, mark) else tryEat input separator mark
  if found then
    match ← tryItem input b lead separator tail pos with
    | (some item, next) => pure (some item, next)
    | (none, _) => pure (none, mark)
  else pure (none, pos)

end Definitions

/-- The outcome of a step, and the cursor behind what it takes or where it was. -/
def settle {α : Type} (pos : Nat) : Option (α × Nat) → Option α × Nat
  | some (a, next) => (some a, next)
  | none => (none, pos)

section Turns

variable {input : Text} {op : Operator} {b : Boundary}

theorem pairTurn_eq (first next : Text) (turn pos : Nat) :
    pairTurn input op b first next turn pos =
      (pairAt input op b (if turn = 0 then first else next) pos).map (settle pos) := by
  simp only [pairTurn, pairAt, tryEat, tryValue, bind, Except.bind, pure, Except.pure]
  rcases eat input (if turn = 0 then first else next) pos with fault | _ | behindLead
  · rfl
  · rfl
  · simp only [if_true]
    rcases takeName input behindLead with fault | ⟨name, behindName⟩
    · rfl
    · simp only
      rcases op.variable? name with _ | v
      · rfl
      · simp only
        rcases eat input ['='] behindName with fault | _ | behindEquals
        · rfl
        · rfl
        · simp only [if_true]
          rcases takeValueAt input .unreservedList b 0 [] behindEquals with
            fault | _ | value <;> rfl

theorem decoratedTurn_eq (lead tail : Text) (pos : Nat) :
    decoratedTurn input b lead tail pos =
      (itemAt input b lead tail pos).map (settle pos) := by
  simp only [decoratedTurn, itemAt, tryEat, tryValue, bind, Except.bind, pure, Except.pure]
  rcases eat input lead pos with fault | _ | behindLead
  · rfl
  · rfl
  · simp only [if_true]
    rcases takeValueAt input .unreserved b 1 (if tail.isEmpty then lead else tail) behindLead with
      fault | _ | ⟨item, behindItem⟩
    · rfl
    · rfl
    · simp only
      rcases eat input tail behindItem with fault | _ | behindTail <;> rfl

theorem tryItem_eq (lead separator tail : Text) (pos : Nat) :
    tryItem input b lead separator tail pos =
      (if separator.isEmpty then itemAt input b lead tail pos
        else takeValueAt input .unreserved b 1 separator pos).map (settle pos) := by
  rw [tryItem]
  split
  · exact decoratedTurn_eq lead tail pos
  · rw [tryValue]
    rcases takeValueAt input .unreserved b 1 separator pos with fault | _ | taken <;> rfl

theorem itemTurn_eq (lead separator tail : Text) (turn pos : Nat) :
    itemTurn input b lead separator tail turn pos =
      (itemStep input b lead separator tail turn pos).map (settle pos) := by
  have hitem : ∀ start, (do
      match ← tryItem input b lead separator tail start with
      | (some item, next) => pure (some item, next)
      | (none, _) => pure (none, pos) : Except Fault (Option Text × Nat)) =
      (if separator.isEmpty then itemAt input b lead tail start
        else takeValueAt input .unreserved b 1 separator start).map (settle pos) := by
    intro start
    rw [tryItem_eq]
    rcases (if separator.isEmpty then itemAt input b lead tail start
      else takeValueAt input .unreserved b 1 separator start) with fault | _ | taken <;> rfl
  rw [itemTurn, itemStep, itemStart]
  split
  · exact hitem pos
  · rw [tryEat]
    rcases eat input separator pos with fault | _ | start
    · rfl
    · rfl
    · exact hitem start

end Turns

/-! ## 2.  Runs -/

section Runs

variable {α : Type} {turn : Nat → Nat → Except Fault (Option α × Nat)}

/-- A loop that ends: the turns from the given one on, at the given position, take these
results, and the first turn that takes nothing leaves the cursor at the last position. -/
inductive Runs (turn : Nat → Nat → Except Fault (Option α × Nat)) :
    Nat → Nat → List α → Nat → Prop
  | stop {n pos last : Nat} (h : turn n pos = .ok (none, last)) : Runs turn n pos [] last
  | more {n pos next last : Nat} {a : α} {as : List α} (h : turn n pos = .ok (some a, next))
      (hrun : Runs turn (n + 1) next as last) : Runs turn n pos (a :: as) last

/-- A loop ends in one way only. -/
theorem Runs.unique {n pos last last' : Nat} {as as' : List α} (h : Runs turn n pos as last)
    (h' : Runs turn n pos as' last') : as' = as ∧ last' = last := by
  induction h generalizing as' with
  | stop hturn =>
    cases h' with
    | stop hturn' =>
      cases hturn.symm.trans hturn'
      exact ⟨rfl, rfl⟩
    | more hturn' _ => cases hturn.symm.trans hturn'
  | more hturn _ ih =>
    cases h' with
    | stop hturn' => cases hturn.symm.trans hturn'
    | more hturn' hrun' =>
      cases hturn.symm.trans hturn'
      obtain ⟨rfl, rfl⟩ := ih hrun'
      exact ⟨rfl, rfl⟩

variable {input : Text} {step : Nat → Nat → Except Fault (Option (α × Nat))}

/-- A guarded loop without a fault ends without its guard too, and has got ahead by a byte
for each of its results. -/
theorem runs_of_loopAt (hturn : ∀ n pos, turn n pos = (step n pos).map (settle pos))
    {n pos last : Nat} {as : List α} (h : loopAt input step n pos = .ok (as, last)) :
    Runs turn n pos as last ∧ pos + as.length ≤ last := by
  induction hbytes : input.utf8Size - pos using Nat.strongRecOn generalizing n pos as with
  | ind bytes ih =>
    rcases hstep : step n pos with fault | _ | ⟨a, next⟩
    · rw [loopAt, hstep] at h
      cases h
    · rw [loopAt_of_none hstep] at h
      cases h
      refine ⟨Runs.stop ?_, Nat.le_refl _⟩
      rw [hturn, hstep]
      rfl
    · by_cases hahead : pos < next ∧ next ≤ input.utf8Size
      · rw [loopAt_of_some hstep hahead.1 hahead.2, except_map_eq_ok_iff] at h
        obtain ⟨⟨others, last⟩, hloop, heq⟩ := h
        cases heq
        obtain ⟨hrun, hlength⟩ := ih (input.utf8Size - next) (by omega) hloop rfl
        refine ⟨Runs.more ?_ hrun, ?_⟩
        · rw [hturn, hstep]
          rfl
        · show pos + (others.length + 1) ≤ last
          replace hlength : next + others.length ≤ last := hlength
          omega
      · rw [loopAt, hstep] at h
        replace h : (if pos < next ∧ next ≤ input.utf8Size then _ else throw (Fault.stuck pos)) =
          Except.ok (as, last) := h
        rw [if_neg hahead] at h
        cases h

end Runs

/-! ## 3.  Progress -/

section Progress

variable {α : Type} {input rest : Text} {pos : Nat}

/-- The turns of a loop get ahead, so that the loop ends, with the results that the text
from its start on has, and the cursor in front of what is left. -/
structure Progresses (input : Text) (turn : Nat → Nat → Except Fault (Option α × Nat))
    (result : Text → List α × Text) : Prop where
  /-- A turn that takes something gets ahead by a byte at least, to a boundary, and a turn
  that takes nothing leaves the cursor where it was. -/
  ahead : ∀ n pos, (dropBytes? pos input).isSome = true →
    ∃ taken next, turn n pos = .ok (taken, next) ∧ (dropBytes? next input).isSome = true ∧
      (taken ≠ none → pos + 1 ≤ next) ∧ (taken = none → next = pos)
  /-- From every position the loop ends, in one way. -/
  loop : ∀ pos rest, dropBytes? pos input = some rest → ∀ taken last,
    Runs turn 0 pos taken last ↔
      taken = (result rest).1 ∧ last = input.startOf (result rest).2
  /-- There are no more results than bytes between the start and the end. -/
  length_le : ∀ pos rest, dropBytes? pos input = some rest →
    pos + (result rest).1.length ≤ input.startOf (result rest).2

/-- Behind a position that is a boundary stands an end of the text that begins there. -/
theorem eq_startOf_of_dropBytes? (h : dropBytes? pos input = some rest) :
    rest <:+ input ∧ pos = input.startOf rest := by
  obtain ⟨before, rfl, rfl⟩ := Text.dropBytes?_eq_some_iff.1 h
  exact ⟨List.suffix_append before rest, (Text.startOf_append before rest).symm⟩

/-- A guarded loop whose steps are those on texts, all of which shorten the text, shows that
the loop without a guard gets ahead. -/
theorem Progresses.of_loopAt {turn : Nat → Nat → Except Fault (Option α × Nat)}
    {step : Nat → Nat → Except Fault (Option (α × Nat))} {f : Nat → Text → Option (α × Text)}
    {result : Text → List α × Text} (hf : ∀ n, Shortens (f n))
    (hturn : ∀ n pos, turn n pos = (step n pos).map (settle pos))
    (hstep : ∀ n rest, rest <:+ input →
      step n (input.startOf rest) = .ok ((f n rest).map (placed input)))
    (hloop : ∀ rest, rest <:+ input →
      loopAt input step 0 (input.startOf rest) = .ok (placed input (result rest))) :
    Progresses input turn result where
  ahead n pos hpos := by
    obtain ⟨rest, hrest⟩ := Option.isSome_iff_exists.1 hpos
    obtain ⟨hsuffix, rfl⟩ := eq_startOf_of_dropBytes? hrest
    rw [hturn, hstep n rest hsuffix]
    cases htaken : f n rest with
    | none => exact ⟨none, input.startOf rest, rfl, hpos, fun h => absurd rfl h, fun _ => rfl⟩
    | some taken =>
      obtain ⟨hbehind, hlt⟩ := hf n rest taken.1 taken.2 htaken
      refine ⟨some taken.1, input.startOf taken.2, rfl, ?_,
        fun _ => Text.startOf_lt hsuffix hbehind hlt, nofun⟩
      rw [Text.dropBytes?_startOf (hbehind.trans hsuffix)]
      rfl
  loop pos rest hrest taken last := by
    obtain ⟨hsuffix, rfl⟩ := eq_startOf_of_dropBytes? hrest
    have hrun := (runs_of_loopAt hturn (hloop rest hsuffix)).1
    constructor
    · exact hrun.unique
    · rintro ⟨rfl, rfl⟩
      exact hrun
  length_le pos rest hrest := by
    obtain ⟨hsuffix, rfl⟩ := eq_startOf_of_dropBytes? hrest
    exact (runs_of_loopAt hturn (hloop rest hsuffix)).2

end Progress

end Offset

/-! ## 4.  Boundaries without text -/

namespace Boundary

/-- The boundary that a run meets: a literal without characters bounds nothing. -/
def effective : Boundary → Boundary
  | literal [] _ => free
  | b => b

theorem text?_effective (b : Boundary) : b.effective.text? ≠ some [] := by
  rcases b with _ | ⟨_ | ⟨c, text⟩, closing⟩ | c <;> nofun

theorem valueOffset_effective (b : Boundary) : b.effective.valueOffset = b.valueOffset := by
  rcases b with _ | ⟨_ | ⟨c, text⟩, closing⟩ | c <;> rfl

end Boundary

namespace Offset

section Loops

variable {input rest : Text} {op : Operator} {b : Boundary}

theorem tryValue_effective : tryValue input b.effective = tryValue input b := by
  funext k least stop pos
  simp only [tryValue, takeValueAt, Boundary.valueOffset_effective]

theorem pairTurn_effective : pairTurn input op b.effective = pairTurn input op b := by
  funext first next turn mark
  simp only [pairTurn, tryValue_effective]

theorem itemTurn_effective : itemTurn input b.effective = itemTurn input b := by
  funext lead separator tail turn mark
  simp only [itemTurn, tryItem, decoratedTurn, tryValue_effective]

/-! ## 5.  The two loops -/

theorem pairTurn_progresses (hb : b.text? ≠ some []) (hnames : ∀ v ∈ op.vars, v.name ≠ [])
    (first next : Text) :
    Progresses input (pairTurn input op b first next) (takePairs op b first next) :=
  Progresses.of_loopAt (fun _ => shortens_takePair hnames _) (pairTurn_eq first next)
    (fun _ _ h => pairAt_eq h hb _) fun _ h => pairsAt_eq h hb hnames first next

/-- The items that a loop takes: with a separator between them or, without one, with `lead`
before and `tail` after each. -/
def takeItems (b : Boundary) (lead separator tail text : Text) : List Text × Text :=
  if separator.isEmpty then repeatedly (takeItem b lead tail) text
  else takeSeparated b separator text

theorem itemsAt_eq (h : rest <:+ input) (hb : b.text? ≠ some []) (lead separator tail : Text) :
    itemsAt input b lead separator tail (input.startOf rest) =
      .ok (placed input (takeItems b lead separator tail rest)) := by
  rw [takeItems]
  split
  · rename_i hempty
    rw [List.isEmpty_iff.1 hempty]
    exact itemsAt_decorated h hb lead tail
  · rename_i hseparator
    have hsame : itemsAt input b lead separator tail = itemsAt input b [] separator [] := by
      funext pos
      simp only [itemsAt, if_neg hseparator]
    rw [hsame]
    exact itemsAt_separated h hb separator

theorem itemTurn_progresses (hb : b.text? ≠ some []) (lead separator tail : Text) :
    Progresses input (itemTurn input b lead separator tail)
      (takeItems b lead separator tail) :=
  Progresses.of_loopAt (shortens_takeItemOf lead separator tail)
    (itemTurn_eq lead separator tail) (fun turn _ h => itemStep_eq h hb lead separator tail turn)
    fun _ h => itemsAt_eq h hb lead separator tail

/-- **The loops of operators end.**  For an operator of a template, at every position of every
candidate and in front of every boundary, each group that is captured and each item that is
added gets the cursor ahead by a byte at least, and the last turn leaves it where it was.  So
both loops end, with no more groups or items than bytes, whatever the texts are that
introduce, separate and surround them. -/
theorem loops_progress {source : Text} {tokens : List Token}
    (h : Template.parseTokens source = .ok tokens) {op : Operator}
    (hop : Token.operator op ∈ tokens) (input : Text) (b : Boundary) :
    (∀ first next : Text,
      Progresses input (pairTurn input op b first next) (takePairs op b.effective first next)) ∧
    ∀ lead separator tail : Text,
      Progresses input (itemTurn input b lead separator tail)
        (takeItems b.effective lead separator tail) := by
  have hb := b.text?_effective
  have hnames := name_ne_nil ((Template.wellFormedSeq_of_parseTokens h).token _ hop)
  rw [← pairTurn_effective, ← itemTurn_effective]
  exact ⟨pairTurn_progresses hb hnames, itemTurn_progresses hb⟩

/-- Groups without a separator: what ends the value of the first one begins the second. -/
theorem loops_progress_emptySeparator :
    ∃ (x y : Variable) (tokens : List Token) (op : Operator),
      Template.parseTokens "{-join||a,b}".toList = .ok tokens ∧ Token.operator op ∈ tokens ∧
        Runs (pairTurn "a=1b=2;".toList op (.literal ['b'] false) [] []) 0 0
          [⟨x, .one ['1']⟩, ⟨y, .one ['2']⟩] 6 := by
  let x : Variable := ⟨['a'], none, none⟩
  let y : Variable := ⟨['b'], none, none⟩
  have hparse : Template.parseTokens "{-join||a,b}".toList =
      .ok [.operator ⟨.join [], [x, y]⟩] := by rfl
  have hop : Token.operator ⟨.join [], [x, y]⟩ ∈ [Token.operator ⟨.join [], [x, y]⟩] :=
    List.mem_singleton_self _
  obtain ⟨hpairs, -⟩ := loops_progress hparse hop "a=1b=2;".toList (.literal ['b'] false)
  exact ⟨x, y, _, _, hparse, hop, ((hpairs [] []).loop 0 _ rfl _ _).2 (by decide +kernel)⟩

end Loops
end Offset
end UriRouting
