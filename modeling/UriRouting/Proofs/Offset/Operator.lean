import UriRouting.Proofs.Offset.Cursor
import UriRouting.Proofs.Pattern.Taking

/-!
# Operators over positions

What an operator takes is computed here over positions in the whole candidate.

## 1.  The computation

`operatorAt` and its parts, for groups, segments and items.

## 2.  Turns

A turn of a loop takes a name or a value with a character at least, so it shortens the
text.

## 3.  Operators

`operatorAt_eq`: an operator never fails, and takes what it takes from the text.
-/

namespace UriRouting
namespace Offset

/-! ## 1.  The computation -/

section Definitions

variable (input : Text) (op : Operator) (b : Boundary)

/-- A group `name` or `name=value` after `lead`, its name one of the operator's. -/
def pairAt (lead : Text) (pos : Nat) : Except Fault (Option (Capture × Nat)) := do
  match ← eat input lead pos with
  | none => pure none
  | some behindLead => do
      let (name, behindName) ← takeName input behindLead
      match op.variable? name with
      | none => pure none
      | some v =>
          match ← eat input ['='] behindName with
          | none => pure (some (⟨v, .one []⟩, behindName))
          | some behindEquals => do
              let value ← takeValueAt input .unreservedList b 0 [] behindEquals
              let (raw, last) := value.getD ([], behindEquals)
              pure (some (⟨v, .ofCommaSeparated raw⟩, last))

/-- Groups in any order, the first one after `first` and the others after `next`. -/
def pairsAt (first next : Text) (pos : Nat) : Except Fault (List Capture × Nat) :=
  loopAt input (fun turn => pairAt input op b (if turn = 0 then first else next)) 0 pos

/-- A segment for each variable, as far as there are segments. -/
def segmentsAt : List Variable → Nat → Except Fault (List Capture × Nat)
  | [], pos => pure ([], pos)
  | v :: vs, pos => do
      match ← eat input ['/'] pos with
      | none => pure ([], pos)
      | some behind =>
          match ← takeValueAt input .unreservedList b 1 [] behind with
          | none => pure ([], pos)
          | some (raw, next) => do
              let (captures, last) ← segmentsAt vs next
              pure (⟨v, .ofCommaSeparated raw⟩ :: captures, last)

/-- One item with `lead` before and `tail` after it. -/
def itemAt (lead tail : Text) (pos : Nat) : Except Fault (Option (Text × Nat)) := do
  match ← eat input lead pos with
  | none => pure none
  | some behindLead =>
      let stop := if tail.isEmpty then lead else tail
      match ← takeValueAt input .unreserved b 1 stop behindLead with
      | none => pure none
      | some (item, behindItem) => do
          let behindTail ← eat input tail behindItem
          pure (behindTail.map fun last => (item, last))

/-- The position at which an item begins: that behind a separator, unless the item is the
first one. -/
def itemStart (separator : Text) (turn pos : Nat) : Except Fault (Option Nat) :=
  if turn = 0 then pure (some pos) else eat input separator pos

/-- Items with `separator` between them.  Without a separator, each has `lead` before and
`tail` after it. -/
def itemsAt (lead separator tail : Text) (pos : Nat) : Except Fault (List Text × Nat) :=
  loopAt input (fun turn pos => do
    match ← itemStart input separator turn pos with
    | none => pure none
    | some start =>
        if separator.isEmpty then itemAt input b lead tail start
        else takeValueAt input .unreserved b 1 separator start) 0 pos

/-- A turn of the loop that `itemsAt` is. -/
def itemStep (lead separator tail : Text) (turn pos : Nat) :
    Except Fault (Option (Text × Nat)) := do
  match ← itemStart input separator turn pos with
  | none => pure none
  | some start =>
      if separator.isEmpty then itemAt input b lead tail start
      else takeValueAt input .unreserved b 1 separator start

/-- One decorated item for each variable but the last, which takes as many as there are. -/
def decoratedAt (lead tail : Text) : List Variable → Nat → Except Fault (List Capture × Nat)
  | [], pos => pure ([], pos)
  | [v], pos => do
      let (items, last) ← itemsAt input b lead [] tail pos
      if items.isEmpty then pure ([], pos) else pure ([⟨v, .ofItems items⟩], last)
  | v :: vs, pos => do
      match ← itemAt input b lead tail pos with
      | none => pure ([], pos)
      | some (item, next) => do
          let (captures, last) ← decoratedAt lead tail vs next
          pure (⟨v, .one item⟩ :: captures, last)

/-- The captures of an operator at a position, and the position behind it. -/
def operatorAt (pos : Nat) : Except Fault (List Capture × Nat) :=
  match op.form with
  | .reserved => pure ([], pos)
  | .pathParameters => pairsAt input op b [';'] [';'] pos
  | .queryParameters => pairsAt input op b ['?'] ['&'] pos
  | .join separator => pairsAt input op b [] separator pos
  | .pathSegments => segmentsAt input b op.vars pos
  | .list separator => do
      let (items, last) ← itemsAt input b [] separator [] pos
      match items, op.vars with
      | _ :: _, v :: _ => pure ([⟨v, .ofItems items⟩], last)
      | _, _ => pure ([], last)
  | .prefixed arg => decoratedAt input b arg [] op.vars pos
  | .suffixed arg => decoratedAt input b [] arg op.vars pos
  | .opt arg | .neg arg => do
      let behind ← eat input arg pos
      pure ([], behind.getD pos)

end Definitions

section Equations

variable {input rest : Text} {op : Operator} {b : Boundary}

/-! ## 2.  Turns -/

theorem shortens_takePair (hnames : ∀ v ∈ op.vars, v.name ≠ []) (lead : Text) :
    Shortens (takePair op b lead) := by
  intro text capture rest h
  obtain ⟨g, ⟨-, hvar⟩, -, hconsumes⟩ := takePair_allowed h
  have hname := List.length_pos_iff.2 (hnames g.var hvar)
  rw [hconsumes.text_eq, Group.textOf_parts]
  refine ⟨List.suffix_append _ _, ?_⟩
  simp only [List.length_append]
  omega

/-- A value with one character at least shortens the text. -/
theorem shortens_takeValue (k : CharClass) (stop : Text) : Shortens (takeValue k b 1 stop) := by
  intro text raw rest h
  obtain ⟨rfl, hlength⟩ := takeValue_append_eq h
  refine ⟨List.suffix_append _ _, ?_⟩
  rw [List.length_append]
  omega

theorem shortens_takeItem (lead tail : Text) : Shortens (takeItem b lead tail) := by
  intro text raw rest h
  obtain ⟨item, ⟨-, hne, -⟩, -, hconsumes⟩ := takeItem_allowed h
  have hitem := List.length_pos_iff.2 hne
  rw [hconsumes.text_eq]
  refine ⟨List.suffix_append _ _, ?_⟩
  rw [Item.parts, Part.textOf_passed_cons, Part.textOf_captured_cons]
  simp only [List.length_append]
  omega

/-- The item of a turn: the first stands at the front, the others behind a separator. -/
def takeItemOf (b : Boundary) (lead separator tail : Text) (turn : Nat) (text : Text) :
    Option (Text × Text) :=
  (if turn = 0 then some text else stripLiteral? separator text).bind fun start =>
    if separator.isEmpty then takeItem b lead tail start
    else takeValue .unreserved b 1 separator start

theorem shortens_takeItemOf (lead separator tail : Text) (turn : Nat) :
    Shortens (takeItemOf b lead separator tail turn) := by
  intro text item rest h
  obtain ⟨start, hstart, hitem⟩ := Option.bind_eq_some_iff.1 h
  have hsuffix : start <:+ text := by
    split at hstart
    · cases hstart
      exact List.suffix_refl _
    · exact isSuffix_of_stripLiteral? hstart
  have hshort : rest <:+ start ∧ rest.length < start.length := by
    split at hitem
    · exact shortens_takeItem lead tail _ _ _ hitem
    · exact shortens_takeValue .unreserved separator _ _ _ hitem
  exact ⟨hshort.1.trans hsuffix, Nat.lt_of_lt_of_le hshort.2 hsuffix.length_le⟩

/-! ## 3.  Operators -/

theorem pairAt_eq (h : rest <:+ input) (hb : b.text? ≠ some []) (lead : Text) :
    pairAt input op b lead (input.startOf rest) =
      .ok ((takePair op b lead rest).map (placed input)) := by
  rw [pairAt, eat_eq h, takePair]
  cases hlead : stripLiteral? lead rest with
  | none => rfl
  | some named =>
    have hnamed := (isSuffix_of_stripLiteral? hlead).trans h
    have hbehind := (List.dropWhile_suffix isNameChar).trans hnamed
    simp only [Option.map_some, bind, Except.bind, takeName_eq hnamed, Option.bind_some]
    cases hvar : op.variable? (named.takeWhile isNameChar) with
    | none => rfl
    | some v =>
      simp only [eat_eq hbehind, Option.bind_some]
      cases hequals : stripLiteral? ['='] (named.dropWhile isNameChar) with
      | none => rfl
      | some value =>
        have hvalue := (isSuffix_of_stripLiteral? hequals).trans hbehind
        simp only [Option.map_some, takeValueAt_eq hvalue _ hb (Nat.zero_le 1)]
        cases takeValue .unreservedList b 0 [] value <;> rfl

theorem pairsAt_eq (h : rest <:+ input) (hb : b.text? ≠ some [])
    (hnames : ∀ v ∈ op.vars, v.name ≠ []) (first next : Text) :
    pairsAt input op b first next (input.startOf rest) =
      .ok (placed input (takePairs op b first next rest)) := by
  rw [pairsAt, loopAt_eq (shortens_takePair hnames first) (shortens_takePair hnames next)
    (fun rest h => pairAt_eq h hb first) ?_ h, takePairs]
  · cases takePair op b first rest <;> rfl
  · intro turn rest hturn h
    rw [if_neg (by omega)]
    exact pairAt_eq h hb next

theorem segmentsAt_eq (h : rest <:+ input) (hb : b.text? ≠ some []) (vs : List Variable) :
    segmentsAt input b vs (input.startOf rest) = .ok (placed input (takeSegments b vs rest)) := by
  induction vs generalizing rest with
  | nil => rfl
  | cons v vs ih =>
    rw [segmentsAt, eat_eq h, takeSegments, takeSegment]
    cases hslash : stripLiteral? ['/'] rest with
    | none => rfl
    | some behind =>
      have hbehind := (isSuffix_of_stripLiteral? hslash).trans h
      simp only [Option.map_some, bind, Except.bind, Option.bind_some,
        takeValueAt_eq hbehind _ hb (Nat.le_refl 1)]
      cases hvalue : takeValue .unreservedList b 1 [] behind with
      | none => rfl
      | some taken =>
        obtain ⟨raw, next⟩ := taken
        have hnext := (shortens_takeValue _ _ _ _ _ hvalue).1.trans hbehind
        simp only [Option.map_some, placed, ih hnext]
        rfl

theorem itemAt_eq (h : rest <:+ input) (hb : b.text? ≠ some []) (lead tail : Text) :
    itemAt input b lead tail (input.startOf rest) =
      .ok ((takeItem b lead tail rest).map (placed input)) := by
  rw [itemAt, eat_eq h, takeItem]
  cases hlead : stripLiteral? lead rest with
  | none => rfl
  | some behind =>
    have hbehind := (isSuffix_of_stripLiteral? hlead).trans h
    simp only [Option.map_some, bind, Except.bind, Option.bind_some,
      takeValueAt_eq hbehind _ hb (Nat.le_refl 1)]
    cases hvalue : takeValue .unreserved b 1 (if tail.isEmpty then lead else tail) behind with
    | none => rfl
    | some taken =>
      obtain ⟨item, next⟩ := taken
      have hnext := (shortens_takeValue _ _ _ _ _ hvalue).1.trans hbehind
      simp only [Option.map_some, placed, eat_eq hnext, Option.bind_some]
      cases stripLiteral? tail next <;> rfl

theorem itemStep_eq (h : rest <:+ input) (hb : b.text? ≠ some []) (lead separator tail : Text)
    (turn : Nat) :
    itemStep input b lead separator tail turn (input.startOf rest) =
      .ok ((takeItemOf b lead separator tail turn rest).map (placed input)) := by
  have hitem : ∀ start, start <:+ input →
      (if separator.isEmpty then itemAt input b lead tail (input.startOf start)
        else takeValueAt input .unreserved b 1 separator (input.startOf start)) =
      .ok ((if separator.isEmpty then takeItem b lead tail start
        else takeValue .unreserved b 1 separator start).map (placed input)) := by
    intro start hstart
    split
    · exact itemAt_eq hstart hb lead tail
    · exact takeValueAt_eq hstart _ hb (Nat.le_refl 1) separator
  rw [itemStep, itemStart, takeItemOf]
  split
  · exact hitem rest h
  · rw [eat_eq h]
    cases hseparator : stripLiteral? separator rest with
    | none => rfl
    | some behind => exact hitem behind ((isSuffix_of_stripLiteral? hseparator).trans h)

/-- Items without anything around them are values. -/
theorem takeItem_nil (text : Text) : takeItem b [] [] text = takeValue .unreserved b 1 [] text := by
  show (takeValue .unreserved b 1 [] text).bind _ = _
  cases takeValue .unreserved b 1 [] text <;> rfl

/-- What a turn takes between separators is a value, also if the separator is empty. -/
theorem takeItemOf_separated (separator : Text) (turn : Nat) (text : Text) :
    takeItemOf b [] separator [] turn text =
      (if turn = 0 then some text else stripLiteral? separator text).bind
        (takeValue .unreserved b 1 separator) := by
  have hitem : (fun start => if separator.isEmpty then takeItem b [] [] start
      else takeValue .unreserved b 1 separator start) = takeValue .unreserved b 1 separator := by
    funext start
    split
    · rename_i hempty
      rw [takeItem_nil, List.isEmpty_iff.1 hempty]
    · rfl
  rw [takeItemOf, hitem]

/-- Without a separator, each turn takes an item. -/
theorem takeItemOf_decorated (lead tail : Text) (turn : Nat) :
    takeItemOf b lead [] tail turn = takeItem b lead tail := by
  funext text
  rw [takeItemOf, stripLiteral?, ite_self]
  rfl

theorem itemsAt_separated (h : rest <:+ input) (hb : b.text? ≠ some []) (separator : Text) :
    itemsAt input b [] separator [] (input.startOf rest) =
      .ok (placed input (takeSeparated b separator rest)) := by
  have hfirst : ∀ text, takeItemOf b [] separator [] 0 text =
      takeValue .unreserved b 1 separator text := takeItemOf_separated separator 0
  have hnext : ∀ turn text, 1 ≤ turn → takeItemOf b [] separator [] turn text =
      (stripLiteral? separator text >>= takeValue .unreserved b 1 separator) := by
    intro turn text hturn
    rw [takeItemOf_separated, if_neg (by omega)]
    rfl
  have hshort : Shortens fun t =>
      stripLiteral? separator t >>= takeValue .unreserved b 1 separator := by
    intro text raw rest htaken
    have hone := (hnext 1 text (Nat.le_refl 1)).trans htaken
    exact shortens_takeItemOf [] separator [] 1 text raw rest hone
  rw [itemsAt, loopAt_eq (shortens_takeValue .unreserved separator) hshort ?_ ?_ h, takeSeparated]
  · cases takeValue .unreserved b 1 separator rest <;> rfl
  · intro rest h
    rw [← hfirst rest]
    exact itemStep_eq h hb [] separator [] 0
  · intro turn rest hturn h
    rw [← hnext turn rest hturn]
    exact itemStep_eq h hb [] separator [] turn

theorem itemsAt_decorated (h : rest <:+ input) (hb : b.text? ≠ some []) (lead tail : Text) :
    itemsAt input b lead [] tail (input.startOf rest) =
      .ok (placed input (repeatedly (takeItem b lead tail) rest)) := by
  refine loopAt_eq_repeatedly (shortens_takeItem lead tail) (fun turn rest _ h => ?_) h
  rw [← takeItemOf_decorated lead tail turn]
  exact itemStep_eq h hb lead [] tail turn

theorem decoratedAt_eq (h : rest <:+ input) (hb : b.text? ≠ some []) (lead tail : Text)
    (vs : List Variable) :
    decoratedAt input b lead tail vs (input.startOf rest) =
      .ok (placed input (takeDecorated b lead tail vs rest)) := by
  fun_induction takeDecorated b lead tail vs rest with
  | case1 text => rfl
  | case2 v text last hloop =>
    replace hloop : repeatedly (takeItem b lead tail) text = ([], last) := hloop
    rw [decoratedAt, itemsAt_decorated h hb, hloop]
    rfl
  | case3 v text items rest hne hloop =>
    replace hloop : repeatedly (takeItem b lead tail) text = (items, rest) := hloop
    rw [decoratedAt, itemsAt_decorated h hb, hloop]
    show (if items.isEmpty then _ else _) = _
    rw [if_neg (fun hempty => hne (List.isEmpty_iff.1 hempty))]
    rfl
  | case4 v vs text hvs hitem =>
    rw [decoratedAt, itemAt_eq h hb, hitem]
    · rfl
    · exact hvs
  | case5 v vs text hvs raw rest hitem captures last hothers ih =>
    have hrest := (shortens_takeItem lead tail _ _ _ hitem).1.trans h
    rw [decoratedAt, itemAt_eq h hb, hitem]
    · simp only [Option.map_some, placed, bind, Except.bind, ih hrest, hothers]
      rfl
    · exact hvs

/-- **An operator over positions never fails, and takes what it takes from the text.** -/
theorem operatorAt_eq (h : rest <:+ input) (hb : b.text? ≠ some [])
    (hnames : ∀ v ∈ op.vars, v.name ≠ []) :
    operatorAt input op b (input.startOf rest) = .ok (placed input (op.take b rest)) := by
  obtain ⟨form, vars⟩ := op
  have hopt : ∀ arg, (do
      let behind ← eat input arg (input.startOf rest)
      pure ([], behind.getD (input.startOf rest)) : Except Fault (List Capture × Nat)) =
      .ok (placed input ([], (stripLiteral? arg rest).getD rest)) := by
    intro arg
    rw [eat_eq h]
    cases stripLiteral? arg rest <;> rfl
  cases form with
  | reserved => rfl
  | pathParameters => exact pairsAt_eq h hb hnames [';'] [';']
  | queryParameters => exact pairsAt_eq h hb hnames ['?'] ['&']
  | join separator => exact pairsAt_eq h hb hnames [] separator
  | pathSegments => exact segmentsAt_eq h hb vars
  | list separator =>
    simp only [operatorAt, Operator.take, itemsAt_separated h hb, bind, Except.bind, placed]
    rcases takeSeparated b separator rest with ⟨_ | ⟨item, items⟩, last⟩
    · rfl
    · cases vars <;> rfl
  | prefixed arg => exact decoratedAt_eq h hb arg [] vars
  | suffixed arg => exact decoratedAt_eq h hb [] arg vars
  | opt arg => exact hopt arg
  | neg arg => exact hopt arg

end Equations
end Offset
end UriRouting
