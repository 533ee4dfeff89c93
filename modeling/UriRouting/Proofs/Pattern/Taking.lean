import UriRouting.Pattern.Operator
import UriRouting.Proofs.Pattern.Allowed
import UriRouting.Proofs.Template.WellFormed

/-!
# What operators take is allowed

Whatever stands in front of an operator, the piece that it takes is one that it allows,
and its captures are those of the piece.  If neither the boundary nor the operator's own
text begins with a hexadecimal digit, the captured parts are whole.

## 1.  Values

`takeValue_eq_some` says where a value ends.  A value is captured as it is
(`takeValue_captured`) or field by field (`takeValue_fields`).

## 2.  Repetition

`repeatedly_consumes`: a loop takes what its steps take.

## 3.  Operators

One lemma for each loop of the operators: `takePairs_allowed`, `takeSegments_allowed`,
`takeSeparated_allowed` and `takeDecorated_allowed`.

## 4.  All operators

`Takes` says that an allowed piece has been taken, with its captures.
`Operator.take_takes` puts the loops together.
-/

namespace UriRouting

open CharClass (Units)

/-! ## 1.  Values -/

/-- The stop text of a value, if it has one. -/
def stopTexts (stop : Text) : List Text := if stop.isEmpty then [] else [stop]

section Value

variable {k : CharClass} {b : Boundary} {least : Nat} {stop text raw rest : Text}

theorem takeValue_eq_some (h : takeValue k b least stop text = some (raw, rest)) :
    ∃ n, least ≤ n ∧ IsEnd (stopTexts stop ++ b.stops) (k.run text) text n ∧
      raw = text.take n ∧ rest = text.drop n := by
  simp only [takeValue, Option.ite_none_right_eq_some, Option.some.injEq, Prod.mk.injEq] at h
  obtain ⟨hleast, rfl, rfl⟩ := h
  refine ⟨_, hleast, IsEnd.trans ?_ (b.isEnd_valueEnd least _ text), rfl, rfl⟩
  rw [stopTexts]
  split
  · exact Or.inl rfl
  · exact IsEnd.of_firstLiteralCut? stop least (k.run text) text

/-- A value is a beginning of the text with at least the least length. -/
theorem takeValue_append_eq (h : takeValue k b least stop text = some (raw, rest)) :
    text = raw ++ rest ∧ least ≤ raw.length := by
  obtain ⟨n, hleast, hend, rfl, rfl⟩ := takeValue_eq_some h
  have hlength := Nat.le_trans hend.le (k.run_le_length text)
  rw [List.take_append_drop, List.length_take, Nat.min_eq_left hlength]
  exact ⟨rfl, hleast⟩

/-- A value is whole when the texts that may end it keep escapes. -/
theorem takeValue_whole (hk : k ≠ .any) (h : takeValue k b least stop text = some (raw, rest))
    (hstops : keepEscapes (stopTexts stop ++ b.stops) = true) :
    Units k.admits raw ∧ startsWithHexDigit rest = false := by
  obtain ⟨n, -, hend, rfl, rfl⟩ := takeValue_eq_some h
  exact ⟨hend.units_take hk hstops, hend.startsWithHexDigit_drop hstops⟩

/-- A value that may be empty is always taken. -/
theorem exists_takeValue_zero (k : CharClass) (b : Boundary) (stop text : Text) :
    ∃ raw rest, takeValue k b 0 stop text = some (raw, rest) := by
  simp only [takeValue, Nat.zero_le, if_true, Option.some.injEq, Prod.mk.injEq]
  exact ⟨_, _, rfl, rfl⟩

/-- An item is captured as it is. -/
theorem takeValue_captured (h : takeValue .unreserved b least stop text = some (raw, rest)) :
    Consumes (keepEscapes (stopTexts stop ++ b.stops)) CharClass.unreserved.admits text
      [.captured raw] rest :=
  Consumes.captured (takeValue_append_eq h).1 (takeValue_whole (by decide) h)

/-- A value with commas is captured field by field. -/
theorem takeValue_fields (h : takeValue .unreservedList b least [] text = some (raw, rest)) :
    Consumes (keepEscapes b.stops) CharClass.unreserved.admits text
      (Part.ofFields (raw.fields ',')) rest := by
  obtain ⟨-, hcommas, hjoin⟩ := Text.fields_spec ',' raw
  refine Consumes.fields (hjoin.symm ▸ (takeValue_append_eq h).1) fun hstops => ?_
  obtain ⟨hunits, hrest⟩ := takeValue_whole (by decide) h hstops
  rw [← hjoin] at hunits
  refine ⟨fun f hf => (hunits.of_joined f hf).mono_of_mem fun c hc hadmits => ?_, hrest⟩
  -- The class of lists admits one more character, the comma, and a field has none.
  have hne : c ≠ ',' := by
    rintro rfl
    exact hcommas f hf hc
  simpa [CharClass.admits, hne] using hadmits

end Value

/-! ## 2.  Repetition -/

/-- A loop takes what its steps take, one after the other. -/
theorem repeatedly_consumes {α β : Type} {step : Text → Option (α × Text)} {safe : Bool}
    {p : Char → Bool} {good : β → Prop} {parts : β → List Part} {read : β → α}
    (hstep : ∀ text a rest, step text = some (a, rest) →
      ∃ b, good b ∧ read b = a ∧ Consumes safe p text (parts b) rest) (text : Text) :
    ∃ bs : List β, (∀ b ∈ bs, good b) ∧ bs.map read = (repeatedly step text).1 ∧
      Consumes safe p text (bs.flatMap parts) (repeatedly step text).2 := by
  fun_induction repeatedly step text with
  | case1 text hnone => exact ⟨[], List.forall_mem_nil good, rfl, Consumes.nil⟩
  | case2 text a rest hsome hlt as last hloop ih =>
    obtain ⟨b, hb, rfl, hconsumes⟩ := hstep text a rest hsome
    obtain ⟨bs, hbs, hread, hrest⟩ := ih
    rw [hloop] at hread hrest
    exact ⟨b :: bs, List.forall_mem_cons.2 ⟨hb, hbs⟩, by rw [List.map_cons, hread],
      hconsumes.append hrest⟩
  | case3 text a rest hsome hlt => exact ⟨[], List.forall_mem_nil good, rfl, Consumes.nil⟩

/-! ## 3.  Operators -/

section Operators

variable {op : Operator} {b : Boundary} {lead tail text raw rest : Text}

/-! ### Groups -/

theorem startsWithHexDigit_dropWhile_name (t : Text) :
    startsWithHexDigit (t.dropWhile isNameChar) = false := by
  cases hrest : t.dropWhile isNameChar with
  | nil => rfl
  | cons c rest =>
    have hc : isNameChar c = false := by
      have hhead := List.head?_dropWhile_not isNameChar t
      rwa [hrest] at hhead
    rw [startsWithHexDigit_cons]
    cases hdigit : isHexDigit c with
    | false => rfl
    | true =>
      rw [isNameChar, isAlphanum_of_isHexDigit hdigit] at hc
      cases hc

theorem takePair_allowed {capture : Capture} (h : takePair op b lead text = some (capture, rest)) :
    ∃ g : Group, (SameLiteral lead g.lead ∧ g.var ∈ op.vars) ∧ g.capture = capture ∧
      Consumes (keepEscapes b.stops) CharClass.unreserved.admits text g.parts rest := by
  simp only [takePair, Option.bind_eq_bind, Option.bind_eq_some_iff] at h
  obtain ⟨named, hlead, v, hv, h⟩ := h
  obtain ⟨t, rfl, ht⟩ := stripLiteral?_eq_some_iff.1 hlead
  have hmem : v ∈ op.vars := List.mem_of_find?_eq_some hv
  have hname : v.name = named.takeWhile isNameChar := by simpa using List.find?_some hv
  have hnamed : named = v.name ++ named.dropWhile isNameChar := by
    rw [hname, List.takeWhile_append_dropWhile]
  cases hequals : stripLiteral? ['='] (named.dropWhile isNameChar) with
  | none =>
    rw [hequals] at h
    cases h
    refine ⟨⟨t, v, none⟩, ⟨ht, hmem⟩, rfl, ?_⟩
    have htext : t ++ named = t ++ v.name ++ named.dropWhile isNameChar := by
      rw [List.append_assoc, ← hnamed]
    exact (Consumes.passed htext).append (Consumes.captured (t := []) rfl
      fun _ => ⟨Units.nil, startsWithHexDigit_dropWhile_name named⟩)
  | some value =>
    rw [hequals] at h
    obtain ⟨s, hdrop, hs⟩ := stripLiteral?_eq_some_iff.1 hequals
    obtain rfl : s = ['='] := sameLiteral_singleton_iff.1 hs
    obtain ⟨raw, behind, hvalue⟩ := exists_takeValue_zero .unreservedList b [] value
    simp only [hvalue, Option.getD_some, Option.some.injEq, Prod.mk.injEq] at h
    obtain ⟨rfl, rfl⟩ := h
    refine ⟨⟨t, v, some raw⟩, ⟨ht, hmem⟩, rfl, ?_⟩
    have htext : t ++ named = t ++ v.name ++ ['='] ++ value := by
      rw [List.append_assoc, ← hdrop, List.append_assoc, ← hnamed]
    exact (Consumes.passed htext).append (takeValue_fields hvalue)

theorem takePairs_allowed (op : Operator) (b : Boundary) (first next text : Text) :
    ∃ groups, Operator.FitsGroups op.vars (SameLiteral first) (SameLiteral next) groups ∧
      groups.map Group.capture = (takePairs op b first next text).1 ∧
      Consumes (keepEscapes b.stops) CharClass.unreserved.admits text
        (groups.flatMap Group.parts) (takePairs op b first next text).2 := by
  rw [takePairs]
  split
  · exact ⟨[], ⟨by simp, by simp, by simp⟩, rfl, Consumes.nil⟩
  · rename_i capture rest hpair
    obtain ⟨g, ⟨hlead, hvar⟩, rfl, hconsumes⟩ := takePair_allowed hpair
    obtain ⟨groups, hgroups, hread, hrest⟩ := repeatedly_consumes
      (fun text capture behind (h : takePair op b next text = some (capture, behind)) =>
        takePair_allowed h) rest
    refine ⟨g :: groups, ⟨?_, ?_, fun g hg => (hgroups g hg).1⟩, ?_, hconsumes.append hrest⟩
    · exact List.forall_mem_cons.2 ⟨hvar, fun g hg => (hgroups g hg).2⟩
    · rintro g ⟨⟩
      exact hlead
    · rw [List.map_cons, hread]

/-! ### Segments -/

theorem takeSegments_allowed (b : Boundary) (vars : List Variable) (text : Text) :
    ∃ values, Operator.FitsSegments vars values ∧
      Operator.segmentCaptures vars values = (takeSegments b vars text).1 ∧
      Consumes (keepEscapes b.stops) CharClass.unreserved.admits text
        (values.flatMap Operator.segment) (takeSegments b vars text).2 := by
  fun_induction takeSegments b vars text with
  | case1 text => exact ⟨[], ⟨Nat.le_refl 0, by simp⟩, rfl, Consumes.nil⟩
  | case2 v vs text hnone => exact ⟨[], ⟨Nat.zero_le _, by simp⟩, rfl, Consumes.nil⟩
  | case3 v vs text raw rest hsegment captures last hothers ih =>
    obtain ⟨values, hfits, hread, hrest⟩ := ih
    rw [hothers] at hread hrest
    rw [takeSegment, Option.bind_eq_bind, Option.bind_eq_some_iff] at hsegment
    obtain ⟨value, hslash, hvalue⟩ := hsegment
    obtain ⟨t, rfl, ht⟩ := stripLiteral?_eq_some_iff.1 hslash
    obtain rfl : t = ['/'] := sameLiteral_singleton_iff.1 ht
    have hne : raw ≠ [] := List.ne_nil_of_length_pos (takeValue_append_eq hvalue).2
    refine ⟨raw :: values,
      ⟨Nat.succ_le_succ hfits.length_le, List.forall_mem_cons.2 ⟨hne, hfits.ne_nil⟩⟩, ?_,
      ((Consumes.passed rfl).append (takeValue_fields hvalue)).append hrest⟩
    rw [Operator.segmentCaptures, List.zipWith_cons_cons]
    exact congrArg _ hread

/-! ### Items -/

/-- An item and what stands around it. -/
theorem takeValue_item (lead tail : Text) {stop : Text}
    (h : takeValue .unreserved b 1 stop text = some (raw, tail ++ rest)) :
    raw ≠ [] ∧ Consumes (keepEscapes (stopTexts stop ++ b.stops)) CharClass.unreserved.admits
      (lead ++ text) (Item.parts ⟨lead, raw, tail⟩) rest := by
  refine ⟨List.ne_nil_of_length_pos (takeValue_append_eq h).2, ?_⟩
  exact (Consumes.passed rfl).append ((takeValue_captured h).append (Consumes.passed rfl))

theorem takeItem_allowed (h : takeItem b lead tail text = some (raw, rest)) :
    ∃ item : Item, (SameLiteral lead item.lead ∧ item.text ≠ [] ∧ SameLiteral tail item.tail) ∧
      item.text = raw ∧
      Consumes (keepEscapes (stopTexts (if tail.isEmpty then lead else tail) ++ b.stops))
        CharClass.unreserved.admits text item.parts rest := by
  simp only [takeItem, Option.bind_eq_bind, Option.bind_eq_some_iff, Option.some.injEq] at h
  obtain ⟨behindLead, hlead, ⟨item, behindItem⟩, hitem, behindTail, htail, h⟩ := h
  obtain ⟨rfl, rfl⟩ := Prod.mk.inj h
  obtain ⟨t, rfl, ht⟩ := stripLiteral?_eq_some_iff.1 hlead
  obtain ⟨s, rfl, hs⟩ := stripLiteral?_eq_some_iff.1 htail
  obtain ⟨hne, hconsumes⟩ := takeValue_item t s hitem
  exact ⟨⟨t, item, s⟩, ⟨ht, hne, hs⟩, rfl, hconsumes⟩

theorem takeSeparated_allowed (b : Boundary) (separator text : Text) :
    ∃ items, Operator.FitsItems (SameLiteral separator) items ∧
      items.map Item.text = (takeSeparated b separator text).1 ∧
      Consumes (keepEscapes (stopTexts separator ++ b.stops)) CharClass.unreserved.admits text
        (items.flatMap Item.parts) (takeSeparated b separator text).2 := by
  rw [takeSeparated]
  split
  · exact ⟨[], ⟨by simp, by simp, by simp⟩, rfl, Consumes.nil⟩
  · rename_i first rest hfirst
    have hstep : ∀ text raw rest,
        (stripLiteral? separator text >>= takeValue .unreserved b 1 separator) =
          some (raw, rest) →
        ∃ item : Item, (SameLiteral separator item.lead ∧ item.text ≠ [] ∧ item.tail = []) ∧
          item.text = raw ∧
          Consumes (keepEscapes (stopTexts separator ++ b.stops)) CharClass.unreserved.admits text
            item.parts rest := by
      intro text raw rest h
      obtain ⟨behind, hseparator, hitem⟩ := Option.bind_eq_some_iff.1 h
      obtain ⟨t, rfl, ht⟩ := stripLiteral?_eq_some_iff.1 hseparator
      obtain ⟨hne, hconsumes⟩ := takeValue_item t [] hitem
      exact ⟨⟨t, raw, []⟩, ⟨ht, hne, rfl⟩, rfl, hconsumes⟩
    obtain ⟨hne, hconsumes⟩ := takeValue_item [] [] hfirst
    obtain ⟨items, hitems, hread, hrest⟩ := repeatedly_consumes hstep rest
    refine ⟨⟨[], first, []⟩ :: items, ⟨?_, ?_, fun item hi => (hitems item hi).1⟩, ?_,
      hconsumes.append hrest⟩
    · exact List.forall_mem_cons.2 ⟨⟨hne, rfl⟩, fun item hi => (hitems item hi).2⟩
    · rintro item ⟨⟩
      rfl
    · rw [List.map_cons, hread]

theorem takeDecorated_allowed (b : Boundary) (lead tail : Text) (vars : List Variable)
    (text : Text) :
    ∃ runs, Operator.FitsRuns vars (SameLiteral lead) (SameLiteral tail) runs ∧
      List.zipWith Item.capture vars runs = (takeDecorated b lead tail vars text).1 ∧
      Consumes (keepEscapes (stopTexts (if tail.isEmpty then lead else tail) ++ b.stops))
        CharClass.unreserved.admits text (runs.flatten.flatMap Item.parts)
        (takeDecorated b lead tail vars text).2 := by
  have hnone : ∀ vars, Operator.FitsRuns vars (SameLiteral lead) (SameLiteral tail) [] :=
    fun vars => ⟨Nat.zero_le _, by simp, by simp, by simp⟩
  fun_induction takeDecorated b lead tail vars text with
  | case1 text => exact ⟨[], hnone [], rfl, Consumes.nil⟩
  | case2 v text last hloop => exact ⟨[], hnone [v], rfl, Consumes.nil⟩
  | case3 v text items rest hne hloop =>
    -- The last variable has the loop, so its run may be of any length.
    obtain ⟨run, hrun, hread, hrest⟩ := repeatedly_consumes
      (fun text raw behind (h : takeItem b lead tail text = some (raw, behind)) =>
        takeItem_allowed h) text
    replace hloop : repeatedly (fun t => takeItem b lead tail t) text = (items, rest) := hloop
    rw [hloop] at hread hrest
    have hitems : run ≠ [] := by
      rintro rfl
      exact hne hread.symm
    refine ⟨[run], ⟨Nat.le_refl 1, ?_, by simp, ?_⟩, ?_, ?_⟩
    · exact List.forall_mem_singleton.2 hitems
    · exact List.forall_mem_singleton.2 hrun
    · rw [List.zipWith_cons_cons, Item.capture, hread]
      rfl
    · rwa [List.flatten_singleton]
  | case4 v vs text hvs hitem => exact ⟨[], hnone (v :: vs), rfl, Consumes.nil⟩
  | case5 v vs text hvs raw rest hitem captures last hothers ih =>
    obtain ⟨item, hfits, rfl, hconsumes⟩ := takeItem_allowed hitem
    obtain ⟨runs, hruns, hread, hrest⟩ := ih
    rw [hothers] at hread hrest
    -- With a variable behind it, `v` has a run of one item.
    have hlength : (v :: vs).length - 1 = vs.length - 1 + 1 := by
      have hpos := List.length_pos_iff.2 hvs
      rw [List.length_cons]
      omega
    refine ⟨[item] :: runs, ⟨Nat.succ_le_succ hruns.length_le, ?_, ?_, ?_⟩, ?_, ?_⟩
    · exact List.forall_mem_cons.2 ⟨List.cons_ne_nil _ _, hruns.ne_nil⟩
    · rw [hlength, List.take_succ_cons]
      exact List.forall_mem_cons.2 ⟨rfl, hruns.single⟩
    · exact List.forall_mem_cons.2 ⟨List.forall_mem_singleton.2 hfits, hruns.item⟩
    · rw [List.zipWith_cons_cons]
      exact congrArg _ hread
    · rw [List.flatten_cons, List.flatMap_append, List.flatMap_singleton]
      exact hconsumes.append hrest

end Operators

/-! ## 4.  All operators -/

/-- The texts that may end a capture of an operator in front of a boundary. -/
def Operator.stops (op : Operator) (b : Boundary) : List Text :=
  match op.form with
  | .opt _ | .neg _ => []
  | .list arg | .prefixed arg | .suffixed arg => stopTexts arg ++ b.stops
  | _ => b.stops

/-- An allowed piece has been taken from the front of a text, with its captures, whose
class and whose possible ends are given. -/
def Takes (allows : Piece → Prop) (k : CharClass) (stops : List Text) (text : Text)
    (taken : List Capture × Text) : Prop :=
  ∃ piece, allows piece ∧ piece.captures = taken.1 ∧
    Consumes (keepEscapes stops) k.admits text piece.parts taken.2

theorem Takes.mono {allows allows' : Piece → Prop} {k : CharClass} {stops : List Text}
    {taken : List Capture × Text} (h : Takes allows k stops text taken)
    (himp : ∀ piece, allows piece → allows' piece) : Takes allows' k stops text taken := by
  obtain ⟨piece, hallows, htaken⟩ := h
  exact ⟨piece, himp piece hallows, htaken⟩

theorem takePairs_takes (op : Operator) (b : Boundary) (first next text : Text) :
    Takes (op.AllowsGroups (SameLiteral first) (SameLiteral next)) .unreserved b.stops text
      (takePairs op b first next text) := by
  obtain ⟨groups, hfits, hread, hrest⟩ := takePairs_allowed op b first next text
  exact ⟨⟨_, _, Operator.capturedIn_groups groups⟩, ⟨groups, hfits, rfl, rfl⟩, hread, hrest⟩

theorem takeDecorated_takes (op : Operator) (b : Boundary) (lead tail text : Text) :
    Takes (op.AllowsRuns (SameLiteral lead) (SameLiteral tail)) .unreserved
      (stopTexts (if tail.isEmpty then lead else tail) ++ b.stops) text
      (takeDecorated b lead tail op.vars text) := by
  obtain ⟨runs, hfits, hread, hrest⟩ := takeDecorated_allowed b lead tail op.vars text
  exact ⟨⟨_, _, Operator.capturedIn_runs hfits.length_le⟩, ⟨runs, hfits, rfl, rfl⟩, hread, hrest⟩

/-- A single text that is passed over, if it is there. -/
theorem stripLiteral?_takes (arg : Text) (stops : List Text) (text : Text) :
    Takes (fun piece => ∃ t, (t = [] ∨ SameLiteral arg t) ∧ piece = .skip t) .unreserved stops
      text ([], (stripLiteral? arg text).getD text) := by
  cases hstrip : stripLiteral? arg text with
  | none => exact ⟨.skip [], ⟨[], Or.inl rfl, rfl⟩, rfl, Consumes.passed (t := []) rfl⟩
  | some rest =>
    obtain ⟨t, rfl, ht⟩ := stripLiteral?_eq_some_iff.1 hstrip
    exact ⟨.skip t, ⟨t, Or.inr ht, rfl⟩, rfl, Consumes.passed rfl⟩

/-- The items of the operator `list`, whose single variable captures them all. -/
theorem Operator.take_list (b : Boundary) (separator : Text) (v : Variable) (text : Text) :
    Operator.take ⟨.list separator, [v]⟩ b text =
      (if (takeSeparated b separator text).1.isEmpty then []
        else [⟨v, .ofItems (takeSeparated b separator text).1⟩],
        (takeSeparated b separator text).2) := by
  rcases htaken : takeSeparated b separator text with ⟨_ | ⟨item, items⟩, rest⟩
  · simp [Operator.take, htaken]
  · simp [Operator.take, htaken]

theorem takeSeparated_takes (b : Boundary) (separator : Text) (v : Variable) (text : Text) :
    Takes (Operator.AllowsItems ⟨.list separator, [v]⟩ (SameLiteral separator)) .unreserved
      (stopTexts separator ++ b.stops) text (Operator.take ⟨.list separator, [v]⟩ b text) := by
  obtain ⟨items, hfits, hread, hrest⟩ := takeSeparated_allowed b separator text
  have hholds : Part.capturedIn (items.flatMap Item.parts) =
      (if items.isEmpty then [] else [Item.capture v items]).flatMap
        fun capture => capture.raw.items := by
    rw [Item.capturedIn_parts]
    cases items with
    | nil => rfl
    | cons item items => simp [Item.capture]
  rw [Operator.take_list, ← hread]
  refine ⟨⟨_, _, hholds⟩, ⟨v, items, rfl, hfits, rfl, rfl⟩, ?_, hrest⟩
  cases items <;> rfl

/-- **An operator takes a piece that it allows.** -/
theorem Operator.take_takes {op : Operator} (hop : op.WellFormed) (hform : op.form ≠ .reserved)
    (b : Boundary) (text : Text) :
    Takes op.Allows .unreserved (op.stops b) text (op.take b text) := by
  obtain ⟨form, vars⟩ := op
  cases form with
  | reserved => exact absurd rfl hform
  | pathParameters =>
    exact (takePairs_takes ⟨.pathParameters, vars⟩ b [';'] [';'] text).mono fun piece h =>
      h.mono (fun t => sameLiteral_singleton_iff.1) (fun t => sameLiteral_singleton_iff.1)
  | queryParameters =>
    exact (takePairs_takes ⟨.queryParameters, vars⟩ b ['?'] ['&'] text).mono fun piece h =>
      h.mono (fun t => sameLiteral_singleton_iff.1) (fun t => sameLiteral_singleton_iff.1)
  | join separator =>
    exact (takePairs_takes ⟨.join separator, vars⟩ b [] separator text).mono fun piece h =>
      h.mono (fun t => sameLiteral_nil_iff.1) (fun t ht => ht)
  | pathSegments =>
    obtain ⟨values, hfits, hread, hrest⟩ := takeSegments_allowed b vars text
    exact ⟨⟨_, _, Operator.capturedIn_segments hfits.length_le⟩, ⟨values, hfits, rfl, rfl⟩, hread,
      hrest⟩
  | list separator =>
    obtain ⟨v, rfl⟩ : ∃ v, vars = [v] := List.length_eq_one_iff.1 (hop.single rfl)
    exact takeSeparated_takes b separator v text
  | opt arg => exact stripLiteral?_takes arg _ text
  | neg arg => exact stripLiteral?_takes arg _ text
  | prefixed arg =>
    exact (takeDecorated_takes ⟨.prefixed arg, vars⟩ b arg [] text).mono fun piece h =>
      h.mono (fun t ht => ht) (fun t => sameLiteral_nil_iff.1)
  | suffixed arg =>
    have hstop : (if arg.isEmpty then [] else arg) = arg := by cases arg <;> rfl
    have htakes := takeDecorated_takes ⟨.suffixed arg, vars⟩ b [] arg text
    rw [hstop] at htakes
    exact htakes.mono fun piece h => h.mono (fun t => sameLiteral_nil_iff.1) (fun t ht => ht)

end UriRouting
