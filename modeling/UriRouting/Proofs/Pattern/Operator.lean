import UriRouting.Pattern.Operator
import UriRouting.Proofs.Pattern.Boundary
import UriRouting.Proofs.Percent.Codec
import UriRouting.Proofs.Template.WellFormed
import UriRouting.Proofs.Text.Fields
import UriRouting.Template.Expansion

/-!
# What operators take from written text

Expansion writes groups `name=value` and segments `/value`.  Whatever it writes, the
operators take again, and they stop where it stopped.

## 1.  Repetition

`repeatedly_append` is the loop: a step that takes one written item and stops behind
the last one takes them all.

## 2.  Written values

The items of a value are encoded and joined by commas.  The result is made of units of
the class of lists (`units_joinItems`), and its fields are the encoded items
(`ofCommaSeparated_joinItems`), since a comma inside an item is escaped.

## 3.  Groups

`takePair_equals` takes a group whose value is known to be taken, and
`takePairs_of_takePair` takes groups one after another.  `takePair_append` and
`takePairs_append` are these for written groups.

## 4.  Segments

`takeSegments_of_takeSegment` takes a segment for each variable, and
`takeSegments_append` the written segments of variables that all have a value.
-/

namespace UriRouting

open CharClass (Units)

/-! ## 1.  Repetition -/

section Repetition

variable {α β : Type} {step : Text → Option (α × Text)}

theorem repeatedly_of_none {text : Text} (h : step text = none) :
    repeatedly step text = ([], text) := by
  rw [repeatedly, h]

theorem repeatedly_of_some {text rest : Text} {a : α} (h : step text = some (a, rest))
    (hlt : rest.length < text.length) :
    repeatedly step text = (a :: (repeatedly step rest).1, (repeatedly step rest).2) := by
  rw [repeatedly, h]
  simp only [if_pos hlt]

/-- What holds behind the last item holds in front of all of them. -/
theorem follows_flatMap {write : β → Text} {follows : Text → Prop} {items : List β}
    (hfollows : ∀ item ∈ items, ∀ rest, follows rest → follows (write item ++ rest))
    {rest : Text} (hrest : follows rest) : follows (items.flatMap write ++ rest) := by
  induction items with
  | nil => exact hrest
  | cons item items ih =>
    obtain ⟨hitem, hitems⟩ := List.forall_mem_cons.1 hfollows
    rw [List.flatMap_cons, List.append_assoc]
    exact hitem _ (ih hitems)

/-- **The loop takes what was written.**  `follows` is what a step needs to know of
the text behind an item; it has to hold behind the last item, and with the text behind
an item for that item too. -/
theorem repeatedly_append {write : β → Text} {read : β → α} (follows : Text → Prop)
    {items : List β} (hwrite : ∀ item ∈ items, write item ≠ [])
    (hfollows : ∀ item ∈ items, ∀ rest, follows rest → follows (write item ++ rest))
    (hstep : ∀ item ∈ items, ∀ rest, follows rest →
      step (write item ++ rest) = some (read item, rest))
    {rest : Text} (hrest : follows rest) (hstop : step rest = none) :
    repeatedly step (items.flatMap write ++ rest) = (items.map read, rest) := by
  induction items with
  | nil => exact repeatedly_of_none hstop
  | cons item items ih =>
    obtain ⟨hne, hwrite⟩ := List.forall_mem_cons.1 hwrite
    obtain ⟨-, hfollows⟩ := List.forall_mem_cons.1 hfollows
    obtain ⟨hitem, hstep⟩ := List.forall_mem_cons.1 hstep
    have hbehind : follows (items.flatMap write ++ rest) := follows_flatMap hfollows hrest
    have hlt : (items.flatMap write ++ rest).length <
        (write item ++ (items.flatMap write ++ rest)).length := by
      have hpos := List.length_pos_iff.2 hne
      have hlength : (write item ++ (items.flatMap write ++ rest)).length =
          (write item).length + (items.flatMap write ++ rest).length := List.length_append
      omega
    rw [List.flatMap_cons, List.append_assoc, repeatedly_of_some (hitem _ hbehind) hlt,
      ih hwrite hfollows hstep, List.map_cons]

end Repetition

/-! ## 2.  Written values -/

theorem units_joined {p : Char → Bool} {sep : Text} {ts : List Text} (hsep : Units p sep)
    (h : ∀ t ∈ ts, Units p t) : Units p (Text.joined sep ts) := by
  induction ts with
  | nil => exact Units.nil
  | cons t ts ih =>
    obtain ⟨ht, hts⟩ := List.forall_mem_cons.1 h
    cases ts with
    | nil =>
      rw [Text.joined_singleton]
      exact ht
    | cons u ts =>
      rw [Text.joined_cons_cons]
      exact (ht.append hsep).append (ih hts)

/-- Encoded items between commas are made of units of every class that admits commas and
holds what the encoding writes. -/
theorem units_joinItems_of {p : Char → Bool} (hcomma : p ',' = true) {encode : Text → Text}
    (hencode : ∀ t, Units p (encode t)) (value : OneOrMany Text) :
    Units p (Template.joinItems encode value) := by
  refine units_joined (Units.char (by decide) hcomma Units.nil) fun t ht => ?_
  obtain ⟨item, -, rfl⟩ := List.mem_map.1 ht
  exact hencode item

/-- A written value is made of unreserved characters, commas and escapes. -/
theorem units_joinItems (value : OneOrMany Text) :
    Units CharClass.unreservedList.admits (Template.joinItems Percent.encode value) :=
  units_joinItems_of rfl (fun item => (Percent.units_encode item).mono
    fun _ hc => CharClass.admits_of_isUnreserved _ hc) value

theorem comma_notMem_encode (t : Text) : ',' ∉ Percent.encode t :=
  CharClass.notMem_of_endsAt (k := .unreserved) (Percent.units_encode t) rfl

/-- The fields of a written value are its encoded items. -/
theorem ofCommaSeparated_joinItems {value : OneOrMany Text} (h : value.items ≠ []) :
    OneOrMany.ofCommaSeparated (Template.joinItems Percent.encode value) =
      .ofItems (value.items.map Percent.encode) := by
  have hfields : Text.fields ',' (Template.joinItems Percent.encode value) =
      value.items.map Percent.encode := by
    refine Text.fields_joined (mt List.map_eq_nil_iff.1 h) fun t ht => ?_
    obtain ⟨item, -, rfl⟩ := List.mem_map.1 ht
    exact comma_notMem_encode item
  rw [OneOrMany.ofCommaSeparated, hfields]

/-- The capture that a variable leaves when its written value is taken. -/
def Capture.written (entry : Variable × OneOrMany Text) : Capture :=
  ⟨entry.1, .ofItems (entry.2.items.map Percent.encode)⟩

/-! ## 3.  Groups -/

/-- A variable of an operator with a value that the operator can write as a group and
find again. -/
structure Operator.Groups (op : Operator) (entry : Variable × OneOrMany Text) : Prop where
  /-- The variable is the one that the operator has of this name. -/
  found : op.variable? entry.1.name = some entry.1
  /-- Its name is a name. -/
  isName : isName entry.1.name = true
  /-- The value has an item. -/
  items_ne_nil : entry.2.items ≠ []

/-- A name is read as far as its characters go. -/
theorem span_name_append {name : Text} (h : isName name = true) {rest : Text}
    (hrest : ∀ c ∈ rest.head?, isNameChar c = false) :
    (name ++ rest).takeWhile isNameChar = name ∧ (name ++ rest).dropWhile isNameChar = rest := by
  have hname : ∀ c ∈ name, isNameChar c = true := fun c hc => isNameChar_of_mem_name h hc
  rw [List.takeWhile_append_of_pos hname, List.dropWhile_append_of_pos hname]
  cases rest with
  | nil => exact ⟨List.append_nil name, rfl⟩
  | cons c rest =>
    have hc : ¬isNameChar c = true := by
      rw [hrest c rfl]
      decide
    rw [List.takeWhile_cons_of_neg hc, List.dropWhile_cons_of_neg hc, List.append_nil]
    exact ⟨rfl, rfl⟩

/-- A group whose lead does not stand in front of the text is not taken. -/
theorem takePair_of_stripLiteral? {op : Operator} {b : Boundary} {lead text : Text}
    (h : stripLiteral? lead text = none) : takePair op b lead text = none := by
  rw [takePair, h]
  rfl

/-- A group with an equals sign takes the value that stands behind the sign. -/
theorem takePair_equals {op : Operator} {v : Variable} (hfound : op.variable? v.name = some v)
    (hname : isName v.name = true) {b : Boundary} {text raw rest : Text}
    (htake : takeValue .unreservedList b 0 [] text = some (raw, rest)) (lead : Text) :
    takePair op b lead (lead ++ (v.name ++ '=' :: text)) =
      some (⟨v, .ofCommaSeparated raw⟩, rest) := by
  have hequals : stripLiteral? ['='] ('=' :: text) = some text := stripLiteral?_append ['='] text
  have hends : ∀ c ∈ ('=' :: text).head?, isNameChar c = false := by
    rintro c ⟨⟩
    rfl
  obtain ⟨hnamed, hbehind⟩ := span_name_append hname hends
  simp only [takePair, stripLiteral?_append, Option.bind_eq_bind, Option.bind_some, hnamed,
    hbehind, hfound, hequals, htake, Option.getD_some]

/-- One written group is taken whole. -/
theorem takePair_append {op : Operator} {entry : Variable × OneOrMany Text}
    (hentry : op.Groups entry) {b : Boundary} (hb : b.isOutside .unreservedList = true)
    {rest : Text} (hrest : CharClass.unreservedList.Stops rest) (lead : Text) :
    takePair op b lead (lead ++ Template.pair entry ++ rest) =
      some (Capture.written entry, rest) := by
  have htake := takePair_equals hentry.found hentry.isName
    (takeValue_append (by decide) (units_joinItems entry.2) hb hrest (Nat.zero_le _)) lead
  rw [ofCommaSeparated_joinItems hentry.items_ne_nil] at htake
  rw [Template.pair, List.append_assoc, List.append_assoc, List.cons_append]
  exact htake

/-- Groups are all taken, whatever stands before the first one and between them, when each
of them is taken in front of what `follows` says of the text behind it. -/
theorem takePairs_of_takePair {β : Type} {op : Operator} {b : Boundary} {write : β → Text}
    {read : β → Capture} (follows : Text → Prop) {next : Text} (hne : next ≠ []) {item : β}
    {items : List β}
    (hfollows : ∀ i ∈ items, ∀ rest, follows rest → follows (next ++ write i ++ rest))
    (hstep : ∀ i ∈ item :: items, ∀ lead rest, follows rest →
      takePair op b lead (lead ++ write i ++ rest) = some (read i, rest))
    {rest : Text} (hrest : follows rest) (hstop : stripLiteral? next rest = none) (first : Text) :
    takePairs op b first next
        (first ++ write item ++ ((items.flatMap fun i => next ++ write i) ++ rest)) =
      ((item :: items).map read, rest) := by
  obtain ⟨hitem, hitems⟩ := List.forall_mem_cons.1 hstep
  have hloop : repeatedly (takePair op b next)
      ((items.flatMap fun i => next ++ write i) ++ rest) = (items.map read, rest) := by
    refine repeatedly_append follows ?_ hfollows ?_ hrest (takePair_of_stripLiteral? hstop)
    · intro i _
      exact List.append_ne_nil_of_left_ne_nil hne _
    · intro i hi
      exact hitems i hi next
  rw [takePairs, hitem first _ (follows_flatMap hfollows hrest)]
  simp only [hloop, List.map_cons]

/-- Written groups are all taken. -/
theorem takePairs_append {op : Operator} {entry : Variable × OneOrMany Text}
    {entries : List (Variable × OneOrMany Text)} (hentries : ∀ e ∈ entry :: entries, op.Groups e)
    {b : Boundary} (hb : b.isOutside .unreservedList = true) {next : Char}
    (hnext : CharClass.unreservedList.endsAt next = true) {rest : Text}
    (hrest : CharClass.unreservedList.Stops rest) (hstop : stripLiteral? [next] rest = none)
    (first : Text) :
    takePairs op b first [next]
        (first ++ Template.pair entry ++
          ((entries.flatMap fun e => [next] ++ Template.pair e) ++ rest)) =
      ((entry :: entries).map Capture.written, rest) := by
  refine takePairs_of_takePair CharClass.unreservedList.Stops (List.cons_ne_nil next []) ?_ ?_
    hrest hstop first
  · intro e _ t _
    exact CharClass.stops_cons hnext _
  · intro e he lead t ht
    exact takePair_append (hentries e he) hb ht lead

/-! ## 4.  Segments -/

/-- A segment takes the value that stands behind the slash. -/
theorem takeSegment_slash {b : Boundary} {text raw rest : Text}
    (htake : takeValue .unreservedList b 1 [] text = some (raw, rest)) :
    takeSegment b ('/' :: text) = some (raw, rest) := by
  have hstrip : stripLiteral? ['/'] ('/' :: text) = some text := stripLiteral?_append ['/'] text
  rw [takeSegment, hstrip]
  exact htake

/-- One written segment is taken whole. -/
theorem takeSegment_append {value : OneOrMany Text}
    (hvalue : Template.joinItems Percent.encode value ≠ []) {b : Boundary}
    (hb : b.isOutside .unreservedList = true) {rest : Text}
    (hrest : CharClass.unreservedList.Stops rest) :
    takeSegment b ('/' :: Template.joinItems Percent.encode value ++ rest) =
      some (Template.joinItems Percent.encode value, rest) :=
  takeSegment_slash (takeValue_append (by decide) (units_joinItems value) hb hrest
    (List.length_pos_iff.2 hvalue))

/-- A segment for each variable is taken, when each value is taken in front of what
`follows` says of the text behind it. -/
theorem takeSegments_of_takeSegment {b : Boundary} (follows : Text → Prop)
    (hfollows : ∀ value rest, follows rest → follows ('/' :: value ++ rest))
    {vs : List Variable} {values : List Text} (hlength : values.length = vs.length)
    (hstep : ∀ value ∈ values, ∀ rest, follows rest →
      takeSegment b ('/' :: value ++ rest) = some (value, rest))
    {rest : Text} (hrest : follows rest) :
    takeSegments b vs (values.flatMap ('/' :: ·) ++ rest) =
      (List.zipWith (fun v value => ⟨v, .ofCommaSeparated value⟩) vs values, rest) := by
  induction values generalizing vs with
  | nil =>
    obtain rfl := List.length_eq_zero_iff.1 hlength.symm
    rfl
  | cons value values ih =>
    obtain ⟨v, vs, rfl⟩ := List.exists_cons_of_length_eq_add_one hlength.symm
    obtain ⟨hvalue, hvalues⟩ := List.forall_mem_cons.1 hstep
    have hbehind : follows (values.flatMap ('/' :: ·) ++ rest) :=
      follows_flatMap (fun value _ => hfollows value) hrest
    rw [List.flatMap_cons, List.append_assoc, takeSegments, hvalue _ hbehind]
    simp only [ih (Nat.succ.inj hlength) hvalues, List.zipWith_cons_cons]

/-- The segments of variables that all have a written value are all taken. -/
theorem takeSegments_append {entries : List (Variable × OneOrMany Text)}
    (hitems : ∀ entry ∈ entries, entry.2.items ≠ [])
    (hwritten : ∀ entry ∈ entries, Template.joinItems Percent.encode entry.2 ≠ [])
    {b : Boundary} (hb : b.isOutside .unreservedList = true) {rest : Text}
    (hrest : CharClass.unreservedList.Stops rest) :
    takeSegments b (entries.map Prod.fst)
        ((entries.flatMap fun entry => '/' :: Template.joinItems Percent.encode entry.2) ++ rest) =
      (entries.map Capture.written, rest) := by
  let written (entry : Variable × OneOrMany Text) : Text :=
    Template.joinItems Percent.encode entry.2
  have htake : takeSegments b (entries.map Prod.fst)
      ((entries.map written).flatMap ('/' :: ·) ++ rest) =
      (List.zipWith (fun v value => ⟨v, .ofCommaSeparated value⟩) (entries.map Prod.fst)
        (entries.map written), rest) := by
    refine takeSegments_of_takeSegment CharClass.unreservedList.Stops ?_ ?_ ?_ hrest
    · intro value t _
      exact CharClass.stops_cons rfl (value ++ t)
    · rw [List.length_map, List.length_map]
    · intro value hvalue t ht
      obtain ⟨entry, hentry, rfl⟩ := List.mem_map.1 hvalue
      exact takeSegment_append (hwritten entry hentry) hb ht
  have hcaptures : List.zipWith (fun v value => (⟨v, .ofCommaSeparated value⟩ : Capture))
      (entries.map Prod.fst) (entries.map written) = entries.map Capture.written := by
    rw [List.zipWith_map, List.zipWith_self]
    refine List.map_congr_left fun entry hentry => ?_
    rw [ofCommaSeparated_joinItems (hitems entry hentry), Capture.written]
  rw [hcaptures, List.flatMap_map] at htake
  exact htake

end UriRouting
