import UriRouting.Proofs.Pattern.Expansion

/-!
# Items with a text of their own between them

The operators `list`, `prefix` and `suffix` write items with a text between, before or
after them, and the pattern chooses that text.  An item ends where the text stands for the
first time; the run of the item itself may well go on over it, since the text may be made
of unreserved characters and escapes.  So all depends on the text not standing inside an
item, and for that it is enough that no item has the first character of the text.

## 1.  Where an item ends

`IsItem stop` are the items that a text can end, and `EndsItem stop` says of what follows
an item that it ends there.  `IsItem.takeValue` takes one item.

## 2.  Separated items

`takeSeparated_joined` takes the items of a list.

## 3.  Decorated items

Of the texts before and after an item one is empty (`Decorates`).  `IsItem.takeItem` takes
an item between them, `repeatedly_takeItem` all items up to the end, and
`takeDecorated_written` the items of several variables, of which only the last one may
have more than one.

## 4.  Operators

`Operator.take_items` says of the three operators that they take what they have written.
-/

namespace UriRouting

open CharClass (Units)
open Template (expandOperator)

/-! ## 1.  Where an item ends -/

/-- An encoded item in which no text that begins like `stop` can stand. -/
structure IsItem (stop t : Text) : Prop where
  /-- The item is not empty. -/
  ne_nil : t ≠ []
  /-- It is made of unreserved characters and escapes. -/
  units : Units CharClass.unreserved.admits t
  /-- The first character of the text does not occur in it. -/
  avoids : ∀ c ∈ stop.head?, c ∉ t

/-- Whether an item ends in front of a text: at the end, or where `stop` stands. -/
def EndsItem (stop rest : Text) : Prop := rest = [] ∨ startsWithLiteral stop rest = true

theorem endsItem_append (stop rest : Text) : EndsItem stop (stop ++ rest) :=
  Or.inr (startsWithLiteral_append stop rest)

/-- **The first occurrence of the text is behind the item**, however far the run of the
item goes on. -/
theorem firstLiteralCut?_item {stop t rest : Text} (hstop : stop ≠ []) (ht : IsItem stop t)
    (hrest : EndsItem stop rest) :
    (firstLiteralCut? stop 1 (CharClass.unreserved.run (t ++ rest)) (t ++ rest)).getD
      (CharClass.unreserved.run (t ++ rest)) = t.length := by
  obtain ⟨c, tail, rfl⟩ := List.exists_cons_of_ne_nil hstop
  have hc : c ∉ t := ht.avoids c rfl
  rw [firstLiteralCut?_eq_head?]
  rcases hrest with rfl | hstarts
  · have hrun : CharClass.unreserved.run (t ++ []) = t.length :=
      CharClass.run_append (by decide) ht.units (CharClass.stops_nil _)
    have hnone : startsWithLiteral (c :: tail) [] = false := by
      rw [startsWithLiteral, stripLiteral?_nil hstop]
      rfl
    rw [hrun, literalCuts_append hc, hnone, if_neg (fun h => Bool.false_ne_true h.2)]
    rfl
  · have hrun : t.length ≤ CharClass.unreserved.run (t ++ rest) := by
      rw [CharClass.run_eq_runOf (by decide), CharClass.runOf_append ht.units]
      exact Nat.le_add_right _ _
    have hmem : t.length ∈ literalCuts (c :: tail) 1 (CharClass.unreserved.run (t ++ rest))
        (t ++ rest) := by
      refine mem_literalCuts.2 ⟨List.length_pos_iff.2 ht.ne_nil, hrun, ?_, ?_⟩
      · rw [List.length_append]
        exact Nat.le_add_right _ _
      · rw [List.drop_left]
        exact hstarts
    obtain ⟨later, hcuts⟩ := exists_eq_cons_of_least (pairwise_literalCuts _ _ _ _) hmem
      fun n hn => length_le_of_startsWithLiteral hc (mem_literalCuts.1 hn).2.2.2
    rw [hcuts]
    rfl

/-- One item is taken up to the text that ends it. -/
theorem IsItem.takeValue {stop t rest : Text} (ht : IsItem stop t) (hstop : stop ≠ [])
    (hrest : EndsItem stop rest) :
    takeValue .unreserved .free 1 stop (t ++ rest) = some (t, rest) := by
  have hnonempty : stop.isEmpty = false := List.isEmpty_eq_false_iff.2 hstop
  have hpos : 1 ≤ t.length := List.length_pos_iff.2 ht.ne_nil
  simp only [UriRouting.takeValue, hnonempty, Bool.false_eq_true, if_false, Boundary.valueEnd,
    firstLiteralCut?_item hstop ht hrest, if_pos hpos, List.take_left, List.drop_left]

theorem takeValue_nil (k : CharClass) (stop : Text) : takeValue k .free 1 stop [] = none := by
  have hrun : k.run [] = 0 := Nat.le_zero.1 (k.run_le_length [])
  have hcut : firstLiteralCut? stop 1 0 [] = none := rfl
  simp only [takeValue, hrun, hcut, Option.getD_none, ite_self, Boundary.valueEnd]
  rfl

/-! ## 2.  Separated items -/

/-- **The items of a list are told apart.** -/
theorem takeSeparated_joined {sep : Text} (hsep : sep ≠ []) {item : Text} {items : List Text}
    (h : ∀ t ∈ item :: items, IsItem sep t) :
    takeSeparated .free sep (Text.joined sep (item :: items)) = (item :: items, []) := by
  obtain ⟨hitem, hitems⟩ := List.forall_mem_cons.1 h
  have hloop : repeatedly
      (fun t => stripLiteral? sep t >>= takeValue .unreserved .free 1 sep)
      (items.flatMap (sep ++ ·) ++ []) = (items.map id, []) := by
    refine repeatedly_append (EndsItem sep) ?_ ?_ ?_ (Or.inl rfl) ?_
    · intro t _ hnil
      exact hsep (List.append_eq_nil_iff.1 hnil).1
    · intro t _ rest _
      rw [List.append_assoc]
      exact endsItem_append sep _
    · intro t ht rest hrest
      rw [List.append_assoc, stripLiteral?_append, Option.bind_eq_bind, Option.bind_some]
      exact (hitems t ht).takeValue hsep hrest
    · rw [stripLiteral?_nil hsep]
      rfl
  rw [List.append_nil, List.map_id] at hloop
  have hends : EndsItem sep (items.flatMap (sep ++ ·)) := by
    cases items with
    | nil => exact Or.inl rfl
    | cons next items =>
      rw [List.flatMap_cons, List.append_assoc]
      exact endsItem_append sep _
  rw [takeSeparated, Text.joined_cons, hitem.takeValue hsep hends]
  simp only [hloop]

/-! ## 3.  Decorated items -/

/-- The texts around an item: `stop` before it and nothing after it, or the other way. -/
def Decorates (stop lead tail : Text) : Prop := lead = stop ∧ tail = [] ∨ lead = [] ∧ tail = stop

section Decorated

variable {stop lead tail : Text}

/-- In front of a decorated item, another one ends. -/
theorem Decorates.endsItem (h : Decorates stop lead tail) (t rest : Text) :
    EndsItem stop (tail ++ (lead ++ t ++ tail ++ rest)) := by
  rcases h with ⟨rfl, rfl⟩ | ⟨rfl, rfl⟩
  · rw [List.nil_append, List.append_assoc, List.append_assoc]
    exact endsItem_append _ _
  · exact endsItem_append _ _

theorem Decorates.endsItem_nil (h : Decorates stop lead tail) : EndsItem stop (tail ++ []) := by
  rcases h with ⟨rfl, rfl⟩ | ⟨rfl, rfl⟩
  · exact Or.inl rfl
  · exact endsItem_append _ _

/-- One decorated item is taken. -/
theorem IsItem.takeItem {t rest : Text} (ht : IsItem stop t) (hstop : stop ≠ [])
    (h : Decorates stop lead tail) (hrest : EndsItem stop (tail ++ rest)) :
    takeItem .free lead tail (lead ++ t ++ tail ++ rest) = some (t, rest) := by
  have hstopEq : (if tail.isEmpty then lead else tail) = stop := by
    rcases h with ⟨rfl, rfl⟩ | ⟨rfl, rfl⟩
    · rfl
    · rw [List.isEmpty_eq_false_iff.2 hstop]
      rfl
  have htext : lead ++ t ++ tail ++ rest = lead ++ (t ++ (tail ++ rest)) := by
    simp only [List.append_assoc]
  rw [htext, UriRouting.takeItem, stripLiteral?_append]
  simp only [Option.bind_eq_bind, Option.bind_some, hstopEq, ht.takeValue hstop hrest,
    stripLiteral?_append]

/-- At the end of a text there is no item. -/
theorem takeItem_end (hstop : stop ≠ []) (h : Decorates stop lead tail) :
    takeItem .free lead tail [] = none := by
  rcases h with ⟨rfl, rfl⟩ | ⟨rfl, rfl⟩
  · rw [UriRouting.takeItem, stripLiteral?_nil hstop]
    rfl
  · rw [UriRouting.takeItem, stripLiteral?]
    simp only [Option.bind_eq_bind, Option.bind_some, takeValue_nil, Option.bind_none]

theorem Decorates.endsItem_flatMap (h : Decorates stop lead tail) (items : List Text) :
    EndsItem stop (tail ++ items.flatMap (lead ++ · ++ tail)) := by
  cases items with
  | nil => exact h.endsItem_nil
  | cons t items =>
    rw [List.flatMap_cons]
    exact h.endsItem t _

/-- The loop takes all decorated items. -/
theorem repeatedly_takeItem (hstop : stop ≠ []) (h : Decorates stop lead tail) {items : List Text}
    (hitems : ∀ t ∈ items, IsItem stop t) :
    repeatedly (takeItem .free lead tail) (items.flatMap (lead ++ · ++ tail)) = (items, []) := by
  have hloop : repeatedly (takeItem .free lead tail) (items.flatMap (lead ++ · ++ tail) ++ []) =
      (items.map id, []) := by
    refine repeatedly_append (fun rest => EndsItem stop (tail ++ rest)) ?_ ?_ ?_ h.endsItem_nil
      (takeItem_end hstop h)
    · intro t ht hnil
      rw [List.append_eq_nil_iff, List.append_eq_nil_iff] at hnil
      exact (hitems t ht).ne_nil hnil.1.2
    · exact fun t _ rest _ => h.endsItem t rest
    · exact fun t ht rest hrest => (hitems t ht).takeItem hstop h hrest
  rw [List.append_nil, List.map_id] at hloop
  exact hloop

end Decorated

/-! ## 4.  Operators -/

/-- The operators that write items with a given text between, before or after them. -/
def itemForms (stop : Text) : List OperatorForm := [.list stop, .prefixed stop, .suffixed stop]

/-- Parameters that give the variables of such an operator values that can be told apart:
the last variable may have a list, every other one has a single text. -/
structure Parameters.FillItems (params : Parameters) (vs : List Variable) (stop : Text) :
    Prop where
  /-- Every variable has a value. -/
  defined : ∀ v ∈ vs, ∃ value, params.lookup v = some value
  /-- A variable before the last one has a single text. -/
  single : ∀ v ∈ vs.dropLast, ∃ t, params.lookup v = some (.one t)
  /-- No text is empty. -/
  ne_nil : ∀ v ∈ vs, ∀ value, params.lookup v = some value → ∀ t ∈ value.items, t ≠ []
  /-- No encoded text has the first character of `stop`. -/
  avoids : ∀ v ∈ vs, ∀ value, params.lookup v = some value → ∀ t ∈ value.items,
    ∀ c ∈ stop.head?, c ∉ Percent.encode t

section Operators

variable {op : Operator} {params : Parameters} {stop lead tail : Text}

/-- The encoded texts of a value. -/
def writtenItems (entry : Variable × OneOrMany Text) : List Text :=
  entry.2.items.map Percent.encode

/-- Written items are items that the text ends. -/
theorem Parameters.FillItems.isItem (h : params.FillItems op.vars stop) :
    ∀ entry ∈ params.defined op.vars, ∀ t ∈ writtenItems entry, IsItem stop t := by
  intro entry hentry t ht
  obtain ⟨hmem, hlookup⟩ := Parameters.mem_defined.1 hentry
  obtain ⟨item, hitem, rfl⟩ := List.mem_map.1 ht
  exact ⟨Percent.encode_ne_nil (h.ne_nil _ hmem _ hlookup item hitem), Percent.units_encode item,
    h.avoids _ hmem _ hlookup item hitem⟩

/-- The last variable takes what the loop takes. -/
theorem takeDecorated_singleton {b : Boundary} {text rest : Text} {items : List Text}
    (h : repeatedly (takeItem b lead tail) text = (items, rest)) (hitems : items ≠ [])
    (v : Variable) :
    takeDecorated b lead tail [v] text = ([⟨v, .ofItems items⟩], rest) := by
  obtain ⟨item, items, rfl⟩ := List.exists_cons_of_ne_nil hitems
  rw [takeDecorated, h]

/-- A variable before the last one takes one item. -/
theorem takeDecorated_cons_cons {b : Boundary} {text rest : Text} {item : Text}
    (h : takeItem b lead tail text = some (item, rest)) (v w : Variable) (vs : List Variable) :
    takeDecorated b lead tail (v :: w :: vs) text =
      (⟨v, .one item⟩ :: (takeDecorated b lead tail (w :: vs) rest).1,
        (takeDecorated b lead tail (w :: vs) rest).2) := by
  rw [takeDecorated, h]
  rintro ⟨⟩

/-- **The decorated items of several variables are told apart** if every variable but the
last one has a single item. -/
theorem takeDecorated_written (hstop : stop ≠ []) (h : Decorates stop lead tail)
    {entries : List (Variable × OneOrMany Text)}
    (hitems : ∀ entry ∈ entries, ∀ t ∈ writtenItems entry, IsItem stop t)
    (hne : ∀ entry ∈ entries, entry.2.items ≠ [])
    (hsingle : ∀ entry ∈ entries.dropLast, ∃ t, entry.2 = .one t) :
    takeDecorated .free lead tail (entries.map Prod.fst)
        ((entries.flatMap writtenItems).flatMap (lead ++ · ++ tail)) =
      (entries.map Capture.written, []) := by
  induction entries with
  | nil => rfl
  | cons entry entries ih =>
    obtain ⟨hitem, hitems⟩ := List.forall_mem_cons.1 hitems
    obtain ⟨hentry, hne⟩ := List.forall_mem_cons.1 hne
    cases entries with
    | nil =>
      rw [List.flatMap_singleton]
      exact takeDecorated_singleton (repeatedly_takeItem hstop h hitem)
        (mt List.map_eq_nil_iff.1 hentry) entry.1
    | cons next entries =>
      rw [List.dropLast_cons_cons, List.forall_mem_cons] at hsingle
      obtain ⟨⟨t, ht⟩, hsingle⟩ := hsingle
      have hwritten : writtenItems entry = [Percent.encode t] := by
        rw [writtenItems, ht]
        rfl
      have htake := (hitem (Percent.encode t) (hwritten ▸ List.mem_singleton_self _)).takeItem
        hstop h (h.endsItem_flatMap ((next :: entries).flatMap writtenItems))
      have hrest := ih hitems hne hsingle
      rw [List.map_cons] at hrest
      have hcapture : Capture.written entry = ⟨entry.1, .one (Percent.encode t)⟩ := by
        rw [Capture.written, ht]
        rfl
      rw [List.flatMap_cons, hwritten, List.singleton_append, List.flatMap_cons, List.map_cons,
        List.map_cons, takeDecorated_cons_cons htake, hrest, ← hcapture]
      rfl

/-- The operator `list` takes the items that it has written. -/
theorem take_writtenList (hstop : stop ≠ []) (hform : op.form = .list stop) (hop : op.WellFormed)
    (h : params.FillItems op.vars stop) :
    op.take .free (expandOperator op params) =
      ((params.defined op.vars).map Capture.written, []) := by
  have hlength : op.vars.length = 1 := hop.single (by rw [hform]; rfl)
  obtain ⟨v, hvars⟩ := List.length_eq_one_iff.1 hlength
  obtain ⟨value, hlookup⟩ := h.defined v (hvars ▸ List.mem_singleton_self v)
  have hdefined : params.defined op.vars = [(v, value)] := by
    rw [hvars, Parameters.defined_singleton hlookup]
  have hitems := h.isItem
  rw [hdefined, List.forall_mem_singleton] at hitems
  obtain ⟨item, items, hcons⟩ := List.exists_cons_of_ne_nil
    (mt List.map_eq_nil_iff.1 (Parameters.items_ne_nil_of_lookup hlookup) :
      writtenItems (v, value) ≠ [])
  have htake := takeSeparated_joined hstop (hcons ▸ hitems)
  have hcapture : Capture.written (v, value) = ⟨v, .ofItems (item :: items)⟩ := by
    rw [← hcons]
    rfl
  have htext : expandOperator op params = Text.joined stop (item :: items) := by
    simp only [expandOperator, hform, hdefined, List.flatMap_singleton]
    exact congrArg _ hcons
  rw [htext, hdefined, List.map_singleton, hcapture]
  simp only [Operator.take, hform, htake, hvars]

/-- The operators `prefix` and `suffix` take the items that they have written. -/
theorem take_writtenDecorated (hstop : stop ≠ [])
    (hform : op.form = .prefixed stop ∨ op.form = .suffixed stop)
    (h : params.FillItems op.vars stop) :
    op.take .free (expandOperator op params) =
      ((params.defined op.vars).map Capture.written, []) := by
  have hvars : (params.defined op.vars).map Prod.fst = op.vars :=
    Parameters.map_fst_defined h.defined
  have hne : ∀ entry ∈ params.defined op.vars, entry.2.items ≠ [] :=
    fun entry hentry => Parameters.items_ne_nil_of_lookup (Parameters.mem_defined.1 hentry).2
  have hsingle : ∀ entry ∈ (params.defined op.vars).dropLast, ∃ t, entry.2 = .one t := by
    intro entry hentry
    have hlast : entry.1 ∈ op.vars.dropLast := by
      rw [← hvars, ← List.map_dropLast]
      exact List.mem_map_of_mem hentry
    obtain ⟨t, ht⟩ := h.single _ hlast
    obtain ⟨-, hlookup⟩ := Parameters.mem_defined.1 (List.dropLast_subset _ hentry)
    exact ⟨t, Option.some.inj (hlookup.symm.trans ht)⟩
  rcases hform with hform | hform
  · have htake := takeDecorated_written hstop (Or.inl ⟨rfl, rfl⟩) h.isItem hne hsingle
    simp only [List.append_nil, hvars] at htake
    simp only [Operator.take, expandOperator, hform]
    exact htake
  · have htake := takeDecorated_written hstop (Or.inr ⟨rfl, rfl⟩) h.isItem hne hsingle
    simp only [List.nil_append, hvars] at htake
    simp only [Operator.take, expandOperator, hform]
    exact htake

/-- **Operators with a text of their own take what they have written.** -/
theorem Operator.take_items (hstop : stop ≠ []) (hform : op.form ∈ itemForms stop)
    (hop : op.WellFormed) (h : params.FillItems op.vars stop) :
    op.take .free (expandOperator op params) =
      ((params.defined op.vars).map Capture.written, []) := by
  simp only [itemForms, List.mem_cons, List.not_mem_nil, or_false] at hform
  rcases hform with hform | hform
  · exact take_writtenList hstop hform hop h
  · exact take_writtenDecorated hstop hform h

end Operators

end UriRouting
