import UriRouting.Proofs.Pattern.Allowed
import UriRouting.Proofs.Pattern.Expansion
import UriRouting.Proofs.Template.RoundTrip

/-!
# Operators at the end of a pattern

An operator that comes last in a pattern, or last but for a literal, takes the segments
and the groups that stand in a URI, whoever wrote them.  A value belongs to a run that
may go on into the closing literal, and the literal may occur in the value; it is the
length of what is left that says where the literal has to begin.

## 1.  Closing texts

`Boundary.ClosedBy`: the boundary at the end of a pattern, and the text that closes a URI
there.  `takeValue_closed` takes a value in front of further groups, whose lead stops the
run before the literal is due, and in front of the closing text, where it is due.

## 2.  Segments

`takeSegments_closed` takes a segment for each variable.

## 3.  Groups

An `Assignment` is a variable with the value that its group has, if the group has an
equals sign.  `takePairs_closed` takes the groups of `;` and `?`, in any order and any
number.

## 4.  Patterns

`Pattern.match?_of_take` puts the literal in front.  `Pattern.match?_segments` and
`Pattern.match?_assignments` are the two kinds of operators at the end of a pattern, and
`Pattern.match?_closingLiteral` is both of them before a literal.
-/

namespace UriRouting

open CharClass (Units)

/-! ## 1.  Closing texts -/

/-- The boundary at the end of a pattern, with the text that has to stand at the end of a
URI for it. -/
inductive Boundary.ClosedBy : Boundary → Text → Prop where
  /-- The pattern ends. -/
  | nothing : ClosedBy .free []
  /-- A literal closes the pattern. -/
  | literal (lit : Text) : ClosedBy (.literal lit true) lit

/-- The tokens of a closing literal, if there is one, set such a boundary. -/
theorem closedBy_before (close : Option Text) :
    (Boundary.before (close.toList.map .literal)).ClosedBy (close.getD []) := by
  cases close with
  | none => exact .nothing
  | some lit => exact .literal lit

/-- The text behind a value: the closing text, perhaps behind something that a lead opens. -/
def Behind (lead : Char) (close rest : Text) : Prop :=
  ∃ before, rest = before ++ close ∧ ∀ c ∈ before.head?, c = lead

theorem behind_close (lead : Char) (close : Text) : Behind lead close close :=
  ⟨[], rfl, fun _ hc => absurd hc (Option.not_mem_none _)⟩

theorem Behind.cons {lead : Char} {close rest : Text} (h : Behind lead close rest) (text : Text) :
    Behind lead close (lead :: text ++ rest) := by
  obtain ⟨before, rfl, -⟩ := h
  refine ⟨lead :: text ++ before, (List.append_assoc _ _ _).symm, ?_⟩
  rintro c ⟨⟩
  rfl

/-- A closing literal ends a value where the rest of the URI has its length, if the run
goes on that far. -/
theorem Boundary.valueEnd_closing (lit text : Text) (least run : Nat) :
    (literal lit true).valueEnd least run (text ++ lit) =
      if text.length ≤ run then text.length else run := by
  have hstart : (text ++ lit).length - lit.length = text.length := by
    rw [List.length_append, Nat.add_sub_cancel]
  have hstands : startsWithLiteral lit lit = true := by
    have happend := startsWithLiteral_append lit []
    rwa [List.append_nil] at happend
  have hlength : lit.length ≤ (text ++ lit).length := by
    rw [List.length_append]
    exact Nat.le_add_left _ _
  simp only [valueEnd, hstart, List.drop_left, hstands, hlength, and_true, true_and]

/-- **A closing text cuts the last value and no other.**  The value is taken whole, however
often the text occurs in it. -/
theorem takeValue_closed {b : Boundary} {close : Text} (hb : b.ClosedBy close) {w : Text}
    (hw : Units CharClass.unreservedList.admits w) {lead : Char}
    (hlead : CharClass.unreservedList.endsAt lead = true) {rest : Text}
    (hrest : Behind lead close rest) {least : Nat} (hleast : least ≤ w.length) :
    takeValue .unreservedList b least [] (w ++ rest) = some (w, rest) := by
  obtain ⟨before, rfl, hbefore⟩ := hrest
  cases hb with
  | nothing =>
    refine takeValue_append (by decide) hw rfl (fun c hc => ?_) hleast
    rw [List.append_nil] at hc
    rw [hbefore c hc]
    exact hlead
  | literal =>
    have hend : (Boundary.literal close true).valueEnd least
        (CharClass.unreservedList.run (w ++ (before ++ close))) (w ++ (before ++ close)) =
        w.length := by
      rw [← List.append_assoc, Boundary.valueEnd_closing, List.append_assoc]
      cases before with
      | nil =>
        -- the run may go on into the literal, which is due behind the value
        have hrun : CharClass.unreservedList.run (w ++ ([] ++ close)) =
            w.length + CharClass.unreservedList.run close := CharClass.runOf_append hw close
        rw [hrun, List.append_nil, if_pos (Nat.le_add_right _ _)]
      | cons c before =>
        -- the lead stops the run before the literal is due
        obtain rfl : c = lead := hbefore c rfl
        have hrun := CharClass.run_append (by decide) hw
          (CharClass.stops_cons hlead (before ++ close))
        rw [List.cons_append, hrun, List.length_append, List.length_cons]
        rw [if_neg (by omega)]
    simp only [takeValue, List.isEmpty_nil, if_true, hend, if_pos hleast, List.take_left,
      List.drop_left]

/-! ## 2.  Segments -/

/-- A segment for each variable is taken, and the closing text is left. -/
theorem takeSegments_closed {b : Boundary} {close : Text} (hb : b.ClosedBy close)
    {vs : List Variable} {values : List Text} (hlength : values.length = vs.length)
    (hvalues : ∀ value ∈ values, value ≠ [] ∧ Units CharClass.unreservedList.admits value) :
    takeSegments b vs (values.flatMap ('/' :: ·) ++ close) =
      (Operator.segmentCaptures vs values, close) := by
  refine takeSegments_of_takeSegment (Behind '/' close) ?_ hlength ?_ (behind_close '/' close)
  · intro value rest hrest
    exact hrest.cons value
  · intro value hvalue rest hrest
    obtain ⟨hne, hunits⟩ := hvalues value hvalue
    exact takeSegment_slash (takeValue_closed hb hunits (by decide) hrest
      (List.length_pos_iff.2 hne))

/-! ## 3.  Groups -/

/-- A variable with the value that a group gives it.  Without a value, the group is the
name alone. -/
structure Assignment where
  /-- The variable. -/
  var : Variable
  /-- What stands behind the equals sign, if there is one. -/
  value : Option Text
  deriving DecidableEq, Repr

namespace Assignment

/-- An assignment as a group of a URI. -/
def text (a : Assignment) : Text := a.var.name ++ a.value.elim [] ('=' :: ·)

/-- The capture of an assignment: its value split at the commas. -/
def capture (a : Assignment) : Capture := ⟨a.var, .ofCommaSeparated (a.value.getD [])⟩

/-- The variable is one of the given ones, and the value is made of unreserved characters,
commas and escapes. -/
structure Fits (vs : List Variable) (a : Assignment) : Prop where
  /-- The variable is one of the given ones. -/
  mem : a.var ∈ vs
  /-- The value, if there is one, can be taken by an operator. -/
  units : ∀ value ∈ a.value, Units CharClass.unreservedList.admits value

theorem fits_iff {vs : List Variable} {a : Assignment} :
    a.Fits vs ↔
      a.var ∈ vs ∧ ∀ value ∈ a.value, Units CharClass.unreservedList.admits value :=
  ⟨fun h => ⟨h.mem, h.units⟩, fun h => ⟨h.1, h.2⟩⟩

instance (vs : List Variable) (a : Assignment) : Decidable (a.Fits vs) :=
  decidable_of_iff _ fits_iff.symm

/-- Assignments one after another, `first` in front of the first of them and `next` in
front of the others. -/
def textOf (first next : Char) (as : List Assignment) : Text :=
  first :: Text.joined [next] (as.map text)

theorem textOf_cons (first next : Char) (a : Assignment) (as : List Assignment) :
    textOf first next (a :: as) = first :: a.text ++ as.flatMap (fun a => next :: a.text) := by
  rw [textOf, List.map_cons, Text.joined_cons, List.flatMap_map]
  rfl

end Assignment

/-- The characters in front of the first group of an operator and in front of the
others. -/
def OperatorForm.leads? : OperatorForm → Option (Char × Char)
  | pathParameters => some (';', ';')
  | queryParameters => some ('?', '&')
  | _ => none

theorem OperatorForm.leads?_eq_some_iff {form : OperatorForm} {first next : Char} :
    form.leads? = some (first, next) ↔
      (form = .pathParameters ∧ first = ';' ∧ next = ';') ∨
        (form = .queryParameters ∧ first = '?' ∧ next = '&') := by
  cases form <;> simp [leads?, eq_comm]

section Groups

variable {op : Operator} {first next : Char} {b : Boundary} {close : Text}

theorem take_of_leads? (h : op.form.leads? = some (first, next)) (b : Boundary) (text : Text) :
    op.take b text = takePairs op b [first] [next] text := by
  rcases OperatorForm.leads?_eq_some_iff.1 h with ⟨hform, rfl, rfl⟩ | ⟨hform, rfl, rfl⟩
  · rw [Operator.take, hform]
  · rw [Operator.take, hform]

/-- What stands in front of a further group is no part of a value, of a name or of an equals
sign. -/
theorem leads?_next (h : op.form.leads? = some (first, next)) :
    CharClass.unreservedList.endsAt next = true ∧ isNameChar next = false ∧ next ≠ '=' := by
  rcases OperatorForm.leads?_eq_some_iff.1 h with ⟨-, -, rfl⟩ | ⟨-, -, rfl⟩
  · decide
  · decide

/-- A group without an equals sign is taken at the end of a URI and in front of a further
group. -/
theorem takePair_bare {v : Variable} (hfound : op.variable? v.name = some v)
    (hname : isName v.name = true) (hnext : isNameChar next = false) (hequals : next ≠ '=')
    {rest : Text} (hrest : Behind next [] rest) (lead : Text) :
    takePair op b lead (lead ++ (v.name ++ rest)) = some (⟨v, .one []⟩, rest) := by
  obtain ⟨before, rfl, hbefore⟩ := hrest
  have hends : ∀ c ∈ before.head?, isNameChar c = false := fun c hc => hbefore c hc ▸ hnext
  have hstrip : stripLiteral? ['='] before = none :=
    stripLiteral?_of_head? (fun hhead => hequals (hbefore '=' hhead).symm) []
  obtain ⟨hnamed, hbehind⟩ := span_name_append hname hends
  simp only [takePair, stripLiteral?_append, Option.bind_eq_bind, Option.bind_some,
    List.append_nil, hnamed, hbehind, hfound, hstrip]

/-- One group is taken whole, a group without an equals sign only if nothing closes the
pattern. -/
theorem takePair_assignment (hop : op.WellFormed) (hleads : op.form.leads? = some (first, next))
    {a : Assignment} (ha : a.Fits op.vars) (hb : b.ClosedBy close)
    (hbare : a.value = none → close = []) {rest : Text} (hrest : Behind next close rest)
    (lead : Text) :
    takePair op b lead (lead ++ (a.text ++ rest)) = some (a.capture, rest) := by
  obtain ⟨hends, hnext, hequals⟩ := leads?_next hleads
  have hfound : op.variable? a.var.name = some a.var := Operator.found_of_mem hop.distinct ha.mem
  have hname : isName a.var.name = true := (hop.vars a.var ha.mem).name
  obtain ⟨v, value⟩ := a
  cases value with
  | none =>
    obtain rfl := hbare rfl
    rw [Assignment.text, Option.elim_none, List.append_nil]
    exact takePair_bare hfound hname hnext hequals hrest lead
  | some value =>
    have htake := takeValue_closed hb (ha.units value rfl) hends hrest (Nat.zero_le _)
    rw [Assignment.text, Option.elim_some, List.append_assoc, List.cons_append]
    exact takePair_equals hfound hname htake lead

/-- **All groups are taken**, and the closing text is left. -/
theorem takePairs_closed (hop : op.WellFormed) (hleads : op.form.leads? = some (first, next))
    {as : List Assignment} (hne : as ≠ []) (hfits : ∀ a ∈ as, a.Fits op.vars)
    (hb : b.ClosedBy close) (hbare : ∀ a ∈ as, a.value = none → close = [])
    (hclose : close.head? ≠ some next) :
    takePairs op b [first] [next] (Assignment.textOf first next as ++ close) =
      (as.map Assignment.capture, close) := by
  obtain ⟨a, as, rfl⟩ := List.exists_cons_of_ne_nil hne
  rw [Assignment.textOf_cons, List.append_assoc]
  show takePairs op b [first] [next]
    ([first] ++ a.text ++ ((as.flatMap fun a => [next] ++ a.text) ++ close)) = _
  refine takePairs_of_takePair (Behind next close) (List.cons_ne_nil next []) ?_ ?_
    (behind_close next close) (stripLiteral?_of_head? hclose []) [first]
  · intro a _ rest hrest
    exact hrest.cons a.text
  · intro a ha lead rest hrest
    rw [List.append_assoc]
    exact takePair_assignment hop hleads (hfits a ha) hb (hbare a ha) hrest lead

end Groups

/-! ## 4.  Patterns -/

namespace Pattern

variable {p : Pattern} {lits : List Text} {op : Operator} {close : Option Text}

/-- Such a pattern matches if the operator leaves the closing text. -/
theorem match?_of_take
    (htokens : p.tokens = lits.map .literal ++ .operator op :: close.toList.map .literal)
    (hform : op.form ≠ .reserved) {text : Text} {captures : List Capture}
    (htake : op.take (Boundary.before (close.toList.map .literal)) (text ++ close.getD []) =
      (captures, close.getD [])) :
    p.match? (lits.flatten ++ (text ++ close.getD [])) =
      some ⟨captures, lits.flatten.length + (close.getD []).length⟩ := by
  have hgreedy : (Token.operator op).isGreedy = false := beq_eq_false_iff_ne.2 hform
  have hneighbours : hasGreedyNeighbours
      (.operator op :: close.toList.map .literal) = false := by
    refine hasGreedyNeighbours_cons_iff.2 ⟨fun h => ?_, ?_⟩
    · rw [hgreedy] at h
      cases h
    · cases close <;> rfl
  have hclosing : walk (close.toList.map .literal) (close.getD []) =
      some ⟨[], (close.getD []).length⟩ := by
    cases close with
    | none => rfl
    | some lit =>
      have hlit := walk_literal_append lit (show walk [] [] = some .empty from rfl)
      rw [List.append_nil] at hlit
      exact hlit
  have hwalk : walk (.operator op :: close.toList.map .literal) (text ++ close.getD []) =
      some ⟨captures, (close.getD []).length⟩ := by
    rw [walk, if_neg (by rw [beq_eq_false_iff_ne.2 hform]; decide), htake]
    simp only [hclosing, Option.map_some, Match.withCaptures, List.append_nil]
  rw [match?_literals_append htokens hneighbours, hwalk, Option.map_some, foldr_withLiteral]

/-- Segments for all variables of the last operator are captured. -/
theorem match?_segments
    (htokens : p.tokens = lits.map .literal ++ .operator op :: close.toList.map .literal)
    (hform : op.form = .pathSegments) {values : List Text}
    (hlength : values.length = op.vars.length)
    (hvalues : ∀ value ∈ values, value ≠ [] ∧ Units CharClass.unreservedList.admits value) :
    p.match? (lits.flatten ++ (values.flatMap ('/' :: ·) ++ close.getD [])) =
      some ⟨Operator.segmentCaptures op.vars values,
        lits.flatten.length + (close.getD []).length⟩ := by
  refine match?_of_take htokens (by rw [hform]; decide) ?_
  rw [Operator.take, hform]
  exact takeSegments_closed (closedBy_before close) hlength hvalues

/-- Groups for some variables of the last operator are captured. -/
theorem match?_assignments
    (htokens : p.tokens = lits.map .literal ++ .operator op :: close.toList.map .literal)
    {first next : Char} (hleads : op.form.leads? = some (first, next)) {as : List Assignment}
    (hne : as ≠ []) (hfits : ∀ a ∈ as, a.Fits op.vars)
    (hbare : ∀ a ∈ as, a.value = none → close.getD [] = [])
    (hclose : (close.getD []).head? ≠ some next) :
    p.match? (lits.flatten ++ (Assignment.textOf first next as ++ close.getD [])) =
      some ⟨as.map Assignment.capture, lits.flatten.length + (close.getD []).length⟩ := by
  refine match?_of_take htokens (fun hform => ?_) ?_
  · rw [hform] at hleads
    cases hleads
  · rw [take_of_leads? hleads]
    exact takePairs_closed (Template.wellFormed_of_tokens_eq htokens) hleads hne hfits
      (closedBy_before close) hbare hclose

/-- **An operator before a closing literal takes exactly its values.**  Each segment is
captured for its variable, and each group for the variable that it names, even if the last
value holds the literal or the literal goes on as a value would.  Only behind groups may
the literal not begin as a further group does. -/
theorem match?_closingLiteral {b : Text}
    (htokens : p.tokens = lits.map .literal ++ [.operator op, .literal b]) :
    (op.form = .pathSegments → ∀ values : List Text, values.length = op.vars.length →
      (∀ value ∈ values, value ≠ [] ∧ Units CharClass.unreservedList.admits value) →
      p.match? (lits.flatten ++ (values.flatMap ('/' :: ·) ++ b)) =
        some ⟨Operator.segmentCaptures op.vars values, lits.flatten.length + b.length⟩) ∧
    ∀ first next, op.form.leads? = some (first, next) → b.head? ≠ some next →
      ∀ as : List Assignment, as ≠ [] → (∀ a ∈ as, a.Fits op.vars ∧ a.value.isSome = true) →
      p.match? (lits.flatten ++ (Assignment.textOf first next as ++ b)) =
        some ⟨as.map Assignment.capture, lits.flatten.length + b.length⟩ := by
  have hclosed : p.tokens =
      lits.map .literal ++ .operator op :: (some b).toList.map .literal := htokens
  constructor
  · intro hform values hlength hvalues
    exact match?_segments hclosed hform hlength hvalues
  · intro first next hleads hb as hne has
    refine match?_assignments hclosed hleads hne (fun a ha => (has a ha).1) (fun a ha h => ?_) hb
    obtain ⟨-, hvalue⟩ := has a ha
    rw [h] at hvalue
    cases hvalue

/-- The literal is a text that a value may hold, the last values hold it, and a value is
empty. -/
theorem match?_closingLiteral_inValue :
    ∃ segments groups : Pattern,
      segments.source = "/r\x7b/a,b\x7d.x".toList ∧ groups.source = "\x7b?q,r\x7d.x".toList ∧
      segments.match? "/r/u.x/v,%2Ex.x.x".toList =
        some ⟨[⟨⟨['a'], none, none⟩, .one "u.x".toList⟩,
          ⟨⟨['b'], none, none⟩, .many [['v'], "%2Ex.x".toList]⟩], 4⟩ ∧
      groups.match? "?q=.x&r=&q=a,.x.x".toList =
        some ⟨[⟨⟨['q'], none, none⟩, .one ".x".toList⟩, ⟨⟨['r'], none, none⟩, .one []⟩,
          ⟨⟨['q'], none, none⟩, .many [['a'], ".x".toList]⟩], 2⟩ := by
  let q : Variable := ⟨['q'], none, none⟩
  let r : Variable := ⟨['r'], none, none⟩
  let path : Operator := ⟨.pathSegments, [⟨['a'], none, none⟩, ⟨['b'], none, none⟩]⟩
  let query : Operator := ⟨.queryParameters, [q, r]⟩
  let segments : Pattern := ⟨⟨"/r\x7b/a,b\x7d.x".toList,
    [.literal ['/', 'r'], .operator path, .literal ['.', 'x']], by rfl⟩⟩
  let groups : Pattern := ⟨⟨"\x7b?q,r\x7d.x".toList,
    [.operator query, .literal ['.', 'x']], by rfl⟩⟩
  let as : List Assignment :=
    [⟨q, some ['.', 'x']⟩, ⟨r, some []⟩, ⟨q, some ['a', ',', '.', 'x']⟩]
  have hvalues : ∀ value ∈ ["u.x".toList, "v,%2Ex.x".toList],
      value ≠ [] ∧ Units CharClass.unreservedList.admits value := by decide +kernel
  have has : ∀ a ∈ as, a.Fits query.vars ∧ a.value.isSome = true := by decide +kernel
  have hpath : segments.tokens =
      [['/', 'r']].map .literal ++ [.operator path, .literal ['.', 'x']] := rfl
  have hquery : groups.tokens = [].map .literal ++ [.operator query, .literal ['.', 'x']] := rfl
  obtain ⟨hsegments, -⟩ := match?_closingLiteral hpath
  obtain ⟨-, hgroups⟩ := match?_closingLiteral hquery
  exact ⟨segments, groups, rfl, rfl, hsegments rfl _ rfl hvalues,
    hgroups '?' '&' rfl (by decide) as (by decide) has⟩

end Pattern
end UriRouting
