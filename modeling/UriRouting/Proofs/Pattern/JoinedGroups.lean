import UriRouting.Proofs.Pattern.Cut
import UriRouting.Proofs.Pattern.Expansion

/-!
# Groups with a separator of their own

The operator `join` takes groups `name=value` with a separator between them that the
pattern chooses.  A value ends where its run does, and the operator does not look for
the separator inside the run.  So the groups are told apart if no separator can be read
on as a part of the value before it, and otherwise they are not.

## 1.  One group

`takePair_append_run`: a group is taken together with whatever part of the text behind it
belongs to the run of its value.

## 2.  Behind a run

`stripLiteral?_drop_run`: where a separator has been read as a part of a value, it does
not stand once more behind that value, and something is left there.

## 3.  All groups

If every separator shows, the loop takes every group (`repeatedly_joined`); if one does
not, the loop ends behind it with something left (`repeatedly_joined_ne_nil`).

## 4.  Patterns that end with the operator

`walk_join` reduces the walk over a last operator to what the operator takes.
-/

namespace UriRouting

open CharClass (Units runOf)
open Template (joinItems pair)

/-! ## 1.  One group -/

/-- The number of characters that a value goes on for into the text behind it. -/
abbrev valueRun (text : Text) : Nat := CharClass.unreservedList.run text

/-- A group takes its value and whatever the run of the value goes on for. -/
theorem takePair_append_run {op : Operator} {entry : Variable × OneOrMany Text}
    (hentry : op.Groups entry) (lead rest : Text) :
    takePair op .free lead (lead ++ pair entry ++ rest) =
      some (⟨entry.1, .ofCommaSeparated
          (joinItems Percent.encode entry.2 ++ rest.take (valueRun rest))⟩,
        rest.drop (valueRun rest)) := by
  let value := joinItems Percent.encode entry.2
  have htake : takeValue .unreservedList .free 0 [] (value ++ rest) =
      some (value ++ rest.take (valueRun rest), rest.drop (valueRun rest)) := by
    have hrun : valueRun (value ++ rest) = value.length + valueRun rest :=
      CharClass.runOf_append (units_joinItems entry.2) rest
    have hwhole : takeValue .unreservedList .free 0 [] (value ++ rest) =
        some ((value ++ rest).take (valueRun (value ++ rest)),
          (value ++ rest).drop (valueRun (value ++ rest))) := rfl
    rw [hwhole, hrun, List.take_length_add_append, List.drop_length_add_append]
  rw [pair, List.append_assoc, List.append_assoc, List.cons_append]
  exact takePair_equals hentry.found hentry.isName htake lead

/-! ## 2.  Behind a run -/

/-- A run of values does not go on over an equals sign. -/
theorem valueRun_le_of_equals (before rest : Text) :
    valueRun (before ++ '=' :: rest) ≤ before.length := by
  by_contra hlt
  have htake : Units CharClass.unreservedList.admits
      ((before ++ '=' :: rest).take (valueRun (before ++ '=' :: rest))) :=
    CharClass.units_take_of_le_runOf (Nat.le_refl _)
      (CharClass.unreservedList.startsWithHexDigit_drop_run _)
  have hequals : '=' ∈ (before ++ '=' :: rest).take (valueRun (before ++ '=' :: rest)) := by
    rw [List.mem_take_iff_getElem]
    refine ⟨before.length, ?_, by simp⟩
    rw [List.length_append, List.length_cons]
    omega
  exact CharClass.notMem_of_endsAt htake rfl hequals

/-- A text that begins with a literal opens an escape if the literal does. -/
theorem opensEscape_of_startsWithLiteral {lit text : Text} (hopen : opensEscape lit = true)
    (h : startsWithLiteral lit text = true) : opensEscape text = true := by
  obtain ⟨piece, rest, rfl, hpiece⟩ := startsWithLiteral_iff.1 h
  rw [← opensEscape_upperEscapes, ← hpiece, opensEscape_upperEscapes] at hopen
  obtain ⟨x, y, tail, rfl, hx, hy⟩ := exists_of_opensEscape hopen
  exact opensEscape_escape hx hy _

/-- What is left of a group from its name on does not begin with `%`. -/
theorem append_equals_ne {name : Text} (hname : '%' ∉ name) (rest others : Text) :
    name ++ '=' :: rest ≠ '%' :: others := by
  intro heq
  cases name with
  | nil => exact absurd (List.cons.inj heq).1 (by decide)
  | cons c name =>
    rw [(List.cons.inj heq).1] at hname
    exact hname List.mem_cons_self

/-- **A separator that was read as part of a value does not follow that value.**  The run
would have gone on over it. -/
theorem stripLiteral?_drop_run {sep name rest : Text} (hsep : sep ≠ [])
    (hname : isName name = true) (hrun : valueRun (sep ++ (name ++ '=' :: rest)) ≠ 0) :
    stripLiteral? sep ((sep ++ (name ++ '=' :: rest)).drop
      (valueRun (sep ++ (name ++ '=' :: rest)))) = none := by
  generalize hbehind : (sep ++ (name ++ '=' :: rest)).drop
    (valueRun (sep ++ (name ++ '=' :: rest))) = behind
  have hstops : valueRun behind = 0 := by
    rw [← hbehind]
    exact CharClass.runOf_drop_runOf _
  obtain ⟨c, tail, rfl⟩ := List.exists_cons_of_ne_nil hsep
  rw [← Option.not_isSome_iff_eq_none]
  intro hstarts
  obtain ⟨others, rfl⟩ := exists_cons_of_startsWithLiteral hstarts
  by_cases hc : c = '%'
  · subst hc
    have hopen : opensEscape ('%' :: tail ++ (name ++ '=' :: rest)) = true := by
      by_contra hclosed
      refine hrun ((CharClass.runOf_plain (eq_false_of_ne_true hclosed)).trans (if_neg ?_))
      rintro ⟨h, -⟩
      exact h rfl
    have hlong : 3 ≤ valueRun ('%' :: tail ++ (name ++ '=' :: rest)) :=
      CharClass.three_le_runOf hopen
    -- the run ends inside the separator, for in a name and at `=` there is no `%`
    have hinside : valueRun ('%' :: tail ++ (name ++ '=' :: rest)) < ('%' :: tail).length := by
      by_contra hbeyond
      have hle := valueRun_le_of_equals ('%' :: tail ++ name) rest
      rw [List.append_assoc, List.length_append] at hle
      rw [List.drop_append, List.drop_eq_nil_of_le (Nat.le_of_not_lt hbeyond), List.nil_append,
        List.drop_append_of_le_length (by omega)] at hbehind
      exact append_equals_ne (fun hmem => notMem_of_isName hname rfl (List.mem_of_mem_drop hmem))
        rest others hbehind
    have hopen' : opensEscape ('%' :: tail) = true := by
      rcases tail with _ | ⟨x, _ | ⟨y, tail⟩⟩
      · simp only [List.length_cons, List.length_nil] at hinside
        omega
      · simp only [List.length_cons, List.length_nil] at hinside
        omega
      · exact hopen
    have hthree := CharClass.three_le_runOf (p := CharClass.unreservedList.admits)
      (opensEscape_of_startsWithLiteral hopen' hstarts)
    have hzero : runOf CharClass.unreservedList.admits ('%' :: others) = 0 := hstops
    omega
  · have hplain : ∀ t : Text, valueRun (c :: t) =
        if c ≠ '%' ∧ CharClass.unreservedList.admits c = true then valueRun t + 1 else 0 :=
      fun t => CharClass.runOf_plain (opensEscape_cons_of_ne hc t)
    have hadmits : c ≠ '%' ∧ CharClass.unreservedList.admits c = true := by
      by_contra hends
      exact hrun ((hplain _).trans (if_neg hends))
    rw [hplain, if_pos hadmits] at hstops
    cases hstops

/-! ## 3.  All groups -/

section Groups

variable {op : Operator} {sep : Text} {entry : Variable × OneOrMany Text}
  {entries : List (Variable × OneOrMany Text)}

/-- Whether a separator shows depends on the group behind it alone. -/
theorem valueRun_append_eq_zero_iff (hsep : sep ≠ []) (hentry : op.Groups entry) (rest : Text) :
    valueRun (sep ++ pair entry ++ rest) = 0 ↔ valueRun (sep ++ pair entry) = 0 := by
  obtain ⟨c, name, hname, -⟩ := exists_cons_of_isName hentry.isName
  have hpos := List.length_pos_iff.2 hsep
  refine CharClass.runOf_append_eq_zero_iff ?_ rest
  simp only [pair, hname, List.length_append, List.length_cons]
  omega

/-- If every separator shows, every group is taken. -/
theorem repeatedly_joined (hsep : sep ≠ []) (hentries : ∀ e ∈ entries, op.Groups e)
    (hshows : ∀ e ∈ entries, valueRun (sep ++ pair e) = 0) :
    valueRun (entries.flatMap fun e => sep ++ pair e) = 0 ∧
      repeatedly (takePair op .free sep) (entries.flatMap fun e => sep ++ pair e) =
        (entries.map Capture.written, []) := by
  induction entries with
  | nil => exact ⟨rfl, repeatedly_of_none (takePair_of_stripLiteral? (stripLiteral?_nil hsep))⟩
  | cons entry entries ih =>
    obtain ⟨hentry, hentries⟩ := List.forall_mem_cons.1 hentries
    obtain ⟨hshow, hshows⟩ := List.forall_mem_cons.1 hshows
    obtain ⟨hstop, hloop⟩ := ih hentries hshows
    rw [List.flatMap_cons]
    refine ⟨(valueRun_append_eq_zero_iff hsep hentry _).2 hshow, ?_⟩
    have htake := takePair_append_run hentry sep (entries.flatMap fun e => sep ++ pair e)
    rw [hstop, List.take_zero, List.append_nil, List.drop_zero,
      ofCommaSeparated_joinItems hentry.items_ne_nil] at htake
    rw [repeatedly_of_some htake ?_, hloop]
    · rfl
    · have hpos := List.length_pos_iff.2 hsep
      simp only [List.length_append]
      omega

/-- If some separator does not show, something is left. -/
theorem repeatedly_joined_ne_nil (hsep : sep ≠ []) (hentries : ∀ e ∈ entries, op.Groups e)
    (hhidden : ∃ e ∈ entries, valueRun (sep ++ pair e) ≠ 0) :
    (repeatedly (takePair op .free sep) ((entries.flatMap fun e => sep ++ pair e).drop
      (valueRun (entries.flatMap fun e => sep ++ pair e)))).2 ≠ [] := by
  induction entries with
  | nil =>
    obtain ⟨e, he, -⟩ := hhidden
    exact absurd he List.not_mem_nil
  | cons entry entries ih =>
    obtain ⟨hentry, hentries⟩ := List.forall_mem_cons.1 hentries
    rw [List.flatMap_cons]
    by_cases hshow : valueRun (sep ++ pair entry) = 0
    · obtain ⟨e, he, hhidden⟩ := hhidden
      have hmem : e ∈ entries := by
        rcases List.mem_cons.1 he with rfl | hmem
        · exact absurd hshow hhidden
        · exact hmem
      rw [(valueRun_append_eq_zero_iff hsep hentry _).2 hshow, List.drop_zero,
        repeatedly_of_some (takePair_append_run hentry sep _) ?_]
      · exact ih hentries ⟨e, hmem, hhidden⟩
      · have hpos := List.length_pos_iff.2 hsep
        simp only [List.length_append, List.length_drop]
        omega
    · -- the value before has taken the separator, and the loop ends behind it
      have htext : sep ++ pair entry ++ (entries.flatMap fun e => sep ++ pair e) =
          sep ++ (entry.1.name ++ '=' :: (joinItems Percent.encode entry.2 ++
            entries.flatMap fun e => sep ++ pair e)) := by
        rw [pair, List.append_assoc, List.append_assoc, List.cons_append]
      have hrun : valueRun (sep ++ pair entry ++ (entries.flatMap fun e => sep ++ pair e)) ≠ 0 :=
        mt (valueRun_append_eq_zero_iff hsep hentry _).1 hshow
      rw [htext] at hrun ⊢
      rw [repeatedly_of_none
        (takePair_of_stripLiteral? (stripLiteral?_drop_run hsep hentry.isName hrun))]
      intro hnil
      have hle := valueRun_le_of_equals (sep ++ entry.1.name)
        (joinItems Percent.encode entry.2 ++ entries.flatMap fun e => sep ++ pair e)
      rw [List.append_assoc] at hle
      have hlength := List.drop_eq_nil_iff.1 hnil
      simp only [List.length_append, List.length_cons] at hle hlength
      omega

/-- The groups of `join`, the first one without a separator before it. -/
theorem takePairs_joined (sep : Text) (entries : List (Variable × OneOrMany Text))
    (hentry : op.Groups entry) :
    takePairs op .free [] sep (Text.joined sep ((entry :: entries).map pair)) =
      (⟨entry.1, .ofCommaSeparated (joinItems Percent.encode entry.2 ++
          (entries.flatMap fun e => sep ++ pair e).take
            (valueRun (entries.flatMap fun e => sep ++ pair e)))⟩ ::
        (repeatedly (takePair op .free sep) ((entries.flatMap fun e => sep ++ pair e).drop
          (valueRun (entries.flatMap fun e => sep ++ pair e)))).1,
      (repeatedly (takePair op .free sep) ((entries.flatMap fun e => sep ++ pair e).drop
          (valueRun (entries.flatMap fun e => sep ++ pair e)))).2) := by
  have htake := takePair_append_run hentry [] (entries.flatMap fun e => sep ++ pair e)
  rw [List.nil_append] at htake
  rw [takePairs, List.map_cons, Text.joined_cons, List.flatMap_map, htake]

end Groups

/-! ## 4.  Patterns that end with the operator -/

/-- The last operator has to take all that is left. -/
theorem walk_join (sep : Text) (vs : List Variable) (text : Text) :
    walk [.operator ⟨.join sep, vs⟩] text =
      if (takePairs ⟨.join sep, vs⟩ .free [] sep text).2 = [] then
        some ⟨(takePairs ⟨.join sep, vs⟩ .free [] sep text).1, 0⟩
      else none := by
  show (walk [] (takePairs ⟨.join sep, vs⟩ .free [] sep text).2).map
    (Match.withCaptures (takePairs ⟨.join sep, vs⟩ .free [] sep text).1) = _
  rw [walk]
  cases (takePairs ⟨.join sep, vs⟩ .free [] sep text).2 with
  | nil =>
    rw [List.isEmpty_nil, if_pos rfl, if_pos rfl, Option.map_some, Match.withCaptures]
    simp [Match.empty]
  | cons c rest =>
    rw [if_neg (List.cons_ne_nil c rest)]
    rfl

end UriRouting
