import UriRouting.Pattern.Basic
import UriRouting.Proofs.Percent.Literal

/-!
# Where runs end

A token that takes a run leaves its end to the boundary after it.  The first half of
this file says which ends a boundary allows, the second when there is only one.

## 1.  Greedy neighbours

`hasGreedyNeighbours_cons_iff` reads the condition of an unambiguous pattern token by
token.

## 2.  The ends that are tried

Before a literal and at the end of a pattern, the ends of a run are the lengths behind
which the pattern can go on, longest first (`pairwise_ends_before`).  Before any token,
and for values inside operators too, they are ends in the sense of `IsEnd`.

## 3.  Characters that end a run

`CharClass.endsAt` are the characters that no run of a class can hold, not even in an
escape (`notMem_of_endsAt`).  A text that begins with one stops a run in front of it
(`CharClass.run_append`).

## 4.  Cuts

A literal that begins with such a character stands behind no cut inside the run
(`literalCuts_append`).

## 5.  Runs that are closed

`Boundary.Closes` says that what follows stops a run and that the boundary agrees.
Then the run has a single end, for a token that could give some of it back
(`Boundary.ends_append`) and for a value inside an operator (`takeValue_append`).
-/

namespace UriRouting

/-! ## 1.  Greedy neighbours -/

theorem hasGreedyNeighbours_cons_iff {token : Token} {tokens : List Token} :
    hasGreedyNeighbours (token :: tokens) = false ↔
      (token.isGreedy = true → ∀ next ∈ tokens.head?, next.isGreedy = false) ∧
        hasGreedyNeighbours tokens = false := by
  cases tokens with
  | nil =>
    constructor
    · intro _
      exact ⟨fun _ next hnext => absurd hnext (by simp), rfl⟩
    · intro _
      rfl
  | cons next rest =>
    rw [hasGreedyNeighbours, Bool.or_eq_false_iff]
    cases token.isGreedy with
    | false => simp
    | true => simp

/-- Literals in front of tokens bring no such pair with them. -/
theorem hasGreedyNeighbours_literals (lits : List Text) {tokens : List Token}
    (h : hasGreedyNeighbours tokens = false) :
    hasGreedyNeighbours (lits.map .literal ++ tokens) = false := by
  induction lits with
  | nil => exact h
  | cons lit lits ih =>
    refine hasGreedyNeighbours_cons_iff.2 ⟨fun hgreedy => ?_, ih⟩
    cases hgreedy

/-- A pattern that is not ambiguous matches as the walk over its tokens does. -/
theorem Pattern.match?_eq_walk {p : Pattern} (h : p.isAmbiguous = false) (uri : Text) :
    p.match? uri = walk p.tokens uri := by
  rw [match?, h, if_neg Bool.false_ne_true]

/-! ## 2.  The ends that are tried -/

namespace Boundary

theorem mem_ends_literal {lit text : Text} {closing : Bool} {k : CharClass} {least n : Nat} :
    n ∈ (literal lit closing).ends k least text ↔
      least ≤ n ∧ n ≤ k.run text ∧ n ≤ text.length ∧
        startsWithLiteral lit (text.drop n) = true := by
  rw [ends, List.mem_reverse, mem_literalCuts]

theorem mem_ends_free {text : Text} {k : CharClass} {least n : Nat} :
    n ∈ free.ends k least text ↔ least ≤ n ∧ n = k.run text := by
  rw [ends]
  split
  · rename_i hleast
    rw [List.mem_singleton]
    constructor
    · rintro rfl
      exact ⟨hleast, rfl⟩
    · exact And.right
  · rename_i hleast
    constructor
    · intro h
      exact absurd h List.not_mem_nil
    · rintro ⟨h, rfl⟩
      exact absurd h hleast

/-- Before a literal, and at the end of a pattern, longer ends come first. -/
theorem pairwise_ends_before {tokens : List Token}
    (h : tokens = [] ∨ ∃ lit rest, tokens = .literal lit :: rest) (k : CharClass) (least : Nat)
    (text : Text) : ((before tokens).ends k least text).Pairwise (· > ·) := by
  rcases h with rfl | ⟨lit, rest, rfl⟩
  · show (free.ends k least text).Pairwise (· > ·)
    rw [ends]
    split
    · exact List.pairwise_singleton _ _
    · exact List.Pairwise.nil
  · rw [before, ends, List.pairwise_reverse]
    exact pairwise_literalCuts lit least (k.run text) text

theorem mem_ends_delimiter {c : Char} {text : Text} {k : CharClass} {least n : Nat} :
    n ∈ (delimiter c).ends k least text ↔
      n ∈ literalCuts [c] least (k.run text) text ∨ (least ≤ k.run text ∧ n = k.run text) := by
  simp only [ends]
  split
  · rename_i hrun
    rw [List.mem_append, List.mem_singleton, and_iff_right hrun.1]
  · rename_i hrun
    constructor
    · exact Or.inl
    · rintro (hcut | ⟨hleast, rfl⟩)
      · exact hcut
      · simpa [hleast] using hrun

/-- The texts that stand where a boundary ends a run. -/
def stops : Boundary → List Text
  | free => []
  | literal lit _ => [lit]
  | delimiter c => [[c]]

end Boundary

/-- Whether a cut is the end of a run, or one of the given texts stands behind it. -/
def IsEnd (stops : List Text) (run : Nat) (text : Text) (n : Nat) : Prop :=
  n = run ∨ (n ≤ run ∧ ∃ stop ∈ stops, startsWithLiteral stop (text.drop n) = true)

namespace IsEnd

variable {stops stops' : List Text} {run m n : Nat} {text : Text}

theorem le (h : IsEnd stops run text n) : n ≤ run := by
  rcases h with rfl | ⟨hle, -⟩
  · exact Nat.le_refl _
  · exact hle

/-- A run may end where one of its beginnings does. -/
theorem trans (h : IsEnd stops run text m) (h' : IsEnd stops' m text n) :
    IsEnd (stops ++ stops') run text n := by
  rcases h' with rfl | ⟨hle, stop, hstop, hstarts⟩
  · rcases h with rfl | ⟨hle, stop, hstop, hstarts⟩
    · exact Or.inl rfl
    · exact Or.inr ⟨hle, stop, List.mem_append_left _ hstop, hstarts⟩
  · exact Or.inr ⟨Nat.le_trans hle h.le, stop, List.mem_append_right _ hstop, hstarts⟩

theorem of_mem_literalCuts {literal : Text} {least : Nat}
    (h : n ∈ literalCuts literal least run text) : IsEnd [literal] run text n := by
  obtain ⟨-, hrun, -, hstarts⟩ := mem_literalCuts.1 h
  exact Or.inr ⟨hrun, literal, List.mem_singleton_self _, hstarts⟩

theorem of_firstLiteralCut? (literal : Text) (least run : Nat) (text : Text) :
    IsEnd [literal] run text ((firstLiteralCut? literal least run text).getD run) := by
  rw [firstLiteralCut?_eq_head?]
  cases hcuts : literalCuts literal least run text with
  | nil => exact Or.inl rfl
  | cons n cuts =>
    have hmem : n ∈ literalCuts literal least run text := by
      rw [hcuts]
      exact List.mem_cons_self
    exact of_mem_literalCuts hmem

end IsEnd

namespace Boundary

/-- Every end that is tried is admissible, and the boundary stands there unless it is the
end of the run. -/
theorem isEnd_of_mem_ends {b : Boundary} {k : CharClass} {least : Nat} {text : Text} {n : Nat}
    (h : n ∈ b.ends k least text) : least ≤ n ∧ IsEnd b.stops (k.run text) text n := by
  cases b with
  | free =>
    obtain ⟨hleast, rfl⟩ := mem_ends_free.1 h
    exact ⟨hleast, Or.inl rfl⟩
  | literal lit closing =>
    obtain ⟨hleast, hrun, -, hstarts⟩ := mem_ends_literal.1 h
    exact ⟨hleast, Or.inr ⟨hrun, lit, List.mem_singleton_self _, hstarts⟩⟩
  | delimiter c =>
    rcases mem_ends_delimiter.1 h with hcut | ⟨hleast, rfl⟩
    · exact ⟨(mem_literalCuts.1 hcut).1, IsEnd.of_mem_literalCuts hcut⟩
    · exact ⟨hleast, Or.inl rfl⟩

/-- So does a value inside an operator. -/
theorem isEnd_valueEnd (b : Boundary) (least run : Nat) (text : Text) :
    IsEnd b.stops run text (b.valueEnd least run text) := by
  cases b with
  | free => exact Or.inl rfl
  | delimiter c => exact IsEnd.of_firstLiteralCut? [c] least run text
  | literal lit closing =>
    cases closing with
    | false => exact IsEnd.of_firstLiteralCut? lit least run text
    | true =>
      simp only [valueEnd]
      split
      · rename_i hend
        exact Or.inr ⟨hend.2.1, lit, List.mem_singleton_self _, hend.2.2⟩
      · exact Or.inl rfl

end Boundary

/-! ## 3.  Characters that end a run -/

namespace CharClass

/-- Whether a character can stand in no run of a class. -/
def endsAt (k : CharClass) (c : Char) : Bool := c != '%' && !k.admits c

theorem endsAt_iff {k : CharClass} {c : Char} :
    k.endsAt c = true ↔ c ≠ '%' ∧ k.admits c = false := by
  rw [endsAt, Bool.and_eq_true, bne_iff_ne, Bool.not_eq_true']

theorem admits_of_isUnreserved (k : CharClass) {c : Char} (h : isUnreserved c = true) :
    k.admits c = true := by
  cases k with
  | unreserved => exact h
  | unreservedList => rw [admits, h, Bool.true_or]
  | reserved => rw [admits, h, Bool.true_or]
  | any => rfl

/-- The digits of escapes are admitted by every class, so that a character outside
the class occurs nowhere in a text of its units. -/
theorem notMem_of_endsAt {k : CharClass} {w : Text} (hw : Units k.admits w) {c : Char}
    (hc : k.endsAt c = true) : c ∉ w := by
  intro hmem
  obtain ⟨hpercent, hadmits⟩ := endsAt_iff.1 hc
  have hadmitted : k.admits c = true := by
    rcases hw.mem hmem with rfl | hdigit | hadmitted
    · exact absurd rfl hpercent
    · exact k.admits_of_isUnreserved (isUnreserved_of_isHexDigit hdigit)
    · exact hadmitted
  rw [hadmits] at hadmitted
  cases hadmitted

theorem run_eq_runOf {k : CharClass} (hk : k ≠ .any) (t : Text) : k.run t = runOf k.admits t := by
  cases k with
  | unreserved => rfl
  | unreservedList => rfl
  | reserved => rfl
  | any => exact absurd rfl hk

/-- Whether a text is empty or begins with a character that ends a run. -/
def Stops (k : CharClass) (rest : Text) : Prop := ∀ c ∈ rest.head?, k.endsAt c = true

theorem stops_nil (k : CharClass) : k.Stops [] := by
  rintro c ⟨⟩

theorem stops_cons {k : CharClass} {c : Char} (h : k.endsAt c = true) (rest : Text) :
    k.Stops (c :: rest) := by
  rintro d ⟨⟩
  exact h

theorem Stops.runOf_eq_zero {k : CharClass} {rest : Text} (h : k.Stops rest) :
    runOf k.admits rest = 0 := by
  cases rest with
  | nil => rfl
  | cons c rest =>
    obtain ⟨hpercent, hadmits⟩ := endsAt_iff.1 (h c rfl)
    exact runOf_cons_eq_zero hpercent hadmits rest

/-- A run is exactly the text of its units when what follows stops it. -/
theorem run_append {k : CharClass} (hk : k ≠ .any) {w rest : Text} (hw : Units k.admits w)
    (hrest : k.Stops rest) : k.run (w ++ rest) = w.length := by
  rw [run_eq_runOf hk, runOf_append hw, hrest.runOf_eq_zero, Nat.add_zero]

/-- In front of any text, units of the class lengthen its run by themselves. -/
theorem runBytes_append {k : CharClass} (hk : k ≠ .any) {w : Text} (hw : Units k.admits w)
    (rest : Text) : k.runBytes (w ++ rest) = w.utf8Size + k.runBytes rest := by
  have hrun : k.run (w ++ rest) = w.length + k.run rest := by
    rw [run_eq_runOf hk, run_eq_runOf hk, runOf_append hw]
  rw [runBytes, hrun, List.take_length_add_append, Text.utf8Size_append, runBytes]

end CharClass

/-! ## 4.  Cuts -/

/-- A text that begins with a literal begins with its first character. -/
theorem exists_cons_of_startsWithLiteral {c : Char} {lit text : Text}
    (h : startsWithLiteral (c :: lit) text = true) : ∃ rest, text = c :: rest := by
  obtain ⟨piece, rest, rfl, hpiece⟩ := startsWithLiteral_iff.1 h
  have hhead : piece.head? = some c := by
    rw [← head?_upperEscapes, hpiece, head?_upperEscapes, List.head?_cons]
  obtain ⟨tail, rfl⟩ := List.head?_eq_some_iff.1 hhead
  exact ⟨tail ++ rest, rfl⟩

/-- A text that begins with another character than a literal is not taken for it. -/
theorem stripLiteral?_of_head? {c : Char} {text : Text} (h : text.head? ≠ some c) (lit : Text) :
    stripLiteral? (c :: lit) text = none := by
  rw [← Option.not_isSome_iff_eq_none]
  intro hstarts
  obtain ⟨rest, rfl⟩ := exists_cons_of_startsWithLiteral hstarts
  exact h rfl

/-- A literal does not stand where its first character does not occur. -/
theorem length_le_of_startsWithLiteral {c : Char} {lit w rest : Text} (hc : c ∉ w) {n : Nat}
    (h : startsWithLiteral (c :: lit) ((w ++ rest).drop n) = true) : w.length ≤ n := by
  obtain ⟨tail, htail⟩ := exists_cons_of_startsWithLiteral h
  rcases Nat.lt_or_ge n w.length with hlt | hge
  · have hdrop : (w ++ rest).drop n = w.drop n ++ rest :=
      List.drop_append_of_le_length (Nat.le_of_lt hlt)
    have hne : w.drop n ≠ [] := by
      rw [Ne, List.drop_eq_nil_iff]
      omega
    obtain ⟨d, others, hcons⟩ := List.exists_cons_of_ne_nil hne
    rw [hdrop, hcons, List.cons_append] at htail
    have hmem : d ∈ w := List.mem_of_mem_drop (hcons ▸ List.mem_cons_self)
    exact absurd ((List.cons.inj htail).1 ▸ hmem) hc
  · exact hge

/-- An ascending list of which one number alone can be a member. -/
theorem eq_of_pairwise_of_forall_eq {l : List Nat} {n : Nat} (hl : l.Pairwise (· < ·))
    (h : ∀ m ∈ l, m = n) : l = [] ∨ l = [n] := by
  rcases l with _ | ⟨a, _ | ⟨b, l⟩⟩
  · exact Or.inl rfl
  · exact Or.inr (by rw [h a (List.mem_singleton_self a)])
  · have ha := h a List.mem_cons_self
    have hb := h b (List.mem_cons_of_mem _ List.mem_cons_self)
    have hlt := (List.pairwise_cons.1 hl).1 b List.mem_cons_self
    omega

/-- An ascending list begins with its least member. -/
theorem exists_eq_cons_of_least {l : List Nat} (hl : l.Pairwise (· < ·)) {n : Nat} (hn : n ∈ l)
    (hleast : ∀ m ∈ l, n ≤ m) : ∃ rest, l = n :: rest := by
  cases l with
  | nil => exact absurd hn List.not_mem_nil
  | cons a l =>
    rcases List.mem_cons.1 hn with rfl | hn
    · exact ⟨l, rfl⟩
    · have hgt := (List.pairwise_cons.1 hl).1 n hn
      have hle := hleast a List.mem_cons_self
      omega

/-- The only cut behind which such a literal can stand is the one after the run. -/
theorem literalCuts_append {c : Char} {lit w rest : Text} (hc : c ∉ w) (least : Nat) :
    literalCuts (c :: lit) least w.length (w ++ rest) =
      if least ≤ w.length ∧ startsWithLiteral (c :: lit) rest = true then [w.length] else [] := by
  have hmem : ∀ n, n ∈ literalCuts (c :: lit) least w.length (w ++ rest) ↔
      n = w.length ∧ least ≤ w.length ∧ startsWithLiteral (c :: lit) rest = true := by
    intro n
    rw [mem_literalCuts]
    constructor
    · rintro ⟨hleast, hmost, -, hstarts⟩
      obtain rfl : n = w.length := Nat.le_antisymm hmost (length_le_of_startsWithLiteral hc hstarts)
      rw [List.drop_left] at hstarts
      exact ⟨rfl, hleast, hstarts⟩
    · rintro ⟨rfl, hleast, hstarts⟩
      rw [List.drop_left, List.length_append]
      exact ⟨hleast, Nat.le_refl _, Nat.le_add_right _ _, hstarts⟩
  have hcases := eq_of_pairwise_of_forall_eq (pairwise_literalCuts (c :: lit) least w.length _)
    fun n hn => ((hmem n).1 hn).1
  split
  · rename_i hstands
    rcases hcases with hnil | hone
    · have hlength := (hmem w.length).2 ⟨rfl, hstands⟩
      rw [hnil] at hlength
      exact absurd hlength List.not_mem_nil
    · exact hone
  · rename_i hstands
    rcases hcases with hnil | hone
    · exact hnil
    · have hlength : w.length ∈ literalCuts (c :: lit) least w.length (w ++ rest) := by
        rw [hone]
        exact List.mem_singleton_self _
      exact absurd ((hmem w.length).1 hlength).2 hstands

/-! ## 5.  Runs that are closed -/

namespace Boundary

/-- Whether a boundary begins outside a class. -/
def isOutside (k : CharClass) : Boundary → Bool
  | free => true
  | literal lit _ => lit.head?.any k.endsAt
  | delimiter c => k.endsAt c

/-- What follows a run stops it; the boundary begins outside the class, and if it is
a literal, the literal stands there. -/
structure Closes (b : Boundary) (k : CharClass) (rest : Text) : Prop where
  /-- The boundary begins outside the class. -/
  outside : b.isOutside k = true
  /-- The rest stops the run. -/
  stops : k.Stops rest
  /-- A literal boundary stands at the front of the rest. -/
  stands : ∀ lit closing, b = literal lit closing → startsWithLiteral lit rest = true

variable {b : Boundary} {k : CharClass} {w rest : Text} {least : Nat}

/-- A run that is closed has one end. -/
theorem ends_append (hk : k ≠ .any) (hw : CharClass.Units k.admits w) (h : b.Closes k rest)
    (hleast : least ≤ w.length) : b.ends k least (w ++ rest) = [w.length] := by
  have hrun : k.run (w ++ rest) = w.length := CharClass.run_append hk hw h.stops
  cases b with
  | free => rw [ends, hrun, if_pos hleast]
  | delimiter c =>
    have hc : c ∉ w := CharClass.notMem_of_endsAt hw h.outside
    simp only [ends, hrun, literalCuts_append hc]
    by_cases hstarts : startsWithLiteral [c] rest = true
    · simp [hstarts, hleast]
    · simp [hstarts, hleast]
  | literal lit closing =>
    cases lit with
    | nil => cases h.outside
    | cons c lit =>
      have hc : c ∉ w := CharClass.notMem_of_endsAt hw h.outside
      have hstands := h.stands (c :: lit) closing rfl
      rw [ends, hrun, literalCuts_append hc, if_pos ⟨hleast, hstands⟩, List.reverse_singleton]

/-- A value ends where its run does when the boundary begins outside the class, even
if nothing of the boundary follows. -/
theorem valueEnd_append (hw : CharClass.Units k.admits w) (h : b.isOutside k = true) :
    b.valueEnd least w.length (w ++ rest) = w.length := by
  cases b with
  | free => rfl
  | delimiter c =>
    have hc : c ∉ w := CharClass.notMem_of_endsAt hw h
    rw [valueEnd, firstLiteralCut?_eq_head?, literalCuts_append hc]
    split <;> rfl
  | literal lit closing =>
    cases lit with
    | nil => cases h
    | cons c lit =>
      have hc : c ∉ w := CharClass.notMem_of_endsAt hw h
      cases closing with
      | false =>
        rw [valueEnd, firstLiteralCut?_eq_head?, literalCuts_append hc]
        split <;> rfl
      | true =>
        rw [valueEnd]
        split
        · rename_i hend
          exact Nat.le_antisymm hend.2.1 (length_le_of_startsWithLiteral hc hend.2.2)
        · rfl

end Boundary

/-- A value made of the units of its class is taken whole. -/
theorem takeValue_append {b : Boundary} {k : CharClass} (hk : k ≠ .any) {w rest : Text}
    (hw : CharClass.Units k.admits w) (hb : b.isOutside k = true) (hrest : k.Stops rest)
    {least : Nat} (hleast : least ≤ w.length) :
    takeValue k b least [] (w ++ rest) = some (w, rest) := by
  have hrun : k.run (w ++ rest) = w.length := CharClass.run_append hk hw hrest
  have hend : b.valueEnd least w.length (w ++ rest) = w.length := Boundary.valueEnd_append hw hb
  simp only [takeValue, List.isEmpty_nil, if_true, hrun, hend, if_pos hleast, List.take_left,
    List.drop_left]

end UriRouting
