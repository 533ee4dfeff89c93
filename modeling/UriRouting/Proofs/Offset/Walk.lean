import UriRouting.Proofs.Offset.Operator
import UriRouting.Proofs.Template.RoundTrip

/-!
# Walking over positions

The tokens of a template are matched here against the bytes of a candidate.  The ends of a
greedy run come from a search over all byte offsets, and the run may be of any characters.

## 1.  The computation

`walkAt` and `matchTokens`.  All ends of a run are looked at before the first of them is
tried, so an end that is never tried counts as well.

## 2.  Greedy tokens

`greedyAt_eq`: if the tokens behind it do not fail, a greedy token does not.

## 3.  Token sequences

`matchTokens_eq_walk`: the tokens of a template never lead to an offset inside a character
or past the end of a candidate.
-/

namespace UriRouting
namespace Offset

/-! ## 1.  The computation -/

/-- Offsets of a text, unless one of them is not a boundary. -/
def checked (t : Text) (ns : List Nat) : Except Fault (List Nat) :=
  match ns.find? fun n => (dropBytes? n t).isNone with
  | some n => throw (.offset n)
  | none => pure ns

section Definitions

variable (input : Text)

/-- The match with the first of the given ends after which `next` matches. -/
def firstMatch (capture : Text → List Capture) (next : Nat → Except Fault (Option Match))
    (pos : Nat) : List Nat → Except Fault (Option Match)
  | [] => pure none
  | n :: ends => do
      let (raw, last) ← advance input pos n
      match ← next last with
      | some m => pure (some (m.withCaptures (capture raw)))
      | none => firstMatch capture next pos ends

/-- The match with a run of class `k` in front of a boundary. -/
def greedyAt (b : Boundary) (k : CharClass) (least : Nat) (capture : Text → List Capture)
    (next : Nat → Except Fault (Option Match)) (pos : Nat) : Except Fault (Option Match) := do
  let rest ← input.sliceFrom pos
  let ends ← checked rest (b.endOffsets k least rest)
  firstMatch input capture next pos ends

/-- The match of a token sequence from a position to the end of the candidate. -/
def walkAt : List Token → Nat → Except Fault (Option Match)
  | [], pos => pure (if pos = input.utf8Size then some .empty else none)
  | .literal lit :: rest, pos => do
      match ← eat input lit pos with
      | none => pure none
      | some next => (walkAt rest next).map fun m => m.map (Match.withLiteral lit)
  | .wildcard :: rest, pos =>
      greedyAt input (Boundary.before rest) .any 0 (fun _ => []) (walkAt rest) pos
  | .var v :: rest, pos =>
      greedyAt input (Boundary.before rest) .unreserved 1 (fun raw => [⟨v, .one raw⟩])
        (walkAt rest) pos
  | .operator op :: rest, pos =>
      if op.form == .reserved then
        greedyAt input (Boundary.before rest) .reserved 1 (positionalCaptures op.vars)
          (walkAt rest) pos
      else do
        let (captures, next) ← operatorAt input op (Boundary.before rest) pos
        (walkAt rest next).map fun m => m.map (Match.withCaptures captures)

/-- The match of a token sequence against a whole candidate. -/
def matchTokens (tokens : List Token) : Except Fault (Option Match) := walkAt input tokens 0

end Definitions

variable {input rest : Text}

/-! ## 2.  Greedy tokens -/

theorem checked_map_offset (t : Text) (ns : List Nat) :
    checked t (ns.map t.offset) = .ok (ns.map t.offset) := by
  have hnone : (ns.map t.offset).find? (fun n => (dropBytes? n t).isNone) = none := by
    rw [List.find?_eq_none]
    intro k hk
    obtain ⟨n, -, rfl⟩ := List.mem_map.1 hk
    rw [Text.dropBytes?_offset]
    exact Bool.false_ne_true
  rw [checked, hnone]
  rfl

section Greedy

variable {capture : Text → List Capture} {next : Nat → Except Fault (Option Match)}
  {nextText : Text → Option Match}

theorem firstMatch_eq (hnext : ∀ rest, rest <:+ input →
      next (input.startOf rest) = .ok (nextText rest)) (h : rest <:+ input) (ns : List Nat) :
    firstMatch input capture next (input.startOf rest) (ns.map rest.offset) =
      .ok (matchRun ns capture nextText rest) := by
  induction ns with
  | nil => rfl
  | cons n ns ih =>
    have hdrop := (List.drop_suffix n rest).trans h
    rw [List.map_cons, firstMatch, advance_eq h, matchRun, List.findSome?_cons]
    simp only [bind, Except.bind, hnext _ hdrop]
    cases nextText (rest.drop n) with
    | none => exact ih
    | some m => rfl

/-- **A greedy token tries cuts between characters only.** -/
theorem greedyAt_eq (hnext : ∀ rest, rest <:+ input →
      next (input.startOf rest) = .ok (nextText rest)) (h : rest <:+ input) {b : Boundary}
    (hb : b.text? ≠ some []) (k : CharClass) {least : Nat} (hleast : least ≤ 1) :
    greedyAt input b k least capture next (input.startOf rest) =
      .ok (matchRun (b.ends k least rest) capture nextText rest) := by
  rw [greedyAt, Text.sliceFrom_startOf h]
  simp only [bind, Except.bind, Boundary.endOffsets_eq hb k hleast, checked_map_offset]
  exact firstMatch_eq hnext h _

end Greedy

/-! ## 3.  Token sequences -/

/-- The boundary that well-formed tokens set is not the empty text. -/
theorem text?_before {tokens : List Token} (h : ∀ token ∈ tokens, token.WellFormed) :
    (Boundary.before tokens).text? ≠ some [] := by
  rcases tokens with _ | ⟨token, tokens⟩
  · nofun
  · have htoken := h token List.mem_cons_self
    cases token with
    | literal lit => exact fun heq => htoken.1 (Option.some_inj.1 heq)
    | wildcard => nofun
    | var v => nofun
    | operator op =>
      obtain ⟨form, vars⟩ := op
      cases form <;> nofun

theorem name_ne_nil {op : Operator} (h : op.WellFormed) : ∀ v ∈ op.vars, v.name ≠ [] := by
  intro v hv hnil
  have hname := (h.vars v hv).name
  rw [hnil] at hname
  cases hname

/-- From the start of any end of the candidate, the walk over positions is the walk over
that text. -/
theorem walkAt_eq {tokens : List Token} (htokens : ∀ token ∈ tokens, token.WellFormed)
    (h : rest <:+ input) : walkAt input tokens (input.startOf rest) = .ok (walk tokens rest) := by
  induction tokens generalizing rest with
  | nil =>
    have hend : input.startOf rest = input.utf8Size ↔ rest = [] := by
      obtain ⟨before, rfl⟩ := h
      rw [Text.startOf_append, Text.utf8Size_append]
      constructor
      · intro heq
        exact Text.eq_nil_of_utf8Size (by omega)
      · rintro rfl
        rfl
    rw [walkAt, walk]
    simp only [hend, List.isEmpty_iff]
    rfl
  | cons token tokens ih =>
    obtain ⟨htoken, htokens⟩ := List.forall_mem_cons.1 htokens
    have hb := text?_before htokens
    have hnext : ∀ rest, rest <:+ input →
        walkAt input tokens (input.startOf rest) = .ok (walk tokens rest) := fun rest => ih htokens
    cases token with
    | literal lit =>
      rw [walkAt, eat_eq h, walk]
      cases hstrip : stripLiteral? lit rest with
      | none => rfl
      | some behind =>
        have hbehind := (isSuffix_of_stripLiteral? hstrip).trans h
        simp only [Option.map_some, bind, Except.bind, hnext behind hbehind]
        rfl
    | wildcard =>
      rw [walkAt, walk]
      exact greedyAt_eq hnext h hb .any (Nat.zero_le 1)
    | var v =>
      rw [walkAt, walk]
      exact greedyAt_eq hnext h hb .unreserved (Nat.le_refl 1)
    | operator op =>
      rw [walkAt, walk]
      split
      · exact greedyAt_eq hnext h hb .reserved (Nat.le_refl 1)
      · rename_i hform
        obtain ⟨piece, -, -, hconsumes⟩ := Operator.take_takes htoken
          (fun heq => hform (beq_iff_eq.2 heq)) (Boundary.before tokens) rest
        have hsuffix : (op.take (Boundary.before tokens) rest).2 <:+ rest :=
          ⟨_, hconsumes.text_eq.symm⟩
        simp only [operatorAt_eq h hb (name_ne_nil htoken), bind, Except.bind, placed,
          hnext _ (hsuffix.trans h)]
        rfl

/-- **Matching never slices a candidate past its end or inside a character.**  For the
tokens of any template and for any candidate, the computation over byte offsets ends
without a fault, with what the walk over characters finds. -/
theorem matchTokens_eq_walk {source : Text} {tokens : List Token}
    (h : Template.parseTokens source = .ok tokens) (input : Text) :
    matchTokens input tokens = .ok (walk tokens input) := by
  have hwalk := walkAt_eq (Template.wellFormedSeq_of_parseTokens h).token (List.suffix_refl input)
  rwa [Text.startOf_self] at hwalk

/-- A wildcard in front of a letter of two bytes, in a candidate in which other characters
have one of these bytes, and a separator of two bytes. -/
theorem matchTokens_eq_walk_bytes :
    ∃ (x y q : Variable) (tokens : List Token),
      Template.parseTokens "/*ü{x}.é{-list|·|y}{?q}".toList = .ok tokens ∧
        matchTokens "/日üļÃüa%41.éb·c?q=1".toList tokens =
          .ok (some ⟨[⟨x, .one ['a', '%', '4', '1']⟩, ⟨y, .many [['b'], ['c']]⟩,
            ⟨q, .one ['1']⟩], 4⟩) := by
  let x : Variable := ⟨['x'], none, none⟩
  let y : Variable := ⟨['y'], none, none⟩
  let q : Variable := ⟨['q'], none, none⟩
  have hparse : Template.parseTokens "/*ü{x}.é{-list|·|y}{?q}".toList = .ok
      [.literal ['/'], .wildcard, .literal ['ü'], .var x, .literal ['.', 'é'],
        .operator ⟨.list ['·'], [y]⟩, .operator ⟨.queryParameters, [q]⟩] := by rfl
  refine ⟨x, y, q, _, hparse, (matchTokens_eq_walk hparse _).trans ?_⟩
  exact congrArg Except.ok (by decide +kernel)

end Offset
end UriRouting
