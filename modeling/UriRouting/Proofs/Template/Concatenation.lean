import UriRouting.Proofs.Except
import UriRouting.Proofs.Text.Fields
import UriRouting.Template.Parser

/-!
# One template after another

Reading two texts one after the other is reading each of them, as long as the first
one is a template.

## 1.  Where a text stands

Everything that a scan reports about a text but the positions in it is independent of
where the text stands, and the positions move with it: `Template.scan_shift`, built up
from the same statement about each reader of a part of an expression.

## 2.  What stands behind a text

A scan that ends well ends in plain text, so what follows is scanned as if it stood
alone (`Template.scan_append_of_ok`); only literal text may grow across the seam
(`Token.spliced`).  A scan that fails has met its fault before the end of the text, so
nothing behind it matters (`Template.scan_append_of_error`).  The exception is the
expression that is still open at the end: what follows may close it.
-/

namespace UriRouting

/-! ## 1.  Where a text stands -/

namespace Template

/-- The outcome with the position of its fault, if there is one, moved by `n` bytes. -/
def moved {α : Type} (n : Nat) (x : Except TemplateError α) : Except TemplateError α :=
  x.mapError (TemplateError.shift n)

variable {α β : Type} {n : Nat}

theorem moved_bind (x : Except TemplateError α) (f : α → Except TemplateError β) :
    moved n (x >>= f) = moved n x >>= fun a => moved n (f a) :=
  mapError_bind _ x f

theorem moved_map (x : Except TemplateError α) (f : α → β) :
    moved n (x.map f) = (moved n x).map f :=
  mapError_map _ x f

theorem parseVariable_shift (item : Text) (position : Nat) :
    parseVariable item (position + n) = moved n (parseVariable item position) := by
  unfold parseVariable
  repeat' split
  all_goals rfl

theorem parseItems_shift (seen items : List Text) (position : Nat) :
    parseItems seen (position + n) items = moved n (parseItems seen position items) := by
  induction items generalizing seen position with
  | nil => rfl
  | cons item items ih =>
    rw [parseItems, parseItems, moved_bind, parseVariable_shift]
    congr 1
    funext v
    by_cases hseen : seen.contains v.name = true
    · rw [if_pos hseen, if_pos hseen]
      rfl
    · rw [if_neg hseen, if_neg hseen, moved_bind, ← ih,
        show position + n + item.utf8Size + 1 = position + item.utf8Size + 1 + n by omega]
      rfl

theorem parseVariables_shift (list : Text) (position : Nat) :
    parseVariables list (position + n) = moved n (parseVariables list position) :=
  parseItems_shift [] (list.fields ',') position

theorem parseNamedOperator_shift (afterDash : Text) (start : Nat) :
    parseNamedOperator afterDash (start + n) = moved n (parseNamedOperator afterDash start) := by
  unfold parseNamedOperator
  simp only
  split
  · rfl
  · split
    · rename_i name arg list hparts
      -- the list stands inside the body, so its position does not fall below the start
      have hlist : list.utf8Size ≤ Text.utf8Size ('-' :: afterDash) := by
        rw [(Text.fieldsAtMost_three_eq_iff.1 hparts).1]
        simp only [Text.utf8Size_cons, Text.utf8Size_append]
        omega
      rw [moved_bind, ← parseVariables_shift,
        show start + n + Text.utf8Size ('-' :: afterDash) - list.utf8Size =
          start + Text.utf8Size ('-' :: afterDash) - list.utf8Size + n by omega]
      congr 1
      funext vs
      split <;> rfl
    · rfl

theorem parseExpression_shift (body : Text) (start : Nat) :
    parseExpression body (start + n) = moved n (parseExpression body start) := by
  unfold parseExpression
  split
  · rfl
  · exact parseNamedOperator_shift _ start
  · split
    · rw [moved_bind, ← parseVariables_shift, Nat.add_right_comm]
      rfl
    · split
      · rw [moved_map, parseVariable_shift]
      · rfl

/-- The state of a scan that began `n` bytes later. -/
def ScanState.shift (n : Nat) : ScanState → ScanState
  | .plain => .plain
  | .inside opened bodyRev => .inside (opened + n) bodyRev

/-- A scan that begins `n` bytes later gives the same tokens, or the same fault `n`
bytes later. -/
theorem scan_shift (position : Nat) (state : ScanState) (text : Text) :
    scan (position + n) (state.shift n) text = moved n (scan position state text) := by
  fun_induction scan position state text with
  | case1 position => rfl
  | case2 position rest ih =>
    rw [ScanState.shift, scan, Nat.add_right_comm, ← ih]
    rfl
  | case3 position rest => rfl
  | case4 position rest ih =>
    rw [ScanState.shift, scan, moved_map, Nat.add_right_comm, ← ih]
    rfl
  | case5 position c rest hopen hclose hstar ih =>
    rw [ScanState.shift, scan, moved_map, Nat.add_right_comm, ← ih]
    · rfl
    · exact hopen
    · exact hclose
    · exact hstar
  | case6 position opened bodyRev => rfl
  | case7 position opened bodyRev rest => rfl
  | case8 position opened bodyRev rest ih =>
    rw [ScanState.shift, scan, moved_bind, Nat.add_right_comm opened, parseExpression_shift]
    congr 1
    funext token
    rw [moved_bind, ← ih, Nat.add_right_comm position]
    rfl
  | case9 position opened bodyRev c rest hopen hclose ih =>
    rw [ScanState.shift, scan, Nat.add_right_comm, ← ih]
    · rfl
    · exact hopen
    · exact hclose

end Template

/-! ## 2.  What stands behind a text -/

namespace Token

/-- Two token sequences one after the other, literal text at the end of the first
continued by literal text at the beginning of the second. -/
def spliced : List Token → List Token → List Token
  | [], others => others
  | [.literal s], .literal t :: others => .literal (s ++ t) :: others
  | token :: tokens, others => token :: spliced tokens others

@[simp] theorem spliced_nil (others : List Token) : spliced [] others = others := by
  rw [spliced]

theorem spliced_cons_of_not_literal {token : Token} (h : token.isLiteral = false)
    (tokens others : List Token) :
    spliced (token :: tokens) others = token :: spliced tokens others := by
  cases token with
  | literal t => cases h
  | wildcard => rfl
  | var v => rfl
  | operator op => rfl

end Token

namespace Template

open Token

/-- Literal text in front of the first of two sequences is in front of both. -/
theorem spliced_consLiteral (c : Char) (tokens others : List Token) :
    spliced (consLiteral c tokens) others = consLiteral c (spliced tokens others) := by
  cases tokens with
  | nil =>
    rw [spliced_nil]
    rcases others with _ | ⟨_ | _ | _ | _, others⟩ <;> rfl
  | cons token tokens =>
    cases token with
    | literal s =>
      rcases tokens with _ | ⟨next, tokens⟩
      · rcases others with _ | ⟨_ | _ | _ | _, others⟩ <;> rfl
      · rfl
    | wildcard => rfl
    | var v => rfl
    | operator op => rfl

theorem isLiteral_of_parseNamedOperator {afterDash : Text} {start : Nat} {token : Token}
    (h : parseNamedOperator afterDash start = .ok token) : token.isLiteral = false := by
  simp only [parseNamedOperator] at h
  split at h
  · cases h
  · split at h
    · obtain ⟨vs, -, h⟩ := except_bind_eq_ok_iff.1 h
      split at h <;> cases h <;> rfl
    · cases h

/-- An expression is never literal text. -/
theorem isLiteral_of_parseExpression {body : Text} {start : Nat} {token : Token}
    (h : parseExpression body start = .ok token) : token.isLiteral = false := by
  unfold parseExpression at h
  split at h
  · cases h
  · exact isLiteral_of_parseNamedOperator h
  · split at h
    · obtain ⟨vs, -, hok⟩ := except_bind_eq_ok_iff.1 h
      cases hok
      rfl
    · split at h
      · obtain ⟨v, -, rfl⟩ := except_map_eq_ok_iff.1 h
        rfl
      · cases h

/-- A scan that ends well ends in plain text, and what follows is scanned from there. -/
theorem scan_append_of_ok {position : Nat} {state : ScanState} {s t : Text}
    {tokens : List Token} (h : scan position state s = .ok tokens) :
    scan position state (s ++ t) =
      (scan (position + s.utf8Size) .plain t).map (spliced tokens) := by
  fun_induction scan position state s generalizing tokens with
  | case1 position =>
    cases h
    rw [List.nil_append, Text.utf8Size_nil, Nat.add_zero]
    cases scan position .plain t with
    | error e => rfl
    | ok others => exact congrArg Except.ok (spliced_nil others).symm
  | case2 position rest ih =>
    rw [List.cons_append, scan, ih h, Text.utf8Size_cons, ← Nat.add_assoc]
    rfl
  | case3 position rest => cases h
  | case4 position rest ih =>
    obtain ⟨others, hothers, rfl⟩ := except_map_eq_ok_iff.1 h
    rw [List.cons_append, scan, ih hothers, Text.utf8Size_cons, ← Nat.add_assoc, except_map_map]
    rfl
  | case5 position c rest hopen hclose hstar ih =>
    obtain ⟨others, hothers, rfl⟩ := except_map_eq_ok_iff.1 h
    rw [List.cons_append, scan, ih hothers, Text.utf8Size_cons, ← Nat.add_assoc, except_map_map]
    · congr 1
      funext more
      exact (spliced_consLiteral c others more).symm
    · exact hopen
    · exact hclose
    · exact hstar
  | case6 position opened bodyRev => cases h
  | case7 position opened bodyRev rest => cases h
  | case8 position opened bodyRev rest ih =>
    obtain ⟨token, htoken, h⟩ := except_bind_eq_ok_iff.1 h
    obtain ⟨others, hothers, hok⟩ := except_bind_eq_ok_iff.1 h
    cases hok
    have hliteral := isLiteral_of_parseExpression htoken
    rw [List.cons_append, scan, htoken, ih hothers, Text.utf8Size_cons, ← Nat.add_assoc,
      funext (spliced_cons_of_not_literal hliteral others)]
    show _ = (scan (position + 1 + Text.utf8Size rest) .plain t).map _
    cases scan (position + 1 + Text.utf8Size rest) .plain t <;> rfl
  | case9 position opened bodyRev c rest hopen hclose ih =>
    rw [List.cons_append, scan, ih h, Text.utf8Size_cons, ← Nat.add_assoc]
    · exact hopen
    · exact hclose

/-- A scan that fails before the end of a text has not seen what follows it. -/
theorem scan_append_of_error {position : Nat} {state : ScanState} {s t : Text}
    {e : TemplateError} (h : scan position state s = .error e)
    (hclosed : ∀ opened, e ≠ .unclosedExpression opened) :
    scan position state (s ++ t) = .error e := by
  fun_induction scan position state s with
  | case1 position => cases h
  | case2 position rest ih => exact ih h
  | case3 position rest => exact h
  | case4 position rest ih =>
    rw [List.cons_append, scan, except_map_eq_error_iff]
    exact ih (except_map_eq_error_iff.1 h)
  | case5 position c rest hopen hclose hstar ih =>
    rw [List.cons_append, scan, except_map_eq_error_iff]
    · exact ih (except_map_eq_error_iff.1 h)
    · exact hopen
    · exact hclose
    · exact hstar
  | case6 position opened bodyRev =>
    cases h
    exact absurd rfl (hclosed opened)
  | case7 position opened bodyRev rest => exact h
  | case8 position opened bodyRev rest ih =>
    rw [List.cons_append, scan, except_bind_eq_error_iff]
    rcases except_bind_eq_error_iff.1 h with hbody | ⟨token, htoken, h⟩
    · exact Or.inl hbody
    · refine Or.inr ⟨token, htoken, except_bind_eq_error_iff.2 (Or.inl (ih ?_))⟩
      rcases except_bind_eq_error_iff.1 h with hrest | ⟨others, -, hok⟩
      · exact hrest
      · cases hok
  | case9 position opened bodyRev c rest hopen hclose ih =>
    rw [List.cons_append, scan]
    · exact ih h
    · exact hopen
    · exact hclose

/-! ## Two templates -/

/-- **Reading is compositional.**  Behind a template, another template adds its tokens
and a fault stands as many bytes later as the first one is long; behind a text with a
fault nothing matters, unless the fault is that an expression is still open. -/
theorem parseTokens_append (s t : Text) :
    (∀ tokens others, parseTokens s = .ok tokens → parseTokens t = .ok others →
      parseTokens (s ++ t) = .ok (spliced tokens others)) ∧
    (∀ tokens e, parseTokens s = .ok tokens → parseTokens t = .error e →
      parseTokens (s ++ t) = .error (e.shift s.utf8Size)) ∧
    ∀ e, parseTokens s = .error e → (∀ opened, e ≠ .unclosedExpression opened) →
      parseTokens (s ++ t) = .error e := by
  have hbehind : ∀ tokens, parseTokens s = .ok tokens →
      parseTokens (s ++ t) = (moved s.utf8Size (parseTokens t)).map (spliced tokens) := by
    intro tokens hs
    have happend := scan_append_of_ok (t := t) hs
    have hmoved : scan (0 + s.utf8Size) .plain t = moved s.utf8Size (parseTokens t) :=
      scan_shift 0 .plain t
    rw [hmoved] at happend
    exact happend
  refine ⟨?tokens, ?fault, ?behindFault⟩
  case tokens =>
    intro tokens others hs ht
    rw [hbehind tokens hs, ht]
    rfl
  case fault =>
    intro tokens e hs ht
    rw [hbehind tokens hs, ht]
    rfl
  case behindFault =>
    intro e hs hclosed
    exact scan_append_of_error hs hclosed

/-- Literal text across the seam, an item without a name behind a character of two
bytes, and a brace too many in front of another one. -/
theorem parseTokens_append_seams :
    parseTokens ("/é".toList ++ "b\x7bx\x7d".toList) =
        .ok [.literal "/éb".toList, .var ⟨['x'], none, none⟩] ∧
      parseTokens ("é\x7bx\x7d".toList ++ "\x7b;a,\x7d".toList) =
        .error (.emptyVariableName 9) ∧
      parseTokens ("\x7ba\x7d\x7d".toList ++ "\x7d\x7b".toList) =
        .error (.unbalancedBrace 3) := by
  refine ⟨?_, ?_, ?_⟩
  · exact (parseTokens_append _ _).1 [.literal "/é".toList]
      [.literal ['b'], .var ⟨['x'], none, none⟩] (by rfl) (by rfl)
  · exact (parseTokens_append _ _).2.1 [.literal ['é'], .var ⟨['x'], none, none⟩]
      (.emptyVariableName 4) (by rfl) (by rfl)
  · exact (parseTokens_append _ _).2.2 _ (by rfl) (by rintro opened ⟨⟩)

end Template

end UriRouting
