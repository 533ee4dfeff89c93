import UriRouting.Pattern.Basic
import UriRouting.Proofs.Template.Expression

/-!
# Reading and writing templates

Reading a template and writing its tokens undo each other, in both orders.

* `Template.scan_spec` is the invariant of the scan: what has been read and not
  yet turned into a token, followed by what is left, is what the resulting tokens
  write.  Hence `Template.textOf_of_parseTokens` and
  `Template.wellFormedSeq_of_parseTokens`.
* `Template.scan_textOf` is the converse, by recursion on the tokens: a literal is
  read character by character, an expression up to its closing brace.
* `Template.parseTokens_sound` and `Template.parseTokens_textOf` say the same of
  whole templates.

A template is therefore determined by its tokens, and its text serves as well as
its tokens wherever templates are compared.
-/

namespace UriRouting

namespace Token

@[simp] theorem textOf_nil : textOf [] = [] := rfl

@[simp] theorem textOf_cons (token : Token) (tokens : List Token) :
    textOf (token :: tokens) = token.text ++ textOf tokens := List.flatMap_cons

end Token

namespace Template

open Token

/-! ## Literal text -/

@[simp] theorem textOf_consLiteral (c : Char) (tokens : List Token) :
    textOf (consLiteral c tokens) = c :: textOf tokens := by
  unfold consLiteral
  split <;> simp [Token.text]

theorem wellFormedSeq_consLiteral {c : Char} (hc : c ∉ ['{', '}', '*']) {tokens : List Token}
    (h : WellFormedSeq tokens) : WellFormedSeq (consLiteral c tokens) := by
  unfold consLiteral
  split
  · rename_i t rest
    obtain ⟨⟨-, ht⟩, hnext, hrest⟩ := wellFormedSeq_cons.1 h
    exact wellFormedSeq_cons.2 ⟨⟨List.cons_ne_nil c t, Text.avoids_cons.2 ⟨hc, ht⟩⟩, hnext, hrest⟩
  · rename_i hliteral
    refine wellFormedSeq_cons.2 ⟨⟨List.cons_ne_nil c [], ?_⟩, ?_, h⟩
    · exact Text.avoids_cons.2 ⟨hc, Text.avoids_nil _⟩
    · rintro next hnext ⟨-, hnextLiteral⟩
      obtain ⟨rest, rfl⟩ := List.head?_eq_some_iff.1 hnext
      cases next with
      | literal t => exact hliteral t rest rfl
      | wildcard => cases hnextLiteral
      | var v => cases hnextLiteral
      | operator op => cases hnextLiteral

/-- A text put in front of tokens that do not begin with a literal is one literal. -/
theorem foldr_consLiteral {t : Text} (ht : t ≠ []) {tokens : List Token}
    (h : ∀ next ∈ tokens.head?, next.isLiteral = false) :
    t.foldr consLiteral tokens = .literal t :: tokens := by
  induction t with
  | nil => exact absurd rfl ht
  | cons c t ih =>
    rw [List.foldr_cons]
    cases t with
    | nil =>
      cases tokens with
      | nil => rfl
      | cons next rest =>
        have hnext := h next rfl
        cases next with
        | literal t => cases hnext
        | wildcard => rfl
        | var v => rfl
        | operator op => rfl
    | cons d t => rw [ih (List.cons_ne_nil d t), consLiteral]

/-! ## What a scan gives -/

/-- What a scan has read and not yet turned into a token. -/
def ScanState.pending : ScanState → Text
  | .plain => []
  | .inside _ bodyRev => '{' :: bodyRev.reverse

/-- The body read so far has no brace. -/
def ScanState.BraceFree : ScanState → Prop
  | .plain => True
  | .inside _ bodyRev => bodyRev.Avoids ['{', '}']

/-- The tokens that a scan gives write what was pending and what was left, and are
well-formed. -/
theorem scan_spec {position : Nat} {state : ScanState} {text : Text} {tokens : List Token}
    (h : scan position state text = .ok tokens) (hstate : state.BraceFree) :
    textOf tokens = state.pending ++ text ∧ WellFormedSeq tokens := by
  fun_induction scan position state text generalizing tokens with
  | case1 position =>
    cases h
    exact ⟨rfl, wellFormedSeq_nil⟩
  | case2 position rest ih => exact ih h (Text.avoids_nil _)
  | case3 position rest => cases h
  | case4 position rest ih =>
    obtain ⟨others, hothers, rfl⟩ := except_map_eq_ok_iff.1 h
    obtain ⟨htext, hwf⟩ := ih hothers trivial
    refine ⟨?_, hwf.cons trivial rfl⟩
    rw [textOf_cons, htext]
    rfl
  | case5 position c rest hopen hclose hstar ih =>
    obtain ⟨others, hothers, rfl⟩ := except_map_eq_ok_iff.1 h
    obtain ⟨htext, hwf⟩ := ih hothers trivial
    refine ⟨?_, wellFormedSeq_consLiteral ?_ hwf⟩
    · rw [textOf_consLiteral, htext]
      rfl
    · simp only [List.mem_cons, List.not_mem_nil, or_false, not_or]
      exact ⟨hopen, hclose, hstar⟩
  | case6 position opened bodyRev => cases h
  | case7 position opened bodyRev rest => cases h
  | case8 position opened bodyRev rest ih =>
    obtain ⟨token, htoken, h⟩ := except_bind_eq_ok_iff.1 h
    obtain ⟨others, hothers, hok⟩ := except_bind_eq_ok_iff.1 h
    cases hok
    obtain ⟨htext, hwf⟩ := ih hothers trivial
    obtain ⟨hbody, htokenwf⟩ := wellFormed_of_parseExpression (Text.avoids_reverse.2 hstate) htoken
    refine ⟨?_, hwf.cons htokenwf (isLiteral_of_body? hbody)⟩
    rw [textOf_cons, text_of_body? hbody, htext]
    simp [ScanState.pending]
  | case9 position opened bodyRev c rest hopen hclose ih =>
    have hc : c ∉ ['{', '}'] := by
      simp only [List.mem_cons, List.not_mem_nil, or_false, not_or]
      exact ⟨hopen, hclose⟩
    obtain ⟨htext, hwf⟩ := ih h (Text.avoids_cons.2 ⟨hc, hstate⟩)
    refine ⟨?_, hwf⟩
    rw [htext]
    simp [ScanState.pending]

theorem textOf_of_parseTokens {source : Text} {tokens : List Token}
    (h : parseTokens source = .ok tokens) : textOf tokens = source :=
  (scan_spec h trivial).1

theorem wellFormedSeq_of_parseTokens {source : Text} {tokens : List Token}
    (h : parseTokens source = .ok tokens) : WellFormedSeq tokens :=
  (scan_spec h trivial).2

theorem wellFormedSeq_tokens (t : Template) : WellFormedSeq t.tokens :=
  wellFormedSeq_of_parseTokens t.parsed

/-- The operator behind the literals that a pattern begins with is well-formed. -/
theorem wellFormed_of_tokens_eq {p : Pattern} {lits : List Text} {op : Operator}
    {tokens : List Token} (htokens : p.tokens = lits.map .literal ++ .operator op :: tokens) :
    op.WellFormed := by
  refine (wellFormedSeq_tokens p.template).token (.operator op) ?_
  show _ ∈ p.tokens
  rw [htokens]
  exact List.mem_append_right _ List.mem_cons_self

/-! ## What writing gives back -/

/-- Literal text is read character by character. -/
theorem scan_plain_append {t : Text} (h : t.Avoids ['{', '}', '*']) (position : Nat)
    (rest : Text) :
    scan position .plain (t ++ rest) =
      (scan (position + t.utf8Size) .plain rest).map fun tokens => t.foldr consLiteral tokens := by
  induction t generalizing position with
  | nil =>
    rw [List.nil_append, Text.utf8Size_nil, Nat.add_zero]
    cases scan position .plain rest <;> rfl
  | cons c t ih =>
    obtain ⟨hc, ht⟩ := Text.avoids_cons.1 h
    simp only [List.mem_cons, List.not_mem_nil, or_false, not_or] at hc
    rw [List.cons_append, scan, ih ht, Text.utf8Size_cons, Nat.add_assoc]
    · cases scan (position + (c.utf8Size + Text.utf8Size t)) .plain rest <;> rfl
    · exact hc.1
    · exact hc.2.1
    · exact hc.2.2

/-- The body of an expression is read up to the next brace. -/
theorem scan_inside_body {body : Text} (h : body.Avoids ['{', '}']) (position opened : Nat)
    (bodyRev rest : Text) :
    scan position (.inside opened bodyRev) (body ++ rest) =
      scan (position + body.utf8Size) (.inside opened (body.reverse ++ bodyRev)) rest := by
  induction body generalizing position bodyRev with
  | nil => rfl
  | cons c body ih =>
    obtain ⟨hc, hbody⟩ := Text.avoids_cons.1 h
    simp only [List.mem_cons, List.not_mem_nil, or_false, not_or] at hc
    rw [List.cons_append, scan, ih hbody, Text.utf8Size_cons, List.reverse_cons,
      List.append_assoc, List.singleton_append, Nat.add_assoc position]
    · exact hc.1
    · exact hc.2

/-- An expression is read up to its closing brace. -/
theorem scan_inside_append {body : Text} (h : body.Avoids ['{', '}']) (position opened : Nat)
    (bodyRev rest : Text) :
    scan position (.inside opened bodyRev) (body ++ '}' :: rest) =
      parseExpression (bodyRev.reverse ++ body) (opened + 1) >>= fun token =>
        scan (position + body.utf8Size + 1) .plain rest >>= fun tokens =>
          .ok (token :: tokens) := by
  rw [scan_inside_body h, scan, List.reverse_append, List.reverse_reverse]

/-- A well-formed expression is read in one piece. -/
theorem scan_expression {token : Token} (h : token.WellFormed) {body : Text}
    (hbody : token.body? = some body) (position : Nat) (rest : Text) :
    scan position .plain (token.text ++ rest) =
      (scan (position + 1 + body.utf8Size + 1) .plain rest).map (token :: ·) := by
  have havoid := h.avoids_body hbody
  have htoken : parseExpression body (position + 1) = .ok token :=
    (parseExpression_eq_ok_iff havoid).2 ⟨hbody, h⟩
  rw [text_of_body? hbody, List.cons_append, List.cons_append, scan, List.append_assoc,
    List.singleton_append, scan_inside_append havoid, List.reverse_nil, List.nil_append, htoken]
  rfl

/-- Well-formed tokens are read back from what they write, wherever this stands. -/
theorem scan_textOf {tokens : List Token} (h : WellFormedSeq tokens) (position : Nat) :
    scan position .plain (textOf tokens) = .ok tokens := by
  induction tokens generalizing position with
  | nil => rfl
  | cons token tokens ih =>
    obtain ⟨htoken, hnext, hrest⟩ := wellFormedSeq_cons.1 h
    rw [textOf_cons]
    cases token with
    | literal t =>
      rw [Token.text, scan_plain_append htoken.2, ih hrest]
      refine congrArg Except.ok (foldr_consLiteral htoken.1 fun next hmem => ?_)
      exact eq_false_of_ne_true fun hliteral => hnext next hmem ⟨rfl, hliteral⟩
    | wildcard =>
      rw [Token.text, List.singleton_append, scan, ih hrest]
      rfl
    | var v =>
      rw [scan_expression htoken rfl, ih hrest]
      rfl
    | operator op =>
      rw [scan_expression htoken rfl, ih hrest]
      rfl

/-! ## Both orders -/

/-- **Reading loses nothing.**  The tokens of a template write the template, and
are well-formed; so two patterns have the same tokens exactly when they have the
same text. -/
theorem parseTokens_faithful :
    (∀ (source : Text) (tokens : List Token), parseTokens source = .ok tokens →
      textOf tokens = source ∧ WellFormedSeq tokens) ∧
      ∀ p q : Pattern, (p == q) = true ↔ p.source = q.source := by
  refine ⟨fun source tokens h => ⟨textOf_of_parseTokens h, wellFormedSeq_of_parseTokens h⟩,
    fun p q => ?_⟩
  show (p.tokens == q.tokens) = true ↔ p.source = q.source
  rw [beq_iff_eq]
  constructor
  · intro h
    rw [Pattern.source, Pattern.source, ← textOf_of_parseTokens p.template.parsed,
      ← textOf_of_parseTokens q.template.parsed]
    exact congrArg textOf h
  · intro h
    have hp := p.template.parsed
    rw [show p.template.source = q.template.source from h, q.template.parsed] at hp
    exact (Except.ok.inj hp).symm

/-- An operator may hold a bar, and a lone variable a comma, in a default. -/
theorem parseTokens_faithful_delimiters :
    textOf [.literal ['/'], .var ⟨['a'], some ['x', ',', 'y'], some ['i']⟩, .wildcard,
        .operator ⟨.join ['&'], [⟨['b'], some ['|'], none⟩, ⟨['c'], some [], none⟩]⟩] =
      "/\x7bi:a=x,y\x7d*\x7b-join|&|b=|,c=\x7d".toList ∧
      WellFormedSeq [.literal ['/'], .var ⟨['a'], some ['x', ',', 'y'], some ['i']⟩, .wildcard,
        .operator ⟨.join ['&'], [⟨['b'], some ['|'], none⟩, ⟨['c'], some [], none⟩]⟩] :=
  parseTokens_faithful.1 _ _ (by rfl)

/-- **Writing loses nothing.**  Well-formed tokens are read back from what they
write. -/
theorem parseTokens_textOf {tokens : List Token} (h : WellFormedSeq tokens) :
    parseTokens (textOf tokens) = .ok tokens :=
  scan_textOf h 0

/-- Delimiters of the syntax that stand where they are none: `=`, `:`, `|` and `*`
in defaults, `,` and `=` in the text of an operator, which may also be empty. -/
theorem parseTokens_textOf_delimiters :
    WellFormedSeq [.literal ['/'], .wildcard,
        .operator ⟨.prefixed [',', '='], [⟨['a'], some ['=', ':', '|', '*'], some ['i']⟩]⟩,
        .literal ['-'], .operator ⟨.list [], [⟨['b'], some [], none⟩]⟩,
        .operator ⟨.queryParameters, [⟨['c'], none, none⟩, ⟨['d'], none, none⟩]⟩] ∧
      parseTokens "/*\x7b-prefix|,=|i:a==:|*\x7d-\x7b-list||b=\x7d\x7b?c,d\x7d".toList =
        .ok [.literal ['/'], .wildcard,
          .operator ⟨.prefixed [',', '='], [⟨['a'], some ['=', ':', '|', '*'], some ['i']⟩]⟩,
          .literal ['-'], .operator ⟨.list [], [⟨['b'], some [], none⟩]⟩,
          .operator ⟨.queryParameters, [⟨['c'], none, none⟩, ⟨['d'], none, none⟩]⟩] := by
  refine ⟨?wellFormed, parseTokens_textOf ?wellFormed⟩
  decide

end Template
end UriRouting
