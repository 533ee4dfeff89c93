import UriRouting.Proofs.Template.Concatenation
import UriRouting.Proofs.Template.RoundTrip

/-!
# Where a fault stands

Three kinds of faults come with a byte position, and the reader computes it anew in every
branch: where the scan stands, where the body of an expression begins, one byte behind a
symbol, at the length of the body less the length of the list, or as a running sum over
items.  This file says what stands at each of these positions.

## 1.  Items

`Template.Nameless` are the items in which the name of a variable is empty.  They are the
only ones for which `parseVariable` reports a position (`parseVariable_fault`).

## 2.  Expressions

`Template.ItemAt` says where the items of an expression stand in its body.  A fault inside
an expression either has no position, or it has the position of an item without a name
(`parseExpression_fault`).

## 3.  Texts

`Template.FaultAt`: the four ways in which a text can be at fault right at its front.
`parseTokens_eq_error_iff`: a text fails exactly if it is a template with such a text
behind it.  So what stands before the fault is a template, and `parseTokens_firstFault`
reads off what is found at the position that is reported.
-/

namespace UriRouting

/-- The position that a fault has, if it has one. -/
def TemplateError.position? : TemplateError → Option Nat
  | unbalancedBrace position => some position
  | unclosedExpression position => some position
  | emptyVariableName position => some position
  | _ => none

namespace Template

/-! ## 1.  Items -/

/-- An item that declares a variable without a name: there may be a type tag with its
colon, and a default with its equals sign, but nothing stands where the name should. -/
def Nameless (item : Text) : Prop :=
  ∃ kind default : Option Text, item = Variable.text ⟨[], default, kind⟩ ∧
    ∀ tag ∈ kind, '=' ∉ tag ∧ ':' ∉ tag

theorem nameless_nil : Nameless [] := ⟨none, none, rfl, by rintro tag ⟨⟩⟩

theorem colon_notMem_of_cutTag {declaration name tag : Text}
    (h : cutTag declaration = (some tag, name)) : ':' ∉ tag := by
  cases hcut : declaration.splitOnce ':' with
  | none => simp [cutTag, hcut] at h
  | some cut =>
    simp only [cutTag, hcut, Prod.mk.injEq, Option.some.injEq] at h
    obtain ⟨rfl, -⟩ := h
    exact (Text.splitOnce_eq_some_iff.1 hcut).2

theorem checkedVariable_fault {position : Nat} {kind : Option Text} {name : Text}
    {default : Option Text} {e : TemplateError}
    (h : checkedVariable position kind name default = .error e) :
    e.position? = none ∨ name = [] ∧ e = .emptyVariableName position := by
  unfold checkedVariable at h
  split at h
  · rename_i hempty
    cases h
    exact Or.inr ⟨List.isEmpty_iff.1 hempty, rfl⟩
  · refine Or.inl ?_
    split at h
    · cases h
      rfl
    · split at h
      · split at h
        · cases h
        · cases h
          rfl
      · cases h

/-- An item is at fault with its position only if it has no name. -/
theorem parseVariable_fault {item : Text} {position : Nat} {e : TemplateError}
    (h : parseVariable item position = .error e) :
    e.position? = none ∨ Nameless item ∧ e = .emptyVariableName position := by
  rcases hdefault : cutDefault item with ⟨declaration, default⟩
  rcases htag : cutTag declaration with ⟨kind, name⟩
  simp only [parseVariable_eq, hdefault, htag] at h
  obtain hnone | ⟨rfl, he⟩ := checkedVariable_fault h
  · exact Or.inl hnone
  · obtain ⟨hitem, hequals⟩ := cutDefault_eq_iff.1 hdefault
    have hdeclaration := append_of_cutTag htag
    refine Or.inr ⟨⟨kind, default, ?_, ?_⟩, he⟩
    · rw [hitem, hdeclaration, Variable.text]
    · rintro tag ⟨⟩
      rw [hdeclaration, List.append_nil, Option.elim_some, List.mem_append, not_or] at hequals
      exact ⟨hequals.1, colon_notMem_of_cutTag htag⟩

/-! ## 2.  Expressions -/

/-- The items in front of another one, each with its comma. -/
def itemsBefore (items : List Text) : Text := items.flatMap (· ++ [','])

/-- The items behind another one, each with its comma. -/
def itemsBehind (items : List Text) : Text := items.flatMap (',' :: ·)

theorem utf8Size_itemsBefore_cons (item : Text) (items : List Text) :
    (itemsBefore (item :: items)).utf8Size = item.utf8Size + 1 + (itemsBefore items).utf8Size := by
  rw [itemsBefore, List.flatMap_cons, Text.utf8Size_append, Text.utf8Size_append]
  rfl

/-- A list of items, read from one of them on. -/
theorem joined_append_cons (earlier : List Text) (item : Text) (later : List Text) :
    Text.joined [','] (earlier ++ item :: later) =
      itemsBefore earlier ++ item ++ itemsBehind later := by
  induction earlier with
  | nil => exact Text.joined_cons _ _ _
  | cons first earlier ih =>
    obtain ⟨second, others, hothers⟩ := List.exists_cons_of_ne_nil
      (List.append_ne_nil_of_right_ne_nil earlier (List.cons_ne_nil item later))
    rw [List.cons_append, hothers, Text.joined_cons_cons, ← hothers, ih]
    simp [itemsBefore]

/-- A list of items is at fault with the position of the first item without a name. -/
theorem parseItems_fault {items seen : List Text} {position : Nat} {e : TemplateError}
    (h : parseItems seen position items = .error e) :
    e.position? = none ∨ ∃ earlier item later, items = earlier ++ item :: later ∧
      Nameless item ∧ e = .emptyVariableName (position + (itemsBefore earlier).utf8Size) := by
  induction items generalizing seen position with
  | nil => cases h
  | cons item items ih =>
    rw [parseItems] at h
    obtain hitem | ⟨v, -, hrest⟩ := except_bind_eq_error_iff.1 h
    · obtain hnone | ⟨hnameless, he⟩ := parseVariable_fault hitem
      · exact Or.inl hnone
      · exact Or.inr ⟨[], item, items, rfl, hnameless, he⟩
    · split at hrest
      · cases hrest
        exact Or.inl rfl
      · obtain hothers | ⟨vs, -, hok⟩ := except_bind_eq_error_iff.1 hrest
        · obtain hnone | ⟨earlier, nameless, later, rfl, hnameless, he⟩ := ih hothers
          · exact Or.inl hnone
          · refine Or.inr ⟨item :: earlier, nameless, later, rfl, hnameless, ?_⟩
            rw [he, utf8Size_itemsBefore_cons, ← Nat.add_assoc, ← Nat.add_assoc]
        · cases hok

/-- An item in the body of an expression, with what stands before and behind it there. -/
inductive ItemAt : (lead item tail : Text) → Prop where
  /-- The body is an item, and nothing else. -/
  | alone {item : Text} (h : ∀ c ∈ item.head?, isNameStart c = true) : ItemAt [] item []
  /-- The item is one of those of an operator, between which commas stand. -/
  | listed (form : OperatorForm) (hbar : '|' ∉ form.argument) {earlier later : List Text}
      {item : Text} (hcomma : ∀ field ∈ earlier ++ item :: later, ',' ∉ field) :
      ItemAt (form.text ++ itemsBefore earlier) item (itemsBehind later)

/-- A fault in a body that begins at `start`: it has no position, or that of an item of the
body that has no name. -/
def PointsAtItem (body : Text) (start : Nat) (e : TemplateError) : Prop :=
  e.position? = none ∨ ∃ lead item tail : Text, body = lead ++ item ++ tail ∧
    ItemAt lead item tail ∧ Nameless item ∧ e = .emptyVariableName (start + lead.utf8Size)

/-- The list of an operator begins behind all that stands before it in the body. -/
theorem parseVariables_fault {form : OperatorForm} (hbar : '|' ∉ form.argument) {list : Text}
    {start : Nat} {e : TemplateError}
    (h : parseVariables list (start + form.text.utf8Size) = .error e) :
    PointsAtItem (form.text ++ list) start e := by
  obtain hnone | ⟨earlier, item, later, hitems, hnameless, he⟩ := parseItems_fault h
  · exact Or.inl hnone
  · obtain ⟨-, hcomma, hjoined⟩ := Text.fields_spec ',' list
    rw [hitems] at hcomma hjoined
    rw [joined_append_cons] at hjoined
    refine Or.inr ⟨_, item, _, ?_, .listed form hbar hcomma, hnameless, ?_⟩
    · rw [← hjoined, List.append_assoc, List.append_assoc, List.append_assoc]
    · rw [he, Text.utf8Size_append, Nat.add_assoc]

theorem utf8Size_text_of_ofSymbol? {c : Char} {form : OperatorForm}
    (h : OperatorForm.ofSymbol? c = some form) : form.text.utf8Size = 1 := by
  unfold OperatorForm.ofSymbol? at h
  split at h <;> cases h <;> rfl

theorem parseNamedOperator_fault {afterDash : Text} {start : Nat} {e : TemplateError}
    (h : parseNamedOperator afterDash start = .error e) :
    PointsAtItem ('-' :: afterDash) start e := by
  have hread := h
  simp only [parseNamedOperator] at hread
  split at hread
  · cases hread
    exact Or.inl rfl
  · rename_i form hform
    split at hread
    · rename_i name arg list hparts
      rw [hparts, List.headD_cons] at hform
      obtain ⟨hwritten, -, harg⟩ := Text.fieldsAtMost_three_eq_iff.1 hparts
      obtain ⟨-, hargument, htext⟩ := ofName?_spec hform arg
      have hbody : '-' :: afterDash = (form arg).text ++ list := by
        rw [htext, hwritten]
        simp
      -- the list is what the body ends with, so it begins where its length says
      have hstart : start + Text.utf8Size ('-' :: afterDash) - list.utf8Size =
          start + (form arg).text.utf8Size := by
        rw [hbody, Text.utf8Size_append]
        omega
      rw [parseNamedOperator_of_fields hparts hform, hstart] at h
      obtain hvars | ⟨vs, -, hclose⟩ := except_bind_eq_error_iff.1 h
      · rw [hbody]
        exact parseVariables_fault (hargument.symm ▸ harg) hvars
      · split at hclose
        · cases hclose
          exact Or.inl rfl
        · cases hclose
    · cases hread
      exact Or.inl rfl

/-- **In an expression, a position is that of an item without a name.** -/
theorem parseExpression_fault {body : Text} {start : Nat} {e : TemplateError}
    (h : parseExpression body start = .error e) : PointsAtItem body start e := by
  cases body with
  | nil =>
    cases h
    exact Or.inr ⟨[], [], [], rfl, .alone (by rintro c ⟨⟩), nameless_nil, rfl⟩
  | cons c rest =>
    by_cases hdash : c = '-'
    · subst hdash
      exact parseNamedOperator_fault h
    cases hsymbol : OperatorForm.ofSymbol? c with
    | some form =>
      obtain ⟨hargument, -, htext⟩ := ofSymbol?_spec hsymbol
      have hbar : '|' ∉ form.argument := by
        rw [hargument]
        exact List.not_mem_nil
      rw [parseExpression_symbol hsymbol, ← utf8Size_text_of_ofSymbol? hsymbol] at h
      obtain hvars | ⟨vs, -, hok⟩ := except_bind_eq_error_iff.1 h
      · rw [← List.singleton_append, ← htext]
        exact parseVariables_fault hbar hvars
      · cases hok
    | none =>
      by_cases hstart : isNameStart c = true
      · rw [parseExpression_name hstart] at h
        obtain hnone | ⟨hnameless, he⟩ := parseVariable_fault (except_map_eq_error_iff.1 h)
        · exact Or.inl hnone
        · refine Or.inr ⟨[], c :: rest, [], (List.append_nil _).symm, .alone ?_, hnameless, he⟩
          rintro d ⟨⟩
          exact hstart
      · rw [parseExpression, hsymbol, if_neg hstart] at h
        · cases h
          exact Or.inl rfl
        · exact hdash

/-! ## 3.  Texts -/

/-- A text that is at fault right at its front, `q` bytes behind the beginning of the
template, with the fault that is reported. -/
inductive FaultAt (q : Nat) : Text → TemplateError → Prop where
  /-- A brace closes no expression. -/
  | stray (rest : Text) : FaultAt q ('}' :: rest) (.unbalancedBrace q)
  /-- A brace opens inside an expression. -/
  | nested {body : Text} (hbody : body.Avoids ['{', '}']) (rest : Text) :
      FaultAt q ('{' :: body ++ '{' :: rest) (.unbalancedBrace (q + 1 + body.utf8Size))
  /-- An expression has no end. -/
  | unclosed {body : Text} (hbody : body.Avoids ['{', '}']) :
      FaultAt q ('{' :: body) (.unclosedExpression q)
  /-- An expression is at fault itself. -/
  | expression {body : Text} (hbody : body.Avoids ['{', '}']) {e : TemplateError}
      (h : parseExpression body (q + 1) = .error e) (rest : Text) :
      FaultAt q ('{' :: body ++ '}' :: rest) e

/-- Such a fault is the one that a scan of the text reports. -/
theorem FaultAt.scan {q : Nat} {text : Text} {e : TemplateError} (h : FaultAt q text e) :
    scan q .plain text = .error e := by
  cases h with
  | stray rest => rfl
  | nested hbody rest =>
    rw [List.cons_append, Template.scan, scan_inside_body hbody]
    rfl
  | @unclosed body hbody =>
    have hscan := scan_inside_body hbody (q + 1) q [] []
    rw [List.append_nil] at hscan
    rw [Template.scan, hscan]
    rfl
  | expression hbody h rest =>
    rw [List.cons_append, Template.scan, scan_inside_append hbody, List.reverse_nil,
      List.nil_append, h]
    rfl

/-- A text that begins at a position and is a template up to a fault. -/
def FailsWith (position : Nat) (text : Text) (e : TemplateError) : Prop :=
  ∃ before rest, text = before ++ rest ∧ (∃ tokens, scan position .plain before = .ok tokens) ∧
    FaultAt (position + Text.utf8Size before) rest e

theorem FaultAt.failsWith {position : Nat} {text : Text} {e : TemplateError}
    (h : FaultAt position text e) : FailsWith position text e :=
  ⟨[], text, rfl, ⟨[], rfl⟩, h⟩

/-- A text behind a template fails as it does alone. -/
theorem FailsWith.append {position : Nat} {front text : Text} {e : TemplateError}
    (h : FailsWith (position + front.utf8Size) text e) {tokens : List Token}
    (hfront : scan position .plain front = .ok tokens) :
    FailsWith position (front ++ text) e := by
  obtain ⟨before, rest, rfl, ⟨others, hbefore⟩, hfault⟩ := h
  refine ⟨front ++ before, rest, (List.append_assoc _ _ _).symm,
    ⟨Token.spliced tokens others, ?_⟩, ?_⟩
  · rw [scan_append_of_ok hfront, hbefore]
    rfl
  · rw [Text.utf8Size_append, ← Nat.add_assoc]
    exact hfault

/-- An expression that can be read is a template. -/
theorem scan_expression_of_ok {body : Text} (hbody : body.Avoids ['{', '}']) {position : Nat}
    {token : Token} (h : parseExpression body (position + 1) = .ok token) :
    scan position .plain ('{' :: body ++ ['}']) = .ok [token] := by
  rw [List.cons_append, scan, scan_inside_append hbody, List.reverse_nil, List.nil_append, h]
  rfl

/-- Where the text began that a scan has not yet turned into tokens, and how far the scan
has come since. -/
def ScanState.BeganAt (q position : Nat) : ScanState → Prop
  | .plain => position = q
  | .inside opened bodyRev => opened = q ∧ position = q + 1 + Text.utf8Size bodyRev.reverse

/-- A scan that fails has met a fault, with a template in front of it. -/
theorem scan_fault {position q : Nat} {state : ScanState} {text : Text} {e : TemplateError}
    (h : scan position state text = .error e) (hstate : state.BraceFree)
    (hq : state.BeganAt q position) : FailsWith q (state.pending ++ text) e := by
  fun_induction scan position state text generalizing q with
  | case1 position => cases h
  | case2 position rest ih =>
    obtain rfl : position = q := hq
    exact ih h (Text.avoids_nil _) ⟨rfl, rfl⟩
  | case3 position rest =>
    obtain rfl : position = q := hq
    cases h
    exact (FaultAt.stray rest).failsWith
  | case4 position rest ih =>
    obtain rfl : position = q := hq
    have hstar : scan position .plain ['*'] = .ok [.wildcard] := rfl
    show FailsWith position (['*'] ++ rest) e
    exact (ih (except_map_eq_error_iff.1 h) trivial rfl).append hstar
  | case5 position c rest hopen hclose hstar ih =>
    obtain rfl : position = q := hq
    have hchar : scan position .plain [c] = .ok [.literal [c]] := by
      rw [scan]
      · rfl
      · exact hopen
      · exact hclose
      · exact hstar
    show FailsWith position ([c] ++ rest) e
    exact (ih (except_map_eq_error_iff.1 h) trivial rfl).append hchar
  | case6 position opened bodyRev =>
    obtain ⟨rfl, -⟩ := hq
    cases h
    rw [List.append_nil]
    exact (FaultAt.unclosed (Text.avoids_reverse.2 hstate)).failsWith
  | case7 position opened bodyRev rest =>
    obtain ⟨rfl, rfl⟩ := hq
    cases h
    exact (FaultAt.nested (Text.avoids_reverse.2 hstate) rest).failsWith
  | case8 position opened bodyRev rest ih =>
    obtain ⟨rfl, rfl⟩ := hq
    have hbody : Text.Avoids bodyRev.reverse ['{', '}'] := Text.avoids_reverse.2 hstate
    obtain hfault | ⟨token, htoken, hrest⟩ := except_bind_eq_error_iff.1 h
    · exact (FaultAt.expression hbody hfault rest).failsWith
    · obtain hrest | ⟨tokens, -, hok⟩ := except_bind_eq_error_iff.1 hrest
      · -- the expression is part of the template, and the fault stands behind it
        have hsize : opened + Text.utf8Size ('{' :: bodyRev.reverse ++ ['}']) =
            opened + 1 + Text.utf8Size bodyRev.reverse + 1 := by
          rw [List.cons_append, Text.utf8Size_cons, Text.utf8Size_append,
            show Char.utf8Size '{' = 1 from rfl, show Text.utf8Size ['}'] = 1 from rfl]
          omega
        have hlater : FailsWith (opened + Text.utf8Size ('{' :: bodyRev.reverse ++ ['}'])) rest e :=
          hsize ▸ ih hrest trivial rfl
        have htext : (ScanState.inside opened bodyRev).pending ++ '}' :: rest =
            '{' :: bodyRev.reverse ++ ['}'] ++ rest := by
          rw [ScanState.pending, List.append_assoc, List.singleton_append]
        rw [htext]
        exact hlater.append (scan_expression_of_ok hbody htoken)
      · cases hok
  | case9 position opened bodyRev c rest hopen hclose ih =>
    obtain ⟨rfl, rfl⟩ := hq
    have hc : c ∉ ['{', '}'] := by
      simp only [List.mem_cons, List.not_mem_nil, or_false, not_or]
      exact ⟨hopen, hclose⟩
    have hsize : opened + 1 + Text.utf8Size bodyRev.reverse + c.utf8Size =
        opened + 1 + Text.utf8Size (c :: bodyRev).reverse := by
      rw [List.reverse_cons, Text.utf8Size_append, Nat.add_assoc]
      rfl
    have htext : (ScanState.inside opened bodyRev).pending ++ c :: rest =
        (ScanState.inside opened (c :: bodyRev)).pending ++ rest := by
      rw [ScanState.pending, ScanState.pending, List.reverse_cons, List.cons_append,
        List.cons_append, List.append_assoc, List.singleton_append]
    rw [htext]
    exact ih h (Text.avoids_cons.2 ⟨hc, hstate⟩) ⟨rfl, hsize⟩

/-- **A scan fails exactly if a fault stands behind a template**, and with that fault. -/
theorem scan_eq_error_iff {position : Nat} {text : Text} {e : TemplateError} :
    scan position .plain text = .error e ↔ FailsWith position text e := by
  constructor
  · intro h
    exact scan_fault h trivial rfl
  · rintro ⟨before, rest, rfl, ⟨tokens, hbefore⟩, hfault⟩
    rw [scan_append_of_ok hbefore, hfault.scan]
    rfl

/-- **A position points at the first fault.**  What stands before the failing expression, or
before the brace that closes none, is a template.  A brace that is reported is that closing
brace, or the next brace behind the one that opens the expression; an expression that is
reported as unclosed has no further brace behind it; and where a name is reported as empty,
an item of the expression begins that has no name. -/
theorem parseTokens_firstFault {source : Text} {e : TemplateError}
    (h : parseTokens source = .error e) :
    ∃ before rest : Text, source = before ++ rest ∧ (∃ tokens, parseTokens before = .ok tokens) ∧
      FaultAt before.utf8Size rest e ∧
      (∀ position, e = .unbalancedBrace position →
        (position = before.utf8Size ∧ rest.head? = some '}') ∨
          ∃ body after : Text, rest = '{' :: body ++ '{' :: after ∧ body.Avoids ['{', '}'] ∧
            position = Text.utf8Size (before ++ '{' :: body)) ∧
      (∀ position, e = .unclosedExpression position →
        position = before.utf8Size ∧ ∃ body : Text, rest = '{' :: body ∧ body.Avoids ['{', '}']) ∧
      ∀ position, e = .emptyVariableName position →
        ∃ lead item tail after : Text, rest = '{' :: (lead ++ item ++ tail) ++ '}' :: after ∧
          (lead ++ item ++ tail).Avoids ['{', '}'] ∧ ItemAt lead item tail ∧ Nameless item ∧
          position = Text.utf8Size (before ++ '{' :: lead) := by
  obtain ⟨before, rest, hsource, hbefore, hfault⟩ := scan_eq_error_iff.1 h
  rw [Nat.zero_add] at hfault
  have hposition : ∀ lead : Text, Text.utf8Size (before ++ '{' :: lead) =
      before.utf8Size + 1 + lead.utf8Size := by
    intro lead
    rw [Text.utf8Size_append, Text.utf8Size_cons, Nat.add_assoc]
    rfl
  refine ⟨before, rest, hsource, hbefore, hfault, ?unbalanced, ?unclosed, ?nameless⟩
  case unbalanced =>
    rintro position rfl
    cases hfault with
    | stray after => exact Or.inl ⟨rfl, rfl⟩
    | @nested body hbody after => exact Or.inr ⟨body, after, rfl, hbody, (hposition body).symm⟩
    | expression hbody hread after =>
      obtain hnone | ⟨lead, item, tail, -, -, -, he⟩ := parseExpression_fault hread
      · cases hnone
      · cases he
  case unclosed =>
    rintro position rfl
    cases hfault with
    | @unclosed body hbody => exact ⟨rfl, body, rfl, hbody⟩
    | expression hbody hread after =>
      obtain hnone | ⟨lead, item, tail, -, -, -, he⟩ := parseExpression_fault hread
      · cases hnone
      · cases he
  case nameless =>
    rintro position rfl
    cases hfault with
    | expression hbody hread after =>
      obtain hnone | ⟨lead, item, tail, rfl, hitem, hnameless, he⟩ := parseExpression_fault hread
      · cases hnone
      · cases he
        exact ⟨lead, item, tail, after, rfl, hbody, hitem, hnameless, (hposition lead).symm⟩

/-- Characters of several bytes stand before the expression, in the text of its operator and
in a default; the third item has a tag and a default, both empty, and no name. -/
theorem parseTokens_firstFault_multibyte :
    parseTokens "é\x7bx\x7d*\x7b-join|€|a,b=ü,:=\x7d".toList = .error (.emptyVariableName 24) ∧
      ∃ before lead item tail after : Text,
        "é\x7bx\x7d*\x7b-join|€|a,b=ü,:=\x7d".toList =
          before ++ ('{' :: (lead ++ item ++ tail) ++ '}' :: after) ∧
        (∃ tokens, parseTokens before = .ok tokens) ∧ ItemAt lead item tail ∧ Nameless item ∧
        24 = Text.utf8Size (before ++ '{' :: lead) := by
  have hfails : parseTokens "é\x7bx\x7d*\x7b-join|€|a,b=ü,:=\x7d".toList =
      .error (.emptyVariableName 24) := by rfl
  obtain ⟨before, rest, hsource, hbefore, -, -, -, hnameless⟩ := parseTokens_firstFault hfails
  obtain ⟨lead, item, tail, after, rfl, -, hitem, hname, hposition⟩ := hnameless 24 rfl
  exact ⟨hfails, before, lead, item, tail, after, hsource, hbefore, hitem, hname, hposition⟩

end Template
end UriRouting
