import UriRouting.Proofs.Except
import UriRouting.Proofs.Template.WellFormed

/-!
# Reading one expression

What stands between two braces reads as a token exactly when it is what a
well-formed token writes there.  The reader cuts the text four times, at `|`, `,`,
`=` and `:`, and each cut is the inverse of what the writer joined.

* `Template.parseVariable_eq_ok_iff`: one variable, `type:name=default`.
* `Template.parseVariables_eq_ok_iff`: the variables of an operator.
* `Template.parseExpression_eq_ok_iff`: the whole body of an expression.

Positions serve the wording of faults alone, so they are arbitrary here.
-/

namespace UriRouting

namespace Template

/-! ## Variables -/

/-- The declaration and the default of an item. -/
def cutDefault (item : Text) : Text × Option Text :=
  match item.splitOnce '=' with
  | some (declaration, default) => (declaration, some default)
  | none => (item, none)

/-- The type tag and the name of a declaration. -/
def cutTag (declaration : Text) : Option Text × Text :=
  match declaration.splitOnce ':' with
  | some (kind, name) => (some kind, name)
  | none => (none, declaration)

/-- The variable of a tag, a name and a default, unless one of the first two is
not a name. -/
def checkedVariable (position : Nat) (kind : Option Text) (name : Text) (default : Option Text) :
    Except TemplateError Variable :=
  if name.isEmpty then .error (.emptyVariableName position)
  else if !isName name then .error (.invalidVariableName name)
  else
    match kind with
    | some tag =>
        if isName tag then .ok { name, default, kind }
        else .error (.invalidTypeTag tag name)
    | none => .ok { name, default, kind }

/-- Reading a variable is the cut at the first `=`, then the cut at the first `:`
before it, then the check of the pieces. -/
theorem parseVariable_eq (item : Text) (position : Nat) :
    parseVariable item position =
      checkedVariable position (cutTag (cutDefault item).1).1 (cutTag (cutDefault item).1).2
        (cutDefault item).2 := rfl

theorem cutDefault_eq_iff {item declaration : Text} {default : Option Text} :
    cutDefault item = (declaration, default) ↔
      item = declaration ++ (default.elim [] fun default => '=' :: default) ∧
        '=' ∉ declaration := by
  cases hcut : item.splitOnce '=' with
  | none =>
    have hitem : '=' ∉ item := Text.splitOnce_eq_none_iff.1 hcut
    simp only [cutDefault, hcut, Prod.mk.injEq]
    constructor
    · rintro ⟨rfl, rfl⟩
      exact ⟨by simp, hitem⟩
    · rintro ⟨rfl, -⟩
      cases default with
      | none => simp
      | some default => exact absurd (by simp) hitem
  | some cut =>
    obtain ⟨before, after⟩ := cut
    obtain ⟨rfl, hbefore⟩ := Text.splitOnce_eq_some_iff.1 hcut
    simp only [cutDefault, hcut, Prod.mk.injEq]
    constructor
    · rintro ⟨rfl, rfl⟩
      exact ⟨rfl, hbefore⟩
    · rintro ⟨hitem, hdeclaration⟩
      cases default with
      | none =>
        rw [Option.elim_none, List.append_nil] at hitem
        exact absurd (hitem ▸ by simp) hdeclaration
      | some default =>
        rw [Option.elim_some] at hitem
        have hsame := hitem ▸ hcut
        rw [Text.splitOnce_append hdeclaration] at hsame
        cases hsame
        exact ⟨rfl, rfl⟩

theorem cutTag_append {kind : Option Text} {name : Text} (hkind : ∀ tag ∈ kind, ':' ∉ tag)
    (hname : ':' ∉ name) :
    cutTag ((kind.elim [] fun kind => kind ++ [':']) ++ name) = (kind, name) := by
  cases kind with
  | none => simp [cutTag, Text.splitOnce_eq_none_iff.2 hname]
  | some kind => simp [cutTag, Text.splitOnce_append (hkind kind rfl)]

theorem append_of_cutTag {declaration name : Text} {kind : Option Text}
    (h : cutTag declaration = (kind, name)) :
    declaration = (kind.elim [] fun kind => kind ++ [':']) ++ name := by
  cases hcut : declaration.splitOnce ':' with
  | none =>
    simp only [cutTag, hcut, Prod.mk.injEq] at h
    obtain ⟨rfl, rfl⟩ := h
    rfl
  | some cut =>
    obtain ⟨before, after⟩ := cut
    simp only [cutTag, hcut, Prod.mk.injEq] at h
    obtain ⟨rfl, rfl⟩ := h
    obtain ⟨rfl, -⟩ := Text.splitOnce_eq_some_iff.1 hcut
    simp

theorem checkedVariable_eq_ok_iff {position : Nat} {kind : Option Text} {name : Text}
    {default : Option Text} {v : Variable} :
    checkedVariable position kind name default = .ok v ↔
      v = { name, default, kind } ∧ isName name = true ∧ ∀ tag ∈ kind, isName tag = true := by
  by_cases hname : isName name = true
  · have hempty : name.isEmpty = false := by
      obtain ⟨c, rest, rfl, -⟩ := exists_cons_of_isName hname
      rfl
    cases kind with
    | none => simp [checkedVariable, hname, hempty, eq_comm (b := v)]
    | some tag =>
      by_cases htag : isName tag = true
      · simp [checkedVariable, hname, hempty, htag, eq_comm (b := v)]
      · simp [checkedVariable, hname, hempty, htag]
  · constructor
    · intro h
      unfold checkedVariable at h
      split at h
      · cases h
      · rw [if_pos (by simpa using hname)] at h
        cases h
    · rintro ⟨-, h, -⟩
      exact absurd h hname

/-- An item reads as a variable exactly when the variable is well-formed and wrote
the item. -/
theorem parseVariable_eq_ok_iff {item : Text} (hitem : item.Avoids ['{', '}']) {position : Nat}
    {v : Variable} : parseVariable item position = .ok v ↔ item = v.text ∧ v.WellFormed := by
  rw [parseVariable_eq, checkedVariable_eq_ok_iff]
  constructor
  · rintro ⟨hv, hname, hkind⟩
    obtain ⟨hwritten, -⟩ := cutDefault_eq_iff.1 (Prod.eta (cutDefault item)).symm
    have hdeclaration := append_of_cutTag (Prod.eta (cutTag (cutDefault item).1)).symm
    have htext : item = v.text := by
      rw [hwritten, hdeclaration, hv, Variable.text]
    subst hv
    refine ⟨htext, hname, hkind, ?_⟩
    rw [htext, Variable.avoids_text_iff hname hkind (by decide)] at hitem
    exact hitem
  · rintro ⟨rfl, h⟩
    obtain ⟨name, default, kind⟩ := v
    have hequals : '=' ∉ (kind.elim [] fun kind => kind ++ [':']) ++ name := by
      cases kind with
      | none => simpa using notMem_of_isName h.name rfl
      | some kind =>
        simp [notMem_of_isName h.name (c := '=') rfl,
          notMem_of_isName (h.kind kind rfl) (c := '=') rfl]
    have hcut : cutDefault (Variable.text ⟨name, default, kind⟩) =
        ((kind.elim [] fun kind => kind ++ [':']) ++ name, default) :=
      cutDefault_eq_iff.2 ⟨rfl, hequals⟩
    have htag : cutTag ((kind.elim [] fun kind => kind ++ [':']) ++ name) = (kind, name) :=
      cutTag_append (fun kind' hkind' => notMem_of_isName (h.kind kind' hkind') rfl)
        (notMem_of_isName h.name rfl)
    rw [hcut, htag]
    exact ⟨rfl, h.name, h.kind⟩

theorem parseVariable_text {v : Variable} (h : v.WellFormed) (position : Nat) :
    parseVariable v.text position = .ok v :=
  (parseVariable_eq_ok_iff h.avoids_text).2 ⟨rfl, h⟩

/-! ## Lists of variables -/

/-- The items of a list read as variables exactly when these wrote them and no
name occurs twice, nor among those seen before. -/
theorem parseItems_eq_ok_iff {items : List Text} (hitems : ∀ item ∈ items, item.Avoids ['{', '}'])
    {seen : List Text} {position : Nat} {vs : List Variable} :
    parseItems seen position items = .ok vs ↔
      items = vs.map Variable.text ∧ (∀ v ∈ vs, v.WellFormed) ∧
        (vs.map Variable.name).Nodup ∧ ∀ v ∈ vs, v.name ∉ seen := by
  induction items generalizing seen position vs with
  | nil =>
    rw [parseItems]
    constructor
    · intro h
      cases h
      simp
    · rintro ⟨h, -⟩
      rw [List.map_eq_nil_iff.1 h.symm]
  | cons item items ih =>
    obtain ⟨hitem, hrest⟩ := List.forall_mem_cons.1 hitems
    rw [parseItems, except_bind_eq_ok_iff]
    constructor
    · rintro ⟨v, hv, h⟩
      obtain ⟨rfl, hwf⟩ := (parseVariable_eq_ok_iff hitem).1 hv
      split at h
      · cases h
      · rename_i hseen
        obtain ⟨others, hothers, hok⟩ := except_bind_eq_ok_iff.1 h
        cases hok
        obtain ⟨rfl, hwfs, hnodup, hnew⟩ := (ih hrest).1 hothers
        refine ⟨rfl, List.forall_mem_cons.2 ⟨hwf, hwfs⟩, ?_, ?_⟩
        · rw [List.map_cons, List.nodup_cons]
          refine ⟨fun hmem => ?_, hnodup⟩
          obtain ⟨u, hu, hname⟩ := List.mem_map.1 hmem
          exact hnew u hu (hname ▸ List.mem_cons_self)
        · refine List.forall_mem_cons.2 ⟨by simpa using hseen, fun u hu hmem => ?_⟩
          exact hnew u hu (List.mem_cons_of_mem _ hmem)
    · rintro ⟨hmap, hwfs, hnodup, hnew⟩
      obtain ⟨v, others, rfl, rfl, rfl⟩ := List.map_eq_cons_iff.1 hmap.symm
      obtain ⟨hwf, hwfs⟩ := List.forall_mem_cons.1 hwfs
      obtain ⟨hnewv, hnew⟩ := List.forall_mem_cons.1 hnew
      rw [List.map_cons, List.nodup_cons] at hnodup
      refine ⟨v, parseVariable_text hwf position, ?_⟩
      rw [if_neg (by simpa using hnewv), except_bind_eq_ok_iff]
      refine ⟨others, (ih hrest).2 ⟨rfl, hwfs, hnodup.2, fun u hu hmem => ?_⟩, rfl⟩
      rcases List.mem_cons.1 hmem with hname | hmem
      · exact hnodup.1 (hname ▸ List.mem_map_of_mem hu)
      · exact hnew u hu hmem

/-- A list reads as variables exactly when these wrote it: there is one, no name
occurs twice, and no default has a comma. -/
theorem parseVariables_eq_ok_iff {list : Text} (hlist : list.Avoids ['{', '}']) {position : Nat}
    {vs : List Variable} :
    parseVariables list position = .ok vs ↔
      list = Text.joined [','] (vs.map Variable.text) ∧ vs ≠ [] ∧
        (vs.map Variable.name).Nodup ∧ (∀ v ∈ vs, v.WellFormed) ∧
        ∀ v ∈ vs, ∀ default ∈ v.default, ',' ∉ default := by
  have hcomma : Text.Avoids [','] ['{', '}'] := by decide
  have hitems : ∀ item ∈ list.fields ',', item.Avoids ['{', '}'] := by
    rw [← Text.avoids_joined hcomma, (Text.fields_spec ',' list).2.2]
    exact hlist
  rw [parseVariables, parseItems_eq_ok_iff hitems, Text.fields_eq_iff]
  constructor
  · rintro ⟨⟨hne, hcommas, hjoined⟩, hwf, hnodup, -⟩
    refine ⟨hjoined.symm, fun hnil => hne (by rw [hnil, List.map_nil]), hnodup, hwf, ?_⟩
    intro v hv
    exact (hwf v hv).comma_notMem_text_iff.1 (hcommas _ (List.mem_map_of_mem hv))
  · rintro ⟨hjoined, hne, hnodup, hwf, hcommas⟩
    refine ⟨⟨fun hnil => hne (List.map_eq_nil_iff.1 hnil), ?_, hjoined.symm⟩, hwf, hnodup, ?_⟩
    · intro item hitem
      obtain ⟨v, hv, rfl⟩ := List.mem_map.1 hitem
      exact (hwf v hv).comma_notMem_text_iff.2 (hcommas v hv)
    · intro v _
      exact List.not_mem_nil

/-! ## Operators -/

/-- A known name is written between a dash and a bar, and the text it is given
between that bar and the next. -/
theorem ofName?_spec {name : Text} {form : Text → OperatorForm}
    (h : OperatorForm.ofName? name = some form) (arg : Text) :
    '|' ∉ name ∧ (form arg).argument = arg ∧
      (form arg).text = '-' :: (name ++ '|' :: (arg ++ ['|'])) := by
  obtain ⟨entry, hfind, rfl⟩ := Option.map_eq_some_iff.1 h
  have hname : entry.1 = name := by simpa using List.find?_some hfind
  have hmem := List.mem_of_find?_eq_some hfind
  rw [← hname]
  have hbars : ∀ lead bare : Text, lead = '-' :: (bare ++ ['|']) →
      lead ++ arg ++ ['|'] = '-' :: (bare ++ '|' :: (arg ++ ['|'])) := by
    rintro lead bare rfl
    simp
  simp only [OperatorForm.named, List.mem_cons, List.not_mem_nil, or_false] at hmem
  rcases hmem with rfl | rfl | rfl | rfl | rfl | rfl <;>
    exact ⟨by decide, rfl, hbars _ _ (by decide)⟩

/-- A symbol is the whole text of its operator before the variables. -/
theorem ofSymbol?_spec {c : Char} {form : OperatorForm}
    (h : OperatorForm.ofSymbol? c = some form) :
    form.argument = [] ∧ form.isList = false ∧ form.text = [c] := by
  unfold OperatorForm.ofSymbol? at h
  split at h <;> cases h <;> exact ⟨rfl, rfl, rfl⟩

/-- Every operator has a symbol or a name. -/
theorem exists_symbol_or_name (form : OperatorForm) :
    (∃ c, OperatorForm.ofSymbol? c = some form) ∨
      ∃ name ofText, OperatorForm.ofName? name = some ofText ∧ form = ofText form.argument := by
  cases form with
  | reserved => exact Or.inl ⟨'+', rfl⟩
  | pathParameters => exact Or.inl ⟨';', rfl⟩
  | queryParameters => exact Or.inl ⟨'?', rfl⟩
  | pathSegments => exact Or.inl ⟨'/', rfl⟩
  | join arg => exact Or.inr ⟨"join".toList, .join, rfl, rfl⟩
  | list arg => exact Or.inr ⟨"list".toList, .list, rfl, rfl⟩
  | opt arg => exact Or.inr ⟨"opt".toList, .opt, rfl, rfl⟩
  | neg arg => exact Or.inr ⟨"neg".toList, .neg, rfl, rfl⟩
  | prefixed arg => exact Or.inr ⟨"prefix".toList, .prefixed, rfl, rfl⟩
  | suffixed arg => exact Or.inr ⟨"suffix".toList, .suffixed, rfl, rfl⟩

theorem isNameStart_of_ofSymbol? {c : Char} {form : OperatorForm}
    (h : OperatorForm.ofSymbol? c = some form) : isNameStart c = false ∧ c ≠ '-' := by
  unfold OperatorForm.ofSymbol? at h
  split at h <;> cases h <;> exact ⟨rfl, by decide⟩

/-- Reading a named operator whose three parts are known. -/
theorem parseNamedOperator_of_fields {afterDash name arg list : Text}
    {form : Text → OperatorForm} (hparts : afterDash.fieldsAtMost '|' 3 = [name, arg, list])
    (hname : OperatorForm.ofName? name = some form) (start : Nat) :
    parseNamedOperator afterDash start =
      parseVariables list (start + Text.utf8Size ('-' :: afterDash) - list.utf8Size) >>= fun vs =>
        if (form arg).isList = true ∧ vs.length ≠ 1 then
          .error (.malformedOperator ('-' :: afterDash))
        else .ok (.operator ⟨form arg, vs⟩) := by
  simp only [parseNamedOperator, hparts, List.headD_cons, hname]
  congr 1
  funext vs
  rcases vs with _ | ⟨v, _ | ⟨w, vs⟩⟩ <;> cases form arg <;> simp [OperatorForm.isList]

/-- What reads as a named operator has three parts, the first of them a known name. -/
theorem exists_fields_of_parseNamedOperator {afterDash : Text} {start : Nat} {token : Token}
    (h : parseNamedOperator afterDash start = .ok token) :
    ∃ name arg list form, afterDash.fieldsAtMost '|' 3 = [name, arg, list] ∧
      OperatorForm.ofName? name = some form := by
  simp only [parseNamedOperator] at h
  split at h
  · cases h
  · rename_i form hform
    split at h
    · rename_i name arg list hparts
      rw [hparts, List.headD_cons] at hform
      exact ⟨name, arg, list, form, hparts, hform⟩
    · cases h

/-- What reads as a named operator was written by a well-formed one. -/
theorem wellFormed_of_parseNamedOperator {afterDash : Text} (havoid : afterDash.Avoids ['{', '}'])
    {start : Nat} {token : Token} (h : parseNamedOperator afterDash start = .ok token) :
    token.body? = some ('-' :: afterDash) ∧ token.WellFormed := by
  obtain ⟨name, arg, list, form, hparts, hname⟩ := exists_fields_of_parseNamedOperator h
  obtain ⟨hwritten, hbar, harg⟩ := Text.fieldsAtMost_three_eq_iff.1 hparts
  rw [hwritten] at havoid
  obtain ⟨-, harg', hlist⟩ : name.Avoids ['{', '}'] ∧ arg.Avoids ['{', '}'] ∧
      list.Avoids ['{', '}'] := by simpa using havoid
  rw [parseNamedOperator_of_fields hparts hname] at h
  obtain ⟨vs, hvs, hclose⟩ := except_bind_eq_ok_iff.1 h
  obtain ⟨hjoined, hne, hnodup, hwf, hcommas⟩ := (parseVariables_eq_ok_iff hlist).1 hvs
  obtain ⟨-, hargument, htext⟩ := ofName?_spec hname arg
  split at hclose
  · cases hclose
  · rename_i hsingle
    cases hclose
    refine ⟨?_, ?_, hne, hnodup, hwf, hcommas, fun hlist => ?_⟩
    · rw [Token.body?, Operator.body, htext, hwritten, hjoined]
      simp
    · intro c hc hmem
      rw [hargument] at hc
      rcases List.mem_cons.1 hmem with rfl | hmem
      · exact harg hc
      · exact harg' c hc hmem
    · by_contra hlength
      exact hsingle ⟨hlist, hlength⟩

/-! ## Expressions -/

theorem parseExpression_symbol {c : Char} {form : OperatorForm}
    (h : OperatorForm.ofSymbol? c = some form) (rest : Text) (start : Nat) :
    parseExpression (c :: rest) start =
      parseVariables rest (start + 1) >>= fun vs => .ok (.operator ⟨form, vs⟩) := by
  rw [parseExpression, h]
  exact (isNameStart_of_ofSymbol? h).2

theorem parseExpression_name {c : Char} (h : isNameStart c = true) (rest : Text) (start : Nat) :
    parseExpression (c :: rest) start = (parseVariable (c :: rest) start).map .var := by
  have hdash : c ≠ '-' := by
    rintro rfl
    cases h
  have hsymbol : OperatorForm.ofSymbol? c = none := by
    cases hsymbol : OperatorForm.ofSymbol? c with
    | none => rfl
    | some form =>
      rw [(isNameStart_of_ofSymbol? hsymbol).1] at h
      cases h
  rw [parseExpression, hsymbol, if_pos h]
  exact hdash

/-- What reads as an expression was written by a well-formed token. -/
theorem wellFormed_of_parseExpression {body : Text} (hbody : body.Avoids ['{', '}']) {start : Nat}
    {token : Token} (h : parseExpression body start = .ok token) :
    token.body? = some body ∧ token.WellFormed := by
  cases body with
  | nil => cases h
  | cons c rest =>
    by_cases hdash : c = '-'
    · subst hdash
      exact wellFormed_of_parseNamedOperator (Text.avoids_cons.1 hbody).2 h
    cases hsymbol : OperatorForm.ofSymbol? c with
    | some form =>
      rw [parseExpression_symbol hsymbol] at h
      obtain ⟨vs, hvs, hok⟩ := except_bind_eq_ok_iff.1 h
      cases hok
      obtain ⟨hjoined, hne, hnodup, hwf, hcommas⟩ :=
        (parseVariables_eq_ok_iff (Text.avoids_cons.1 hbody).2).1 hvs
      obtain ⟨hargument, hlist, htext⟩ := ofSymbol?_spec hsymbol
      refine ⟨?_, ?_, hne, hnodup, hwf, hcommas, fun hlist' => ?_⟩
      · rw [Token.body?, Operator.body, htext, hjoined, List.singleton_append]
      · rw [hargument]
        exact Text.avoids_nil _
      · rw [hlist] at hlist'
        cases hlist'
    | none =>
      by_cases hstart : isNameStart c = true
      · rw [parseExpression_name hstart] at h
        obtain ⟨v, hv, rfl⟩ := except_map_eq_ok_iff.1 h
        obtain ⟨htext, hwf⟩ := (parseVariable_eq_ok_iff hbody).1 hv
        exact ⟨congrArg some htext.symm, hwf⟩
      · rw [parseExpression, hsymbol, if_neg hstart] at h
        · cases h
        · exact hdash

/-- A written variable reads as itself. -/
theorem parseExpression_var {v : Variable} (h : v.WellFormed) (start : Nat) :
    parseExpression v.text start = .ok (.var v) := by
  obtain ⟨c, rest, htext, hstart⟩ : ∃ c rest, v.text = c :: rest ∧ isNameStart c = true := by
    obtain ⟨name, default, kind⟩ := v
    cases kind with
    | none =>
      obtain ⟨c, rest, rfl, hstart⟩ := exists_cons_of_isName h.name
      exact ⟨c, _, rfl, hstart⟩
    | some kind =>
      obtain ⟨c, rest, rfl, hstart⟩ := exists_cons_of_isName (h.kind kind rfl)
      exact ⟨c, _, rfl, hstart⟩
  have hv := parseVariable_text h start
  rw [htext] at hv ⊢
  rw [parseExpression_name hstart, hv]
  rfl

/-- A written operator reads as itself. -/
theorem parseExpression_operator {op : Operator} (h : op.WellFormed) (start : Nat) :
    parseExpression op.body start = .ok (.operator op) := by
  obtain ⟨form, vs⟩ := op
  have hvs : ∀ position,
      parseVariables (Text.joined [','] (vs.map Variable.text)) position = .ok vs := by
    intro position
    refine (parseVariables_eq_ok_iff ?_).2 ⟨rfl, h.nonempty, h.distinct, h.vars, h.commas⟩
    exact (Text.avoids_append.1 h.avoids_body).2
  rcases exists_symbol_or_name form with ⟨c, hsymbol⟩ | ⟨name, ofText, hname, hform⟩
  · obtain ⟨-, -, htext⟩ := ofSymbol?_spec hsymbol
    rw [Operator.body, htext, List.singleton_append, parseExpression_symbol hsymbol, hvs]
    rfl
  · obtain ⟨hbar, -, htext⟩ := ofName?_spec hname form.argument
    have hargument : '|' ∉ form.argument := fun hmem => h.argument _ hmem (by decide)
    rw [← hform] at htext
    have hbody : Operator.body ⟨form, vs⟩ = '-' :: (name ++ '|' :: (form.argument ++ '|' ::
        Text.joined [','] (vs.map Variable.text))) := by
      rw [Operator.body, htext]
      simp
    rw [hbody, parseExpression,
      parseNamedOperator_of_fields (Text.fieldsAtMost_three_eq_iff.2 ⟨rfl, hbar, hargument⟩) hname,
      hvs, ← hform]
    refine if_neg fun hlist => hlist.2 (h.single hlist.1)

/-- The body of an expression reads as a token exactly when the token is
well-formed and writes that body. -/
theorem parseExpression_eq_ok_iff {body : Text} (hbody : body.Avoids ['{', '}']) {start : Nat}
    {token : Token} :
    parseExpression body start = .ok token ↔ token.body? = some body ∧ token.WellFormed := by
  constructor
  · exact wellFormed_of_parseExpression hbody
  · rintro ⟨h, hwf⟩
    cases token with
    | literal t => cases h
    | wildcard => cases h
    | var v =>
      cases h
      exact parseExpression_var hwf start
    | operator op =>
      cases h
      exact parseExpression_operator hwf start

end Template
end UriRouting
