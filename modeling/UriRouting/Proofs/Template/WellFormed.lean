import Mathlib.Data.List.Chain
import UriRouting.Proofs.Text.Fields
import UriRouting.Template.Parser

/-!
# Well-formed token sequences

Which token sequences can be written down as a template and read back.  The
conditions keep every delimiter of the syntax out of the places where a reader
would take it for one: braces out of everything, `*` out of literal text, `|` out
of the text of a named operator, and `,` out of the defaults of an operator.

* `Variable.WellFormed`, `Operator.WellFormed`, `Token.WellFormed`: the conditions
  on one token.
* `Token.WellFormedSeq`: the tokens are well-formed, and literal text is never cut
  in two.
* `Token.body?`: what an expression writes between its braces, which is free of
  braces when the token is well-formed (`Token.WellFormed.avoids_body`).
-/

namespace UriRouting

/-! ## Names -/

theorem isNameChar_of_isNameStart {c : Char} (h : isNameStart c = true) : isNameChar c = true := by
  simp only [isNameStart, isNameChar, Bool.or_eq_true] at h ⊢
  exact Or.inl (Or.inl h)

theorem isNameChar_of_mem_name {t : Text} (h : isName t = true) {c : Char} (hc : c ∈ t) :
    isNameChar c = true := by
  cases t with
  | nil => exact absurd hc List.not_mem_nil
  | cons first rest =>
    rw [isName, Bool.and_eq_true] at h
    rcases List.mem_cons.1 hc with rfl | hc
    · exact isNameChar_of_isNameStart h.1
    · exact List.all_eq_true.1 h.2 c hc

theorem exists_cons_of_isName {t : Text} (h : isName t = true) :
    ∃ c rest, t = c :: rest ∧ isNameStart c = true := by
  cases t with
  | nil => cases h
  | cons first rest =>
    rw [isName, Bool.and_eq_true] at h
    exact ⟨first, rest, rfl, h.1⟩

/-- A name avoids every character that names may not have. -/
theorem avoids_of_isName {t : Text} (h : isName t = true) {chars : List Char}
    (hchars : ∀ c ∈ chars, isNameChar c = false) : t.Avoids chars := by
  intro c hc hmem
  have hname := isNameChar_of_mem_name h hc
  rw [hchars c hmem] at hname
  cases hname

theorem notMem_of_isName {t : Text} (h : isName t = true) {c : Char}
    (hc : isNameChar c = false) : c ∉ t := by
  intro hmem
  rw [isNameChar_of_mem_name h hmem] at hc
  cases hc

/-! ## Variables -/

/-- A variable whose name and type tag are names and whose default has no brace. -/
structure Variable.WellFormed (v : Variable) : Prop where
  /-- The name is a name. -/
  name : isName v.name = true
  /-- The type tag, if there is one, is a name. -/
  kind : ∀ kind ∈ v.kind, isName kind = true
  /-- The default, if there is one, has no brace. -/
  default : ∀ default ∈ v.default, Text.Avoids default ['{', '}']

theorem Variable.wellFormed_iff {v : Variable} :
    v.WellFormed ↔ isName v.name = true ∧ (∀ kind ∈ v.kind, isName kind = true) ∧
      ∀ default ∈ v.default, Text.Avoids default ['{', '}'] :=
  ⟨fun h => ⟨h.name, h.kind, h.default⟩, fun h => ⟨h.1, h.2.1, h.2.2⟩⟩

instance (v : Variable) : Decidable v.WellFormed :=
  decidable_of_iff _ Variable.wellFormed_iff.symm

/-- Apart from names, `:` and `=`, a variable writes its default alone. -/
theorem Variable.avoids_text_iff {v : Variable} (hname : isName v.name = true)
    (hkind : ∀ kind ∈ v.kind, isName kind = true) {chars : List Char}
    (hchars : chars.all (fun c => !isNameChar c && c != ':' && c != '=') = true) :
    v.text.Avoids chars ↔ ∀ default ∈ v.default, Text.Avoids default chars := by
  obtain ⟨name, default, kind⟩ := v
  simp only [List.all_eq_true, Bool.and_eq_true, Bool.not_eq_true', bne_iff_ne] at hchars
  have hnames : ∀ t : Text, isName t = true → t.Avoids chars :=
    fun t ht => avoids_of_isName ht fun c hc => (hchars c hc).1.1
  have hcolon : ':' ∉ chars := fun hc => (hchars _ hc).1.2 rfl
  have hequals : '=' ∉ chars := fun hc => (hchars _ hc).2 rfl
  have htag : Text.Avoids (kind.elim [] fun kind => kind ++ [':']) chars := by
    cases kind with
    | none => exact Text.avoids_nil chars
    | some kind =>
      exact Text.avoids_append.2 ⟨hnames kind (hkind kind rfl), by simp [hcolon]⟩
  rw [Variable.text, Text.avoids_append, Text.avoids_append]
  cases default with
  | none => simp [htag, hnames name hname]
  | some default => simp [htag, hnames name hname, hequals]

theorem Variable.WellFormed.avoids_text {v : Variable} (h : v.WellFormed) :
    v.text.Avoids ['{', '}'] :=
  (Variable.avoids_text_iff h.name h.kind (by decide)).2 h.default

/-! ## Operators -/

namespace OperatorForm

/-- The text that a named operator carries.  The operators named by a symbol carry
none. -/
def argument : OperatorForm → Text
  | reserved | pathParameters | queryParameters | pathSegments => []
  | join arg | list arg | opt arg | neg arg | prefixed arg | suffixed arg => arg

/-- Whether an operator is `list`, which takes a single variable. -/
def isList : OperatorForm → Bool
  | list _ => true
  | _ => false

end OperatorForm

/-- What an operator writes between its braces. -/
def Operator.body (op : Operator) : Text :=
  op.form.text ++ Text.joined [','] (op.vars.map Variable.text)

/-- An operator over distinct variables, with no delimiter in its text or in a default. -/
structure Operator.WellFormed (op : Operator) : Prop where
  /-- The text of the operator has neither a bar nor a brace. -/
  argument : op.form.argument.Avoids ['|', '{', '}']
  /-- There is a variable. -/
  nonempty : op.vars ≠ []
  /-- No name occurs twice. -/
  distinct : (op.vars.map Variable.name).Nodup
  /-- The variables are well-formed. -/
  vars : ∀ v ∈ op.vars, v.WellFormed
  /-- No default has a comma. -/
  commas : ∀ v ∈ op.vars, ∀ default ∈ v.default, ',' ∉ default
  /-- The operator `list` has exactly one variable. -/
  single : op.form.isList = true → op.vars.length = 1

theorem Operator.wellFormed_iff {op : Operator} :
    op.WellFormed ↔ op.form.argument.Avoids ['|', '{', '}'] ∧ op.vars ≠ [] ∧
      (op.vars.map Variable.name).Nodup ∧ (∀ v ∈ op.vars, v.WellFormed) ∧
      (∀ v ∈ op.vars, ∀ default ∈ v.default, ',' ∉ default) ∧
      (op.form.isList = true → op.vars.length = 1) :=
  ⟨fun h => ⟨h.argument, h.nonempty, h.distinct, h.vars, h.commas, h.single⟩,
    fun ⟨h₁, h₂, h₃, h₄, h₅, h₆⟩ => ⟨h₁, h₂, h₃, h₄, h₅, h₆⟩⟩

instance (op : Operator) : Decidable op.WellFormed :=
  decidable_of_iff _ Operator.wellFormed_iff.symm

/-- Within an operator, a comma in the text of a variable is one in its default. -/
theorem Variable.WellFormed.comma_notMem_text_iff {v : Variable} (h : v.WellFormed) :
    ',' ∉ v.text ↔ ∀ default ∈ v.default, ',' ∉ default := by
  have htext : v.text.Avoids [','] ↔ ∀ default ∈ v.default, Text.Avoids default [','] :=
    Variable.avoids_text_iff h.name h.kind (by decide)
  simpa only [Text.avoids_singleton_iff] using htext

/-- The variables of an operator are written without brace and without comma. -/
theorem Operator.WellFormed.avoids_items {op : Operator} (h : op.WellFormed) :
    ∀ item ∈ op.vars.map Variable.text, Text.Avoids item ['{', '}'] ∧ ',' ∉ item := by
  intro item hitem
  obtain ⟨v, hv, rfl⟩ := List.mem_map.1 hitem
  exact ⟨(h.vars v hv).avoids_text, (h.vars v hv).comma_notMem_text_iff.2 (h.commas v hv)⟩

/-- The part before the variables has no brace when the text of the operator has none. -/
theorem OperatorForm.avoids_text {form : OperatorForm} (h : form.argument.Avoids ['{', '}']) :
    form.text.Avoids ['{', '}'] := by
  have hnamed : ∀ name arg : Text, name.Avoids ['{', '}'] → arg.Avoids ['{', '}'] →
      Text.Avoids (name ++ arg ++ ['|']) ['{', '}'] := by
    intro name arg hname harg
    exact Text.avoids_append.2 ⟨Text.avoids_append.2 ⟨hname, harg⟩, by decide⟩
  cases form with
  | reserved => decide
  | pathParameters => decide
  | queryParameters => decide
  | pathSegments => decide
  | join arg => exact hnamed _ arg (by decide) h
  | list arg => exact hnamed _ arg (by decide) h
  | opt arg => exact hnamed _ arg (by decide) h
  | neg arg => exact hnamed _ arg (by decide) h
  | prefixed arg => exact hnamed _ arg (by decide) h
  | suffixed arg => exact hnamed _ arg (by decide) h

theorem Operator.WellFormed.avoids_body {op : Operator} (h : op.WellFormed) :
    op.body.Avoids ['{', '}'] := by
  rw [Operator.body, Text.avoids_append, Text.avoids_joined (by decide)]
  refine ⟨OperatorForm.avoids_text (h.argument.mono (by decide)), fun item hitem => ?_⟩
  exact (h.avoids_items item hitem).1

/-! ## Tokens -/

namespace Token

/-- What an expression writes between its braces. -/
def body? : Token → Option Text
  | literal _ => none
  | wildcard => none
  | var v => some v.text
  | operator op => some op.body

theorem text_of_body? {token : Token} {body : Text} (h : token.body? = some body) :
    token.text = '{' :: body ++ ['}'] := by
  cases token with
  | literal t => cases h
  | wildcard => cases h
  | var v =>
    cases h
    rfl
  | operator op =>
    cases h
    simp [text, Operator.text, Operator.body]

theorem isLiteral_of_body? {token : Token} {body : Text} (h : token.body? = some body) :
    token.isLiteral = false := by
  cases token with
  | literal t => cases h
  | wildcard => rfl
  | var v => rfl
  | operator op => rfl

/-- A token that can stand in a template. -/
def WellFormed : Token → Prop
  | literal t => t ≠ [] ∧ t.Avoids ['{', '}', '*']
  | wildcard => True
  | var v => v.WellFormed
  | operator op => op.WellFormed

instance : (token : Token) → Decidable token.WellFormed
  | literal t => inferInstanceAs (Decidable (t ≠ [] ∧ t.Avoids ['{', '}', '*']))
  | wildcard => inferInstanceAs (Decidable True)
  | var v => inferInstanceAs (Decidable v.WellFormed)
  | operator op => inferInstanceAs (Decidable op.WellFormed)

/-- A well-formed expression has no brace inside its own. -/
theorem WellFormed.avoids_body {token : Token} (h : token.WellFormed) {body : Text}
    (hbody : token.body? = some body) : body.Avoids ['{', '}'] := by
  cases token with
  | literal t => cases hbody
  | wildcard => cases hbody
  | var v =>
    cases hbody
    exact Variable.WellFormed.avoids_text h
  | operator op =>
    cases hbody
    exact Operator.WellFormed.avoids_body h

/-- A sequence of well-formed tokens in which no two literals touch. -/
structure WellFormedSeq (tokens : List Token) : Prop where
  /-- Every token is well-formed. -/
  token : ∀ token ∈ tokens, token.WellFormed
  /-- Of two neighbours, one is not literal text. -/
  apart : tokens.IsChain fun a b => ¬(a.isLiteral = true ∧ b.isLiteral = true)

theorem wellFormedSeq_iff {tokens : List Token} :
    WellFormedSeq tokens ↔ (∀ token ∈ tokens, token.WellFormed) ∧
      tokens.IsChain fun a b => ¬(a.isLiteral = true ∧ b.isLiteral = true) :=
  ⟨fun h => ⟨h.token, h.apart⟩, fun h => ⟨h.1, h.2⟩⟩

instance (tokens : List Token) : Decidable (WellFormedSeq tokens) :=
  decidable_of_iff _ wellFormedSeq_iff.symm

theorem wellFormedSeq_nil : WellFormedSeq [] :=
  ⟨fun _ h => absurd h List.not_mem_nil, List.IsChain.nil⟩

theorem wellFormedSeq_cons {token : Token} {tokens : List Token} :
    WellFormedSeq (token :: tokens) ↔ token.WellFormed ∧
      (∀ next ∈ tokens.head?, ¬(token.isLiteral = true ∧ next.isLiteral = true)) ∧
      WellFormedSeq tokens := by
  rw [wellFormedSeq_iff, wellFormedSeq_iff, List.forall_mem_cons, List.isChain_cons]
  tauto

/-- An expression or a wildcard may stand in front of anything. -/
theorem WellFormedSeq.cons {token : Token} {tokens : List Token} (h : WellFormedSeq tokens)
    (htoken : token.WellFormed) (hliteral : token.isLiteral = false) :
    WellFormedSeq (token :: tokens) := by
  refine wellFormedSeq_cons.2 ⟨htoken, ?_, h⟩
  rintro next - ⟨htrue, -⟩
  rw [hliteral] at htrue
  cases htrue

end Token
end UriRouting
