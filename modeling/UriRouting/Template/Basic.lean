import UriRouting.Template.Parser

/-!
# Templates

A template is a text together with the tokens that reading it gives.  That the
tokens belong to the text is part of the type, so a template can only come from
`Template.parse`.
-/

namespace UriRouting

/-- A text that reads as a template, with its tokens. -/
structure Template where
  /-- The text. -/
  source : Text
  /-- The tokens of the text. -/
  tokens : List Token
  /-- The tokens are those of the text. -/
  parsed : Template.parseTokens source = .ok tokens

namespace Template

/-- The template of a text, or the first fault in it. -/
def parse (source : Text) : Except TemplateError Template :=
  match h : parseTokens source with
  | .ok tokens => .ok ⟨source, tokens, h⟩
  | .error fault => .error fault

/-- Two templates are the same when their tokens are. -/
instance : BEq Template := ⟨fun a b => a.tokens == b.tokens⟩

/-- Every variable of a template in order, repeated ones included. -/
def vars (t : Template) : List Variable := t.tokens.flatMap Token.vars

/-- The names of the variables, each at its first appearance. -/
def variableNames (t : Template) : List Text := (t.vars.map Variable.name).eraseDups

theorem parse_eq_ok_iff {source : Text} {t : Template} :
    parse source = .ok t ↔ t.source = source := by
  constructor
  · intro h
    unfold parse at h
    split at h
    · cases h
      rfl
    · cases h
  · rintro rfl
    obtain ⟨source, tokens, parsed⟩ := t
    unfold parse
    split
    · rename_i tokens' h
      have : tokens' = tokens := Except.ok.inj (h.symm.trans parsed)
      subst this
      rfl
    · rename_i fault h
      cases h.symm.trans parsed

end Template
end UriRouting
