import UriRouting.Proofs.Pattern.Taking
import UriRouting.Proofs.Template.RoundTrip

/-!
# The layout of a match

A match lays a text out among the tokens of its pattern: every token has one piece of
the text, the pieces follow one another without a gap, and the captures are those of the
pieces.  A search that tries and abandons ends leaves nothing behind, since each try
starts from the captures of the tokens before it.

## 1.  Layouts

`Layout tokens text pieces` says that each piece is one its token allows, and when it is
whole.  `Token.captureStops` are the texts that may end a capture of a token, and
`captureStops` those of a sequence.

## 2.  The walk

`walk_cons_eq_some` is one step: the first token takes an allowed piece and the others
match what is left.  `layout_of_walk` is the induction over the tokens.
-/

namespace UriRouting

open CharClass (Units)

/-! ## 1.  Layouts -/

namespace Token

/-- The texts that may end a capture of a token in front of others. -/
def captureStops (token : Token) (tokens : List Token) : List Text :=
  match token with
  | literal _ => []
  | wildcard => []
  | var _ => (Boundary.before tokens).stops
  | operator op => op.stops (Boundary.before tokens)

/-- The class of the texts that a token captures. -/
def captureClass : Token → CharClass
  | operator op => if op.form = .reserved then .reserved else .unreserved
  | _ => .unreserved

end Token

/-- The texts that may end a capture of a token sequence. -/
def captureStops : List Token → List Text
  | [] => []
  | token :: tokens => token.captureStops tokens ++ captureStops tokens

/-- Pieces of a text, one for each token. -/
inductive Layout : List Token → Text → List Piece → Prop where
  | nil : Layout [] [] []
  | cons {token : Token} {tokens : List Token} {piece : Piece} {pieces : List Piece}
      {text rest : Text} (allows : token.Allows piece)
      (consumes : Consumes (keepEscapes (token.captureStops tokens)) token.captureClass.admits text
        piece.parts rest)
      (layout : Layout tokens rest pieces) : Layout (token :: tokens) text (piece :: pieces)

namespace Layout

variable {tokens : List Token} {text : Text} {pieces : List Piece}

/-- Each piece is one that its token allows. -/
theorem allows (h : Layout tokens text pieces) : List.Forall₂ Token.Allows tokens pieces := by
  induction h with
  | nil => exact List.Forall₂.nil
  | cons allows _ _ ih => exact List.Forall₂.cons allows ih

/-- The pieces make up the text. -/
theorem flatMap_text (h : Layout tokens text pieces) : pieces.flatMap Piece.text = text := by
  induction h with
  | nil => rfl
  | cons _ consumes _ ih => rw [List.flatMap_cons, ih, consumes.text_eq, Piece.text]

/-- Everything is captured for a variable of one of the tokens. -/
theorem var_mem (h : Layout tokens text pieces) :
    ∀ capture ∈ pieces.flatMap Piece.captures, capture.var ∈ tokens.flatMap Token.vars := by
  induction h with
  | nil => exact fun _ hcapture => absurd hcapture List.not_mem_nil
  | cons allows _ _ ih =>
    intro capture hcapture
    rw [List.flatMap_cons, List.mem_append] at hcapture ⊢
    exact hcapture.imp (allows.var_mem capture) (ih capture)

end Layout

/-! ## 2.  The walk -/

theorem matchRun_eq_some {ends : List Nat} {capture : Text → List Capture}
    {next : Text → Option Match} {text : Text} {m : Match}
    (h : matchRun ends capture next text = some m) :
    ∃ n ∈ ends, ∃ m', next (text.drop n) = some m' ∧
      m.captures = capture (text.take n) ++ m'.captures := by
  obtain ⟨n, hn, htry⟩ := List.exists_of_findSome?_eq_some h
  obtain ⟨m', hm', rfl⟩ := Option.map_eq_some_iff.1 htry
  exact ⟨n, hn, m', hm', rfl⟩

/-- A single variable captures the text; of several, each captures a field. -/
theorem items_positionalCaptures {vars : List Variable} (hvars : vars ≠ []) (raw : Text) :
    (positionalCaptures vars raw).flatMap (fun capture => capture.raw.items) =
      raw.fieldsAtMost ',' vars.length := by
  rcases vars with _ | ⟨v, _ | ⟨w, vars⟩⟩
  · exact absurd rfl hvars
  · rfl
  · obtain ⟨-, hlength, -⟩ := Text.fieldsAtMost_spec ',' (vars.length + 1) raw
    let fields := raw.fieldsAtMost ',' (v :: w :: vars).length
    have hfields : ((v :: w :: vars).zip fields).map Prod.snd = fields := List.map_snd_zip hlength
    rw [positionalCaptures, List.flatMap_map]
    · exact List.map_eq_flatMap.symm.trans hfields
    · rintro v ⟨⟩

/-- A run is taken off the text where it ends. -/
theorem Boundary.take_of_mem_ends {b : Boundary} {k : CharClass} {n : Nat} {text : Text}
    (hk : k ≠ .any) (h : n ∈ b.ends k 1 text) :
    text.take n ≠ [] ∧ (keepEscapes b.stops = true →
      Units k.admits (text.take n) ∧ startsWithHexDigit (text.drop n) = false) := by
  obtain ⟨hleast, hend⟩ := isEnd_of_mem_ends h
  have hlength := Nat.le_trans hend.le (k.run_le_length text)
  refine ⟨List.ne_nil_of_length_pos ?_,
    fun hstops => ⟨hend.units_take hk hstops, hend.startsWithHexDigit_drop hstops⟩⟩
  rw [List.length_take, Nat.min_eq_left hlength]
  exact hleast

/-- The operator `+` takes a run, of which its variables capture the fields. -/
theorem Operator.take_reserved {op : Operator} (hop : op.WellFormed) (hform : op.form = .reserved)
    {b : Boundary} {text : Text} {n : Nat} (hn : n ∈ b.ends .reserved 1 text) :
    Takes op.Allows .reserved b.stops text
      (positionalCaptures op.vars (text.take n), text.drop n) := by
  obtain ⟨form, vars⟩ := op
  obtain rfl : form = .reserved := hform
  have hvars : vars ≠ [] := hop.nonempty
  obtain ⟨m, hm⟩ := Nat.exists_eq_succ_of_ne_zero (mt List.length_eq_zero_iff.1 hvars)
  obtain ⟨-, -, hjoin⟩ := Text.fieldsAtMost_spec ',' m (text.take n)
  rw [← Nat.succ_eq_add_one, ← hm] at hjoin
  obtain ⟨hne, hwhole⟩ := Boundary.take_of_mem_ends (by decide) hn
  have hholds : Part.capturedIn (Part.ofFields (Text.fieldsAtMost ',' vars.length (text.take n))) =
      (positionalCaptures vars (text.take n)).flatMap fun capture => capture.raw.items := by
    rw [Part.capturedIn_ofFields, items_positionalCaptures hvars]
  refine ⟨⟨_, _, hholds⟩, ⟨text.take n, hne, rfl, rfl⟩, rfl, Consumes.fields ?_ fun hstops => ?_⟩
  · rw [hjoin, List.take_append_drop]
  · obtain ⟨hunits, hrest⟩ := hwhole hstops
    exact ⟨(hjoin.symm ▸ hunits).of_joined, hrest⟩

/-- **One step of a walk**: the first token takes a piece that it allows, and the others
match what is left. -/
theorem walk_cons_eq_some {token : Token} {tokens : List Token} {text : Text} {m : Match}
    (htoken : token.WellFormed) (h : walk (token :: tokens) text = some m) :
    ∃ taken m', Takes token.Allows token.captureClass (token.captureStops tokens) text taken ∧
      walk tokens taken.2 = some m' ∧ m.captures = taken.1 ++ m'.captures := by
  cases token with
  | literal lit =>
    rw [walk, Option.bind_eq_bind, Option.bind_eq_some_iff] at h
    obtain ⟨rest, hstrip, hwalk⟩ := h
    obtain ⟨t, rfl, ht⟩ := stripLiteral?_eq_some_iff.1 hstrip
    obtain ⟨m', hm', rfl⟩ := Option.map_eq_some_iff.1 hwalk
    exact ⟨([], rest), m', ⟨.skip t, ⟨t, ht, rfl⟩, rfl, Consumes.passed rfl⟩, hm', rfl⟩
  | wildcard =>
    obtain ⟨n, -, m', hm', hcaptures⟩ := matchRun_eq_some h
    have hpassed := (List.take_append_drop n text).symm
    exact ⟨([], text.drop n), m', ⟨.skip (text.take n), ⟨_, rfl⟩, rfl, Consumes.passed hpassed⟩,
      hm', hcaptures⟩
  | var v =>
    obtain ⟨n, hn, m', hm', hcaptures⟩ := matchRun_eq_some h
    obtain ⟨hne, hwhole⟩ := Boundary.take_of_mem_ends (by decide) hn
    have htext := (List.take_append_drop n text).symm
    exact ⟨([⟨v, .one (text.take n)⟩], text.drop n), m',
      ⟨⟨[.captured (text.take n)], _, rfl⟩, ⟨_, hne, rfl, rfl⟩, rfl,
        Consumes.captured htext hwhole⟩, hm', hcaptures⟩
  | operator op =>
    rw [walk] at h
    split at h
    · rename_i hform
      rw [beq_iff_eq] at hform
      obtain ⟨n, hn, m', hm', hcaptures⟩ := matchRun_eq_some h
      refine ⟨(positionalCaptures op.vars (text.take n), text.drop n), m', ?_, hm', hcaptures⟩
      rw [Token.captureClass, if_pos hform, Token.captureStops, Operator.stops, hform]
      exact Operator.take_reserved htoken hform hn
    · rename_i hform
      rw [beq_iff_eq] at hform
      obtain ⟨m', hm', rfl⟩ := Option.map_eq_some_iff.1 h
      refine ⟨op.take (Boundary.before tokens) text, m', ?_, hm', rfl⟩
      rw [Token.captureClass, if_neg hform]
      exact Operator.take_takes htoken hform (Boundary.before tokens) text

/-- **The layout of a walk.** -/
theorem layout_of_walk {tokens : List Token} (htokens : ∀ token ∈ tokens, token.WellFormed)
    {text : Text} {m : Match} (h : walk tokens text = some m) :
    ∃ pieces, Layout tokens text pieces ∧ m.captures = pieces.flatMap Piece.captures := by
  induction tokens generalizing text m with
  | nil =>
    rw [walk, Option.ite_none_right_eq_some] at h
    obtain ⟨hempty, hm⟩ := h
    cases hm
    obtain rfl := List.isEmpty_iff.1 hempty
    exact ⟨[], Layout.nil, rfl⟩
  | cons token tokens ih =>
    obtain ⟨htoken, htokens⟩ := List.forall_mem_cons.1 htokens
    obtain ⟨taken, m', ⟨piece, hallows, hpiece, hconsumes⟩, hm', hcaptures⟩ :=
      walk_cons_eq_some htoken h
    obtain ⟨pieces, hlayout, hpieces⟩ := ih htokens hm'
    refine ⟨piece :: pieces, Layout.cons hallows hconsumes hlayout, ?_⟩
    rw [hcaptures, hpieces, List.flatMap_cons, hpiece]

/-! ## 3.  Matches -/

namespace Pattern

theorem layout_of_match? {p : Pattern} {uri : Text} {m : Match} (h : p.match? uri = some m) :
    ∃ pieces, Layout p.tokens uri pieces ∧ m.captures = pieces.flatMap Piece.captures := by
  rw [match?, Option.ite_none_left_eq_some] at h
  exact layout_of_walk p.template.wellFormedSeq_tokens.token h.2

/-- A match captures for variables of the pattern only. -/
theorem var_mem_of_match? {p : Pattern} {uri : Text} {m : Match} (h : p.match? uri = some m) :
    ∀ capture ∈ m.captures, capture.var ∈ p.template.vars := by
  obtain ⟨pieces, hlayout, hcaptures⟩ := layout_of_match? h
  rw [hcaptures]
  exact hlayout.var_mem

/-- **Operators are sound.**  Whenever a pattern matches a text, the text is made of one
piece for each token, each of them a piece that its token allows, and the captures are
those of the pieces, in order. -/
theorem match?_sound (p : Pattern) {uri : Text} {m : Match} (h : p.match? uri = some m) :
    ∃ pieces, List.Forall₂ Token.Allows p.tokens pieces ∧ pieces.flatMap Piece.text = uri ∧
      m.captures = pieces.flatMap Piece.captures := by
  obtain ⟨pieces, hlayout, hcaptures⟩ := layout_of_match? h
  exact ⟨pieces, hlayout.allows, hlayout.flatMap_text, hcaptures⟩

/-- The only segment goes to the first variable, and the group ends at the literal. -/
theorem match?_sound_operators :
    ∃ p : Pattern, p.source = "/api\x7b/v,w\x7d\x7b;m\x7d-\x7bx\x7d\x7b?q\x7d".toList ∧
      ∃ pieces, List.Forall₂ Token.Allows p.tokens pieces ∧
        pieces.flatMap Piece.text = "/api/1,2;m=5-a%20b?q".toList ∧
        pieces.flatMap Piece.captures =
          [⟨⟨['v'], none, none⟩, .many [['1'], ['2']]⟩, ⟨⟨['m'], none, none⟩, .one ['5']⟩,
            ⟨⟨['x'], none, none⟩, .one ['a', '%', '2', '0', 'b']⟩,
            ⟨⟨['q'], none, none⟩, .one []⟩] := by
  let p : Pattern := ⟨⟨"/api\x7b/v,w\x7d\x7b;m\x7d-\x7bx\x7d\x7b?q\x7d".toList,
    [.literal "/api".toList, .operator ⟨.pathSegments, [⟨['v'], none, none⟩, ⟨['w'], none, none⟩]⟩,
      .operator ⟨.pathParameters, [⟨['m'], none, none⟩]⟩, .literal ['-'],
      .var ⟨['x'], none, none⟩, .operator ⟨.queryParameters, [⟨['q'], none, none⟩]⟩], by rfl⟩⟩
  have hmatch : p.match? "/api/1,2;m=5-a%20b?q".toList = some
      ⟨[⟨⟨['v'], none, none⟩, .many [['1'], ['2']]⟩, ⟨⟨['m'], none, none⟩, .one ['5']⟩,
        ⟨⟨['x'], none, none⟩, .one ['a', '%', '2', '0', 'b']⟩,
        ⟨⟨['q'], none, none⟩, .one []⟩], 5⟩ := by decide +kernel
  obtain ⟨pieces, hallows, htext, hcaptures⟩ := match?_sound p hmatch
  exact ⟨p, rfl, pieces, hallows, htext, hcaptures.symm⟩

/-- A separator in lower case separates groups, although it is not the separator that the
pattern spells. -/
theorem exists_match?_join_lowerCase :
    ∃ (p : Pattern) (op : Operator), p.source = "\x7b-join|%2F|a,b\x7d".toList ∧
      p.tokens = [.operator op] ∧ op.form = .join "%2F".toList ∧
        (p.match? "a%2fb".toList).isSome = true ∧
        ¬∃ piece : Piece, op.AllowsGroups (· = []) (· = "%2F".toList) piece ∧
          piece.text = "a%2fb".toList := by
  let op : Operator := ⟨.join "%2F".toList, [⟨['a'], none, none⟩, ⟨['b'], none, none⟩]⟩
  let p : Pattern := ⟨⟨"\x7b-join|%2F|a,b\x7d".toList, [.operator op], by rfl⟩⟩
  refine ⟨p, op, rfl, rfl, rfl, by decide +kernel, ?_⟩
  rintro ⟨piece, ⟨groups, hfits, hparts, -⟩, htext⟩
  rw [Piece.text, hparts] at htext
  rcases groups with _ | ⟨g, _ | ⟨next, groups⟩⟩
  · cases htext
  · -- A single group is a name, or goes on with a `=`.
    have hlead : g.lead = [] := hfits.first g rfl
    have hvar : g.var ∈ op.vars := hfits.var g List.mem_cons_self
    rw [List.flatMap_singleton, Group.textOf_parts, hlead] at htext
    have hname : g.var.name = ['a'] ∨ g.var.name = ['b'] := by
      simp only [op, List.mem_cons, List.not_mem_nil, or_false] at hvar
      rcases hvar with hvar | hvar
      · exact Or.inl (by rw [hvar])
      · exact Or.inr (by rw [hvar])
    rcases hname with hname | hname <;> cases hvalue : g.value <;> simp [hname, hvalue] at htext
  · -- Of two groups, the second one is introduced by a text that has an `F`.
    have hlead : next.lead = "%2F".toList := hfits.next next List.mem_cons_self
    have hmem : 'F' ∈ "a%2fb".toList := by
      rw [← htext]
      simp [Group.textOf_parts, hlead]
    revert hmem
    decide

end Pattern
end UriRouting
