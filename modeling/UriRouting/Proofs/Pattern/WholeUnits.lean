import UriRouting.Proofs.Pattern.Layout

/-!
# Captured text in whole units

Captured text belongs to the class of its token in whole units: no capture ends inside
an escape of the text that is matched.  This holds of the patterns in which no text that
may end a capture begins with a hexadecimal digit.  Such a text also stands behind the
`%` of an escape, and a run is then cut there (`exists_match?_cutsEscape`).

* `Token.MayCapture`: what a token may capture.
* `Layout.whole` and `Layout.mayCapture`: the captured parts of a layout are whole, and
  are what their tokens may capture.
* `Pattern.match?_wholeUnits`: the same for matches.
-/

namespace UriRouting

open CharClass (Units)

/-! ## What a token may capture -/

/-- Whether a text is one that a token may capture: whole units of its class, and at least
one of them if the token is a variable or the operator `+` over a single one. -/
def Token.MayCapture : Token → Text → Prop
  | var _, raw =>
      raw ≠ [] ∧ Units CharClass.unreserved.admits raw ∧
        CharClass.unreserved.runBytes raw = raw.utf8Size
  | operator op, raw =>
      if op.form = .reserved then
        (op.vars.length = 1 → raw ≠ []) ∧ Units CharClass.reserved.admits raw
      else Units CharClass.unreserved.admits raw
  | _, _ => False

/-- The captures of an allowed piece are what the token may capture, if they are made of
whole units. -/
theorem Token.Allows.mayCapture {token : Token} {piece : Piece} (h : token.Allows piece)
    (hunits : ∀ raw ∈ Part.capturedIn piece.parts, Units token.captureClass.admits raw) :
    ∀ capture ∈ piece.captures, ∀ raw ∈ capture.raw.items, token.MayCapture raw := by
  intro capture hcapture raw hraw
  have hheld : raw ∈ Part.capturedIn piece.parts := by
    rw [piece.holds]
    exact List.mem_flatMap.2 ⟨capture, hcapture, hraw⟩
  replace hunits := hunits raw hheld
  cases token with
  | literal lit =>
    obtain ⟨t, -, rfl⟩ := h
    exact absurd hcapture List.not_mem_nil
  | wildcard =>
    obtain ⟨t, rfl⟩ := h
    exact absurd hcapture List.not_mem_nil
  | var v =>
    obtain ⟨t, hne, hparts, -⟩ := h
    rw [hparts] at hheld
    obtain rfl : raw = t := List.mem_singleton.1 hheld
    exact ⟨hne, hunits, hunits.runBytes_eq CharClass.noConfusion⟩
  | operator op =>
    rw [MayCapture]
    split
    · rename_i hform
      rw [captureClass, if_pos hform] at hunits
      refine ⟨fun hsingle => ?_, hunits⟩
      simp only [Token.Allows, Operator.Allows, hform] at h
      obtain ⟨t, hne, hparts, -⟩ := h
      rw [hparts, hsingle, Part.capturedIn_ofFields] at hheld
      obtain rfl : raw = t := List.mem_singleton.1 hheld
      exact hne
    · rename_i hform
      rwa [captureClass, if_neg hform] at hunits

/-! ## Whole layouts -/

namespace Layout

variable {tokens : List Token} {text : Text} {pieces : List Piece}

/-- If no text that may end a capture begins with a digit, the captured parts of the whole
text are whole. -/
theorem whole (h : Layout tokens text pieces) (hstops : keepEscapes (captureStops tokens) = true) :
    Part.Whole CharClass.any.admits (pieces.flatMap Piece.parts) [] := by
  induction h with
  | nil => trivial
  | cons _ consumes layout ih =>
    rw [captureStops, keepEscapes_append, Bool.and_eq_true] at hstops
    rw [List.flatMap_cons, Part.whole_append, Piece.textOf_flatMap_parts, layout.flatMap_text,
      List.append_nil]
    exact ⟨(consumes.whole hstops.1).mono fun _ _ => rfl, ih hstops.2⟩

/-- Then every captured text is one that its token may capture. -/
theorem mayCapture (h : Layout tokens text pieces)
    (hstops : keepEscapes (captureStops tokens) = true) :
    List.Forall₂ (fun token piece => token.Allows piece ∧
      ∀ capture ∈ piece.captures, ∀ raw ∈ capture.raw.items, token.MayCapture raw)
      tokens pieces := by
  induction h with
  | nil => exact List.Forall₂.nil
  | cons allows consumes _ ih =>
    rw [captureStops, keepEscapes_append, Bool.and_eq_true] at hstops
    have hunits := (consumes.whole hstops.1).units
    exact List.Forall₂.cons ⟨allows, allows.mayCapture hunits⟩ (ih hstops.2)

end Layout

/-- No whole part ends inside an escape. -/
theorem Part.Whole.not_cutsEscape {p : Char → Bool} {before after : List Part} {raw rest : Text}
    (h : Part.Whole p (before ++ .captured raw :: after) rest) :
    ¬CutsEscape (Part.textOf before ++ raw) (Part.textOf after ++ rest) := by
  obtain ⟨-, -, hbehind, -⟩ := Part.whole_append.1 h
  exact UriRouting.not_cutsEscape hbehind

/-! ## Matches -/

namespace Pattern

/-- **Captured text is made of whole units.**  In a pattern in which no text that may end
a capture begins with a hexadecimal digit, every captured text is one that its token may
capture, and none ends inside an escape of the text that is matched. -/
theorem match?_wholeUnits (p : Pattern) (hstops : keepEscapes (captureStops p.tokens) = true)
    {uri : Text} {m : Match} (h : p.match? uri = some m) :
    ∃ pieces, pieces.flatMap Piece.text = uri ∧ m.captures = pieces.flatMap Piece.captures ∧
      List.Forall₂ (fun token piece => token.Allows piece ∧
        ∀ capture ∈ piece.captures, ∀ raw ∈ capture.raw.items, token.MayCapture raw)
        p.tokens pieces ∧
      ∀ before raw after, pieces.flatMap Piece.parts = before ++ .captured raw :: after →
        ¬CutsEscape (Part.textOf before ++ raw) (Part.textOf after) := by
  obtain ⟨pieces, hlayout, hcaptures⟩ := layout_of_match? h
  refine ⟨pieces, hlayout.flatMap_text, hcaptures, hlayout.mayCapture hstops, ?_⟩
  intro before raw after hparts
  have hwhole := hlayout.whole hstops
  rw [hparts] at hwhole
  have hcut := hwhole.not_cutsEscape
  rwa [List.append_nil] at hcut

/-- The run ends in front of the escape of the literal, and no other escape is cut. -/
theorem match?_wholeUnits_escapes :
    ∃ p : Pattern, p.source = "\x7bx\x7d%2F\x7b+p\x7d\x7b?q\x7d".toList ∧
      keepEscapes (captureStops p.tokens) = true ∧
      ∃ pieces : List Piece, pieces.flatMap Piece.text = "a%20b%2fc/d%3F?q=1%2C2,3".toList ∧
        pieces.flatMap Piece.captures =
          [⟨⟨['x'], none, none⟩, .one "a%20b".toList⟩, ⟨⟨['p'], none, none⟩, .one "c/d%3F".toList⟩,
            ⟨⟨['q'], none, none⟩, .many ["1%2C2".toList, ['3']]⟩] ∧
        ∀ before raw after, pieces.flatMap Piece.parts = before ++ .captured raw :: after →
          ¬CutsEscape (Part.textOf before ++ raw) (Part.textOf after) := by
  let p : Pattern := ⟨⟨"\x7bx\x7d%2F\x7b+p\x7d\x7b?q\x7d".toList,
    [.var ⟨['x'], none, none⟩, .literal "%2F".toList, .operator ⟨.reserved, [⟨['p'], none, none⟩]⟩,
      .operator ⟨.queryParameters, [⟨['q'], none, none⟩]⟩], by rfl⟩⟩
  have hmatch : p.match? "a%20b%2fc/d%3F?q=1%2C2,3".toList = some
      ⟨[⟨⟨['x'], none, none⟩, .one "a%20b".toList⟩, ⟨⟨['p'], none, none⟩, .one "c/d%3F".toList⟩,
        ⟨⟨['q'], none, none⟩, .many ["1%2C2".toList, ['3']]⟩], 3⟩ := by decide +kernel
  have hstops : keepEscapes (captureStops p.tokens) = true := by decide
  obtain ⟨pieces, htext, hcaptures, -, hcuts⟩ := match?_wholeUnits p hstops hmatch
  exact ⟨p, rfl, hstops, pieces, htext, hcaptures.symm, hcuts⟩

/-- Before a literal that begins with a digit, a variable may be cut off inside an escape. -/
theorem exists_match?_cutsEscape :
    ∃ p : Pattern, p.source = "\x7bx\x7d0".toList ∧
      (∃ m, p.match? "%20".toList = some m ∧
        m.captures = [⟨⟨['x'], none, none⟩, .one "%2".toList⟩]) ∧
      ¬Units CharClass.unreserved.admits "%2".toList ∧
      CharClass.unreserved.runBytes "%2".toList ≠ Text.utf8Size "%2".toList ∧
      CutsEscape "%2".toList "0".toList := by
  let p : Pattern :=
    ⟨⟨"\x7bx\x7d0".toList, [.var ⟨['x'], none, none⟩, .literal ['0']], by rfl⟩⟩
  refine ⟨p, rfl, ⟨⟨[⟨⟨['x'], none, none⟩, .one "%2".toList⟩], 1⟩, by decide +kernel, rfl⟩, ?_,
    by decide, ⟨[], [], '2', '0', rfl, rfl, Or.inr ⟨rfl, rfl⟩⟩⟩
  intro hunits
  cases hunits with
  | char hne _ _ => exact hne rfl

end Pattern
end UriRouting
