import UriRouting.Pattern.Capture
import UriRouting.Proofs.Pattern.Cut
import UriRouting.Proofs.Text.Fields

/-!
# Pieces of a matched text

A match divides a text among the tokens of a pattern.  The piece that a token gets is
made of parts: delimiters and names are passed over, values are captured.

## 1.  Parts

`Part.textOf` and `Part.capturedIn` read a list of parts.  `Part.ofFields` are the
fields of a value, each captured, with the commas between them passed over.

## 2.  Whole parts

`Part.Whole p parts rest`: in front of `rest`, every captured part is made of units of
the class and is not followed by a hexadecimal digit, so that it ends no escape before
its end.  The condition looks at what follows, hence `Part.whole_append`.

## 3.  Pieces

A `Piece` carries its captures beside its parts, and that they hold the captured parts.

## 4.  Taking parts from a text

`Consumes safe p text parts rest`: taking the parts from the front of `text` leaves
`rest`, and if nothing could cut an escape they are whole.  Such steps compose
(`Consumes.append`).
-/

namespace UriRouting

open CharClass (Units)

variable {p q : Char → Bool}

/-! ## 1.  Parts -/

/-- A part of a matched text. -/
inductive Part where
  /-- Text that no capture holds. -/
  | passed (text : Text)
  /-- Text that a capture holds. -/
  | captured (raw : Text)
  deriving DecidableEq, Repr

namespace Part

/-- The text of a part. -/
def text : Part → Text
  | passed t => t
  | captured raw => raw

/-- The text that parts make up. -/
def textOf (parts : List Part) : Text := parts.flatMap text

@[simp] theorem textOf_nil : textOf [] = [] := rfl

@[simp] theorem textOf_passed_cons (t : Text) (parts : List Part) :
    textOf (passed t :: parts) = t ++ textOf parts := rfl

@[simp] theorem textOf_captured_cons (raw : Text) (parts : List Part) :
    textOf (captured raw :: parts) = raw ++ textOf parts := rfl

@[simp] theorem textOf_append (parts others : List Part) :
    textOf (parts ++ others) = textOf parts ++ textOf others := List.flatMap_append

/-- The captured parts, in order. -/
def capturedIn : List Part → List Text
  | [] => []
  | passed _ :: parts => capturedIn parts
  | captured raw :: parts => raw :: capturedIn parts

@[simp] theorem capturedIn_nil : capturedIn [] = [] := rfl

@[simp] theorem capturedIn_passed_cons (t : Text) (parts : List Part) :
    capturedIn (passed t :: parts) = capturedIn parts := rfl

@[simp] theorem capturedIn_captured_cons (raw : Text) (parts : List Part) :
    capturedIn (captured raw :: parts) = raw :: capturedIn parts := rfl

@[simp] theorem capturedIn_append (parts others : List Part) :
    capturedIn (parts ++ others) = capturedIn parts ++ capturedIn others := by
  induction parts with
  | nil => rfl
  | cons part parts ih => cases part <;> simp [ih]

theorem capturedIn_flatMap {α : Type} (as : List α) (f : α → List Part) :
    capturedIn (as.flatMap f) = as.flatMap fun a => capturedIn (f a) := by
  induction as with
  | nil => rfl
  | cons a as ih => rw [List.flatMap_cons, List.flatMap_cons, capturedIn_append, ih]

/-- Fields, with the commas between them passed over. -/
def ofFields : List Text → List Part
  | [] => []
  | [t] => [captured t]
  | t :: u :: ts => captured t :: passed [','] :: ofFields (u :: ts)

@[simp] theorem textOf_ofFields (ts : List Text) : textOf (ofFields ts) = Text.joined [','] ts := by
  fun_induction ofFields ts with
  | case1 => rfl
  | case2 t => simp
  | case3 t u ts ih => simp [ih, Text.joined_cons_cons]

@[simp] theorem capturedIn_ofFields (ts : List Text) : capturedIn (ofFields ts) = ts := by
  fun_induction ofFields ts with
  | case1 => rfl
  | case2 t => rfl
  | case3 t u ts ih => simp [ih]

/-! ## 2.  Whole parts -/

/-- In front of `rest`, the captured parts are made of whole units, and none of them is
followed by a digit. -/
def Whole (p : Char → Bool) : List Part → (rest : Text) → Prop
  | [], _ => True
  | passed _ :: parts, rest => Whole p parts rest
  | captured raw :: parts, rest =>
      Units p raw ∧ startsWithHexDigit (textOf parts ++ rest) = false ∧ Whole p parts rest

theorem whole_append {parts others : List Part} {rest : Text} :
    Whole p (parts ++ others) rest ↔
      Whole p parts (textOf others ++ rest) ∧ Whole p others rest := by
  induction parts with
  | nil => exact ⟨fun h => ⟨trivial, h⟩, And.right⟩
  | cons part parts ih =>
    cases part with
    | passed t => exact ih
    | captured raw =>
      rw [List.cons_append, Whole, Whole, ih, textOf_append, List.append_assoc, and_assoc,
        and_assoc]

theorem Whole.mono (hpq : ∀ c, p c = true → q c = true) {parts : List Part} {rest : Text}
    (h : Whole p parts rest) : Whole q parts rest := by
  induction parts with
  | nil => trivial
  | cons part parts ih =>
    cases part with
    | passed t => exact ih h
    | captured raw => exact ⟨h.1.mono hpq, h.2.1, ih h.2.2⟩

theorem Whole.units {parts : List Part} {rest : Text} (h : Whole p parts rest) :
    ∀ raw ∈ capturedIn parts, Units p raw := by
  induction parts with
  | nil => exact fun raw hraw => absurd hraw List.not_mem_nil
  | cons part parts ih =>
    cases part with
    | passed t => exact ih h
    | captured raw => exact List.forall_mem_cons.2 ⟨h.1, ih h.2.2⟩

/-- Fields are whole when each is made of whole units and no digit follows the last. -/
theorem whole_ofFields {ts : List Text} {rest : Text} (hts : ∀ t ∈ ts, Units p t)
    (hrest : startsWithHexDigit rest = false) : Whole p (ofFields ts) rest := by
  fun_induction ofFields ts with
  | case1 => trivial
  | case2 t => exact ⟨hts t List.mem_cons_self, hrest, trivial⟩
  | case3 t u ts ih =>
    obtain ⟨ht, hts⟩ := List.forall_mem_cons.1 hts
    exact ⟨ht, rfl, ih hts⟩

end Part

/-- The fields of a text of whole units are made of whole units. -/
theorem CharClass.Units.of_joined {ts : List Text} (h : Units p (Text.joined [','] ts)) :
    ∀ t ∈ ts, Units p t := by
  induction ts with
  | nil => exact fun t ht => absurd ht List.not_mem_nil
  | cons t ts ih =>
    cases ts with
    | nil =>
      rw [Text.joined_singleton] at h
      exact List.forall_mem_singleton.2 h
    | cons u ts =>
      rw [Text.joined_cons_cons, List.append_assoc] at h
      -- A comma opens no escape, so the units behind it stay as they are.
      obtain ⟨ht, hbehind⟩ := h.of_append rfl
      cases hbehind with
      | char _ _ hts => exact List.forall_mem_cons.2 ⟨ht, ih hts⟩

/-! ## 3.  Pieces -/

/-- What a token gets of a matched text, and what it captures of it. -/
structure Piece where
  /-- The parts of the piece. -/
  parts : List Part
  /-- The captures that the token makes. -/
  captures : List Capture
  /-- The captures hold the captured parts. -/
  holds : Part.capturedIn parts = captures.flatMap fun capture => capture.raw.items

namespace Piece

/-- The text of a piece. -/
def text (piece : Piece) : Text := Part.textOf piece.parts

/-- A piece that is passed over as a whole. -/
def skip (t : Text) : Piece := ⟨[.passed t], [], rfl⟩

/-- The text of pieces that follow one another. -/
theorem textOf_flatMap_parts (pieces : List Piece) :
    Part.textOf (pieces.flatMap parts) = pieces.flatMap text := by
  induction pieces with
  | nil => rfl
  | cons piece pieces ih => rw [List.flatMap_cons, Part.textOf_append, ih, List.flatMap_cons, text]

end Piece

/-! ## 4.  Taking parts from a text -/

/-- Taking parts from the front of a text leaves `rest`; if that is `safe`, the captured
parts are whole. -/
structure Consumes (safe : Bool) (p : Char → Bool) (text : Text) (parts : List Part)
    (rest : Text) : Prop where
  /-- The parts and the rest make up the text. -/
  text_eq : text = Part.textOf parts ++ rest
  /-- No captured part ends inside an escape. -/
  whole : safe = true → Part.Whole p parts rest

namespace Consumes

variable {safe : Bool} {parts others : List Part} {t text middle rest : Text}

theorem nil : Consumes safe p text [] text := ⟨rfl, fun _ => trivial⟩

theorem passed (h : text = t ++ rest) : Consumes safe p text [.passed t] rest :=
  ⟨by rw [h, Part.textOf_passed_cons, Part.textOf_nil, List.append_nil], fun _ => trivial⟩

theorem captured (h : text = t ++ rest)
    (hwhole : safe = true → Units p t ∧ startsWithHexDigit rest = false) :
    Consumes safe p text [.captured t] rest :=
  ⟨by rw [h, Part.textOf_captured_cons, Part.textOf_nil, List.append_nil],
    fun hsafe => ⟨(hwhole hsafe).1, (hwhole hsafe).2, trivial⟩⟩

/-- Parts that are taken one after the other are taken together. -/
theorem append (h : Consumes safe p text parts middle) (h' : Consumes safe p middle others rest) :
    Consumes safe p text (parts ++ others) rest := by
  refine ⟨?_, fun hsafe => ?_⟩
  · rw [h.text_eq, h'.text_eq, Part.textOf_append, List.append_assoc]
  · have hwhole := h.whole hsafe
    rw [h'.text_eq] at hwhole
    exact Part.whole_append.2 ⟨hwhole, h'.whole hsafe⟩

/-- A value that is made of whole units is taken field by field. -/
theorem fields {ts : List Text} (h : text = Text.joined [','] ts ++ rest)
    (hwhole : safe = true → (∀ t ∈ ts, Units p t) ∧ startsWithHexDigit rest = false) :
    Consumes safe p text (Part.ofFields ts) rest := by
  refine ⟨?_, fun hsafe => ?_⟩
  · rw [h, Part.textOf_ofFields]
  · exact Part.whole_ofFields (hwhole hsafe).1 (hwhole hsafe).2

end Consumes
end UriRouting
