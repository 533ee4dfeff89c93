import UriRouting.Proofs.Pattern.Piece

/-!
# The pieces that tokens allow

Which piece of a text a token may get, and what it captures of it.  These are conditions
on the piece alone: they do not say how long a piece is, nor where it stands.

## The dictionary

* `SameLiteral literal text`: the text equals the literal up to the case of its escapes.
* `Group`: a group `name` or `name=value` behind a lead; `Operator.AllowsGroups` for `;`,
  `?` and `join`.
* `Operator.AllowsSegments`: segments `/value`, for `/`.
* `Item`: an item between a lead and a tail.  `Operator.AllowsItems` for `list`, where the
  leads are separators, and `Operator.AllowsRuns` for `prefix` and `suffix`, where each
  variable has a run of items.
* `Token.Allows`: the pieces of a token.  Whatever they capture, they capture for variables
  of the token (`Token.Allows.var_mem`).
-/

namespace UriRouting

/-! ## Literals -/

/-- A text that equals a literal up to the case of the digits of its escapes. -/
def SameLiteral (literal text : Text) : Prop := upperEscapes text = upperEscapes literal

theorem SameLiteral.length_eq {literal text : Text} (h : SameLiteral literal text) :
    text.length = literal.length := by
  rw [← length_upperEscapes text, h, length_upperEscapes]

@[simp] theorem sameLiteral_nil_iff {text : Text} : SameLiteral [] text ↔ text = [] := by
  constructor
  · intro h
    exact List.length_eq_zero_iff.1 h.length_eq
  · rintro rfl
    rfl

@[simp] theorem sameLiteral_singleton_iff {c : Char} {text : Text} :
    SameLiteral [c] text ↔ text = [c] := by
  constructor
  · intro h
    obtain ⟨d, rfl⟩ := List.length_eq_one_iff.1 h.length_eq
    have hhead : some d = some c := by
      have hupper := congrArg List.head? h
      rwa [head?_upperEscapes, head?_upperEscapes] at hupper
    rw [Option.some.inj hhead]
  · rintro rfl
    rfl

/-! ## Groups -/

/-- A group `name` or `name=value` of a variable, behind a lead. -/
structure Group where
  /-- What introduces the group. -/
  lead : Text
  /-- The variable that the group names. -/
  var : Variable
  /-- The value, if there is a `=`. -/
  value : Option Text

namespace Group

/-- The parts of a group.  Without a `=`, the empty text behind the name is captured. -/
def parts (g : Group) : List Part :=
  match g.value with
  | none => [.passed (g.lead ++ g.var.name), .captured []]
  | some value => .passed (g.lead ++ g.var.name ++ ['=']) :: Part.ofFields (value.fields ',')

/-- The capture of a group: its value split at the commas. -/
def capture (g : Group) : Capture := ⟨g.var, .ofCommaSeparated (g.value.getD [])⟩

theorem textOf_parts (g : Group) :
    Part.textOf g.parts = g.lead ++ g.var.name ++ g.value.elim [] ('=' :: ·) := by
  rw [parts]
  cases g.value with
  | none => simp
  | some value =>
    obtain ⟨-, -, hjoin⟩ := Text.fields_spec ',' value
    simp [hjoin]

theorem capturedIn_parts (g : Group) : Part.capturedIn g.parts = g.capture.raw.items := by
  rw [parts, capture, OneOrMany.items_ofCommaSeparated]
  cases g.value with
  | none => rfl
  | some value => simp

end Group

namespace Operator

/-- Groups of the given variables, the first one behind a text of `first` and the others
behind texts of `next`. -/
structure FitsGroups (vars : List Variable) (first next : Text → Prop) (groups : List Group) :
    Prop where
  /-- Every group names one of the variables. -/
  var : ∀ g ∈ groups, g.var ∈ vars
  /-- What introduces the first group. -/
  first : ∀ g ∈ groups.head?, first g.lead
  /-- What introduces the others. -/
  next : ∀ g ∈ groups.tail, next g.lead

/-- Groups in any order, with one capture for each. -/
def AllowsGroups (op : Operator) (first next : Text → Prop) (piece : Piece) : Prop :=
  ∃ groups, FitsGroups op.vars first next groups ∧
    piece.parts = groups.flatMap Group.parts ∧ piece.captures = groups.map Group.capture

theorem AllowsGroups.mono {op : Operator} {first first' next next' : Text → Prop} {piece : Piece}
    (h : op.AllowsGroups first next piece) (hfirst : ∀ t, first t → first' t)
    (hnext : ∀ t, next t → next' t) : op.AllowsGroups first' next' piece := by
  obtain ⟨groups, hfits, hpiece⟩ := h
  exact ⟨groups, ⟨hfits.var, fun g hg => hfirst _ (hfits.first g hg),
    fun g hg => hnext _ (hfits.next g hg)⟩, hpiece⟩

theorem capturedIn_groups (groups : List Group) :
    Part.capturedIn (groups.flatMap Group.parts) =
      (groups.map Group.capture).flatMap fun capture => capture.raw.items := by
  simp only [Part.capturedIn_flatMap, Group.capturedIn_parts, List.flatMap_map]

/-! ## Segments -/

/-- The parts of a segment: its value split at the commas. -/
def segment (value : Text) : List Part := .passed ['/'] :: Part.ofFields (value.fields ',')

/-- The captures of the variables that have a segment. -/
def segmentCaptures (vars : List Variable) (values : List Text) : List Capture :=
  List.zipWith (fun v value => ⟨v, .ofCommaSeparated value⟩) vars values

/-- Non-empty values for the first of the given variables. -/
structure FitsSegments (vars : List Variable) (values : List Text) : Prop where
  /-- There is a variable for each value. -/
  length_le : values.length ≤ vars.length
  /-- No value is empty. -/
  ne_nil : ∀ value ∈ values, value ≠ []

/-- Segments for the first variables of the operator, with one capture for each. -/
def AllowsSegments (op : Operator) (piece : Piece) : Prop :=
  ∃ values, FitsSegments op.vars values ∧
    piece.parts = values.flatMap segment ∧ piece.captures = segmentCaptures op.vars values

theorem capturedIn_segments {vars : List Variable} {values : List Text}
    (h : values.length ≤ vars.length) :
    Part.capturedIn (values.flatMap segment) =
      (segmentCaptures vars values).flatMap fun capture => capture.raw.items := by
  induction values generalizing vars with
  | nil => rw [segmentCaptures, List.zipWith_nil_right]; rfl
  | cons value values ih =>
    cases vars with
    | nil => cases h
    | cons v vars =>
      rw [segmentCaptures, List.zipWith_cons_cons, List.flatMap_cons, List.flatMap_cons,
        Part.capturedIn_append, ih (Nat.le_of_succ_le_succ h), segmentCaptures]
      simp [segment]

end Operator

/-! ## Items -/

/-- An item of a list, with what is written before and after it. -/
structure Item where
  /-- The text before the item. -/
  lead : Text
  /-- The item. -/
  text : Text
  /-- The text after the item. -/
  tail : Text

namespace Item

/-- The parts of an item. -/
def parts (item : Item) : List Part :=
  [.passed item.lead, .captured item.text, .passed item.tail]

theorem capturedIn_parts (items : List Item) :
    Part.capturedIn (items.flatMap parts) = items.map text := by
  rw [Part.capturedIn_flatMap]
  exact List.map_eq_flatMap.symm

/-- The capture of a run of items. -/
def capture (v : Variable) (items : List Item) : Capture := ⟨v, .ofItems (items.map text)⟩

end Item

namespace Operator

/-- Non-empty items with a separator before each but the first. -/
structure FitsItems (separator : Text → Prop) (items : List Item) : Prop where
  /-- No item is empty, and nothing is written after it. -/
  item : ∀ item ∈ items, item.text ≠ [] ∧ item.tail = []
  /-- Nothing is written before the first item. -/
  first : ∀ item ∈ items.head?, item.lead = []
  /-- The others stand behind separators. -/
  next : ∀ item ∈ items.tail, separator item.lead

/-- Items for the single variable of the operator.  All are in one capture; without an
item there is none. -/
def AllowsItems (op : Operator) (separator : Text → Prop) (piece : Piece) : Prop :=
  ∃ v items, op.vars = [v] ∧ FitsItems separator items ∧
    piece.parts = items.flatMap Item.parts ∧
    piece.captures = if items.isEmpty then [] else [Item.capture v items]

/-- Runs of decorated items for the first of the given variables, of which only the last
may have a run of several items. -/
structure FitsRuns (vars : List Variable) (lead tail : Text → Prop) (runs : List (List Item)) :
    Prop where
  /-- There is a variable for each run. -/
  length_le : runs.length ≤ vars.length
  /-- No run is empty. -/
  ne_nil : ∀ run ∈ runs, run ≠ []
  /-- The runs of the variables before the last one have a single item. -/
  single : ∀ run ∈ runs.take (vars.length - 1), run.length = 1
  /-- No item is empty, and each is decorated. -/
  item : ∀ run ∈ runs, ∀ item ∈ run, lead item.lead ∧ item.text ≠ [] ∧ tail item.tail

/-- Runs for the first variables of the operator, with one capture for each. -/
def AllowsRuns (op : Operator) (lead tail : Text → Prop) (piece : Piece) : Prop :=
  ∃ runs, FitsRuns op.vars lead tail runs ∧
    piece.parts = runs.flatten.flatMap Item.parts ∧
    piece.captures = List.zipWith Item.capture op.vars runs

theorem AllowsRuns.mono {op : Operator} {lead lead' tail tail' : Text → Prop} {piece : Piece}
    (h : op.AllowsRuns lead tail piece) (hlead : ∀ t, lead t → lead' t)
    (htail : ∀ t, tail t → tail' t) : op.AllowsRuns lead' tail' piece := by
  obtain ⟨runs, hfits, hpiece⟩ := h
  refine ⟨runs, ⟨hfits.length_le, hfits.ne_nil, hfits.single, ?_⟩, hpiece⟩
  intro run hrun item hitem
  obtain ⟨hbefore, hne, hafter⟩ := hfits.item run hrun item hitem
  exact ⟨hlead _ hbefore, hne, htail _ hafter⟩

theorem capturedIn_runs {vars : List Variable} {runs : List (List Item)}
    (h : runs.length ≤ vars.length) :
    Part.capturedIn (runs.flatten.flatMap Item.parts) =
      (List.zipWith Item.capture vars runs).flatMap fun capture => capture.raw.items := by
  rw [Item.capturedIn_parts]
  induction runs generalizing vars with
  | nil => rw [List.zipWith_nil_right]; rfl
  | cons run runs ih =>
    cases vars with
    | nil => cases h
    | cons v vars =>
      rw [List.zipWith_cons_cons, List.flatten_cons, List.map_append, List.flatMap_cons,
        ih (Nat.le_of_succ_le_succ h)]
      simp [Item.capture]

/-! ## Operators and tokens -/

/-- The pieces that an operator allows. -/
def Allows (op : Operator) (piece : Piece) : Prop :=
  match op.form with
  | .reserved => ∃ raw : Text, raw ≠ [] ∧
      piece.parts = Part.ofFields (raw.fieldsAtMost ',' op.vars.length) ∧
      piece.captures = positionalCaptures op.vars raw
  | .pathParameters => op.AllowsGroups (· = [';']) (· = [';']) piece
  | .queryParameters => op.AllowsGroups (· = ['?']) (· = ['&']) piece
  | .join separator => op.AllowsGroups (· = []) (SameLiteral separator) piece
  | .pathSegments => op.AllowsSegments piece
  | .list separator => op.AllowsItems (SameLiteral separator) piece
  | .prefixed arg => op.AllowsRuns (SameLiteral arg) (· = []) piece
  | .suffixed arg => op.AllowsRuns (· = []) (SameLiteral arg) piece
  | .opt arg => ∃ t, (t = [] ∨ SameLiteral arg t) ∧ piece = .skip t
  | .neg arg => ∃ t, (t = [] ∨ SameLiteral arg t) ∧ piece = .skip t

end Operator

/-- The pieces that a token allows. -/
def Token.Allows : Token → Piece → Prop
  | literal lit, piece => ∃ t, SameLiteral lit t ∧ piece = .skip t
  | wildcard, piece => ∃ t, piece = .skip t
  | var v, piece => ∃ raw, raw ≠ [] ∧ piece.parts = [.captured raw] ∧
      piece.captures = [⟨v, .one raw⟩]
  | operator op, piece => op.Allows piece

/-! ## The variables of captures -/

theorem exists_of_mem_zipWith {α β γ : Type} {f : α → β → γ} {as : List α} {bs : List β} {c : γ}
    (h : c ∈ List.zipWith f as bs) : ∃ a ∈ as, ∃ b, f a b = c := by
  rw [← List.map_uncurry_zip_eq_zipWith, List.mem_map] at h
  obtain ⟨⟨a, b⟩, hmem, rfl⟩ := h
  exact ⟨a, (List.of_mem_zip hmem).1, b, rfl⟩

theorem var_mem_of_mem_positionalCaptures {vars : List Variable} {raw : Text} {capture : Capture}
    (h : capture ∈ positionalCaptures vars raw) : capture.var ∈ vars := by
  unfold positionalCaptures at h
  split at h
  · rw [List.mem_singleton.1 h]
    exact List.mem_cons_self
  · obtain ⟨⟨v, part⟩, hmem, rfl⟩ := List.mem_map.1 h
    exact (List.of_mem_zip hmem).1

theorem Operator.AllowsGroups.var_mem {op : Operator} {first next : Text → Prop} {piece : Piece}
    (h : op.AllowsGroups first next piece) : ∀ capture ∈ piece.captures, capture.var ∈ op.vars := by
  obtain ⟨groups, hfits, -, hcaptures⟩ := h
  intro capture hcapture
  rw [hcaptures] at hcapture
  obtain ⟨g, hg, rfl⟩ := List.mem_map.1 hcapture
  exact hfits.var g hg

theorem Operator.AllowsRuns.var_mem {op : Operator} {lead tail : Text → Prop} {piece : Piece}
    (h : op.AllowsRuns lead tail piece) : ∀ capture ∈ piece.captures, capture.var ∈ op.vars := by
  obtain ⟨runs, -, -, hcaptures⟩ := h
  intro capture hcapture
  rw [hcaptures] at hcapture
  obtain ⟨v, hv, run, rfl⟩ := exists_of_mem_zipWith hcapture
  exact hv

/-- **A token captures for its own variables only.** -/
theorem Token.Allows.var_mem {token : Token} {piece : Piece} (h : token.Allows piece) :
    ∀ capture ∈ piece.captures, capture.var ∈ token.vars := by
  intro capture hcapture
  have hskip : ∀ t, piece ≠ .skip t := by
    rintro t rfl
    exact List.not_mem_nil hcapture
  cases token with
  | literal lit =>
    obtain ⟨t, -, hpiece⟩ := h
    exact absurd hpiece (hskip t)
  | wildcard =>
    obtain ⟨t, hpiece⟩ := h
    exact absurd hpiece (hskip t)
  | var v =>
    obtain ⟨raw, -, -, hcaptures⟩ := h
    rw [hcaptures, List.mem_singleton] at hcapture
    rw [hcapture]
    exact List.mem_cons_self
  | operator op =>
    obtain ⟨form, vars⟩ := op
    cases form with
    | reserved =>
      obtain ⟨raw, -, -, hcaptures⟩ := h
      rw [hcaptures] at hcapture
      exact var_mem_of_mem_positionalCaptures hcapture
    | pathParameters => exact Operator.AllowsGroups.var_mem h capture hcapture
    | queryParameters => exact Operator.AllowsGroups.var_mem h capture hcapture
    | join separator => exact Operator.AllowsGroups.var_mem h capture hcapture
    | pathSegments =>
      obtain ⟨values, -, -, hcaptures⟩ := h
      rw [hcaptures] at hcapture
      obtain ⟨v, hv, value, rfl⟩ := exists_of_mem_zipWith hcapture
      exact hv
    | list separator =>
      obtain ⟨v, items, hvars, -, -, hcaptures⟩ := h
      rw [hcaptures] at hcapture
      split at hcapture
      · exact absurd hcapture List.not_mem_nil
      · rw [List.mem_singleton] at hcapture
        rw [hcapture, Token.vars, hvars]
        exact List.mem_cons_self
    | prefixed arg => exact Operator.AllowsRuns.var_mem h capture hcapture
    | suffixed arg => exact Operator.AllowsRuns.var_mem h capture hcapture
    | opt arg =>
      obtain ⟨t, -, hpiece⟩ := h
      exact absurd hpiece (hskip t)
    | neg arg =>
      obtain ⟨t, -, hpiece⟩ := h
      exact absurd hpiece (hskip t)

end UriRouting
