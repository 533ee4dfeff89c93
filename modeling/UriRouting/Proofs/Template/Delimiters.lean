import UriRouting.Proofs.Percent.Codec
import UriRouting.Proofs.Template.Observation

/-!
# Values never write delimiters

The delimiters of an expansion are written by the template and not by the values in
it: by its literals, by the names and texts of its operators, and by the characters
that an operator puts between values.  What a value says therefore cannot show among
them.  What shows is its *shape*: whether there is a value, and how many items it has.

## 1.  Delimiters

`Text.delimiters` keeps the delimiters of a text.  An encoded text has none
(`Text.delimiters_encode`).

## 2.  Shapes

`OneOrMany.shape` forgets the words of a value, `Parameters.shape?` those of a
parameter; a variable whose parameters have one shape has values of one shape
(`Parameters.map_shape_lookup`), since its default is the same in both.

## 3.  Two expansions

The delimiters of the items of a value follow from its shape (`Template.follows_shape`),
and so do those of an expansion: `Template.delimiters_expandTokens` is the statement about
whole templates.  The operator `+` is left out, for it is made to let delimiters through.
-/

namespace UriRouting

/-! ## 1.  Delimiters -/

namespace Text

/-- The delimiters of a text, in their order. -/
def delimiters (t : Text) : Text := t.filter isReserved

@[simp] theorem delimiters_append (s t : Text) :
    delimiters (s ++ t) = s.delimiters ++ t.delimiters := List.filter_append s t

theorem isReserved_of_isUnreserved {c : Char} (h : isUnreserved c = true) :
    isReserved c = false := by
  have hall : reservedChars.all (fun d => !isUnreserved d) = true := by decide
  refine eq_false_of_ne_true fun hc => ?_
  have hnot := List.all_eq_true.1 hall c (List.contains_iff_mem.1 hc)
  rw [h] at hnot
  cases hnot

/-- An encoded text has no delimiter. -/
@[simp] theorem delimiters_encode (t : Text) : delimiters (Percent.encode t) = [] := by
  refine List.filter_eq_nil_iff.2 fun c hc => ?_
  rw [Bool.not_eq_true]
  rcases (Percent.units_encode t).mem hc with rfl | hdigit | hunreserved
  · rfl
  · exact isReserved_of_isUnreserved (isUnreserved_of_isHexDigit hdigit)
  · exact isReserved_of_isUnreserved hunreserved

end Text

/-- The view of the delimiters of a text. -/
def TextView.delimiters : TextView := ⟨Text.delimiters, Text.delimiters_append⟩

theorem Text.delimiters_flatMap {α : Type} (as : List α) (f : α → Text) :
    delimiters (as.flatMap f) = as.flatMap fun a => (f a).delimiters :=
  TextView.delimiters.see_flatMap as f

/-! ## 2.  Shapes -/

/-- What is left of a value without its words. -/
inductive ValueShape where
  /-- A text. -/
  | text
  /-- A list of a given length. -/
  | list (length : Nat)
  deriving DecidableEq, Repr

namespace OneOrMany

/-- The shape of a value. -/
def shape : OneOrMany Text → ValueShape
  | one _ => .text
  | many ts => .list ts.length

theorem length_items_of_shape {a b : OneOrMany Text} (h : a.shape = b.shape) :
    a.items.length = b.items.length := by
  cases a with
  | one s =>
    cases b with
    | one t => rfl
    | many ts => cases h
  | many ss =>
    cases b with
    | one t => cases h
    | many ts => exact ValueShape.list.inj h

end OneOrMany

namespace Parameters

variable {params params' : Parameters} {v : Variable}

/-- The shape of the parameter of a given name, if it is defined: an empty text and an
empty list are not. -/
def shape? (params : Parameters) (name : Text) : Option ValueShape :=
  ((params.get? name).filter OneOrMany.isDefined).map OneOrMany.shape

/-- Parameters of one shape give a variable values of one shape. -/
theorem map_shape_lookup (h : params.shape? v.name = params'.shape? v.name) :
    (params.lookup v).map OneOrMany.shape = (params'.lookup v).map OneOrMany.shape :=
  map_lookup h

end Parameters

/-! ## 3.  Two expansions -/

namespace Template

open Parameters Text

variable {params params' : Parameters}

/-- The items of values of one shape have the same delimiters, namely none. -/
theorem follows_shape : TextView.delimiters.Follows OneOrMany.shape Percent.encode := by
  intro a b h
  have hnone : ∀ ts : List Text,
      (ts.map Percent.encode).map delimiters = List.replicate ts.length [] := by
    intro ts
    rw [List.map_map, ← List.map_const']
    exact List.map_congr_left fun t _ => delimiters_encode t
  show (a.items.map Percent.encode).map delimiters = (b.items.map Percent.encode).map delimiters
  rw [hnone, hnone, OneOrMany.length_items_of_shape h]

/-- The delimiters of a token come from its own texts and the shapes of its values. -/
theorem delimiters_expandToken {token : Token} (hform : ∀ op, token = .operator op →
      op.form ≠ .reserved)
    (h : ∀ v ∈ token.vars, (params.lookup v).map OneOrMany.shape =
      (params'.lookup v).map OneOrMany.shape) :
    delimiters (expandToken params token) = delimiters (expandToken params' token) :=
  TextView.see_expandToken follows_shape (fun op hop hreserved => absurd hreserved (hform op hop)) h

/-- **No value writes a delimiter.**  Under parameters of one shape, a template without
the operator `+` expands to texts with the same delimiters in the same order. -/
theorem delimiters_expandTokens {tokens : List Token}
    (hforms : ∀ op, Token.operator op ∈ tokens → op.form ≠ .reserved)
    (hshape : ∀ v ∈ tokens.flatMap Token.vars, params.shape? v.name = params'.shape? v.name) :
    delimiters (expandTokens tokens params) = delimiters (expandTokens tokens params') := by
  rw [expandTokens, expandTokens, delimiters_flatMap, delimiters_flatMap]
  refine List.flatMap_congr fun token htoken => delimiters_expandToken ?_ fun v hv => ?_
  · rintro op rfl
    exact hforms op htoken
  · exact map_shape_lookup (hshape v (List.mem_flatMap.2 ⟨token, htoken, hv⟩))

/-- Values that are made of delimiters, next to harmless ones of the same shape. -/
theorem delimiters_expandTokens_hostile :
    delimiters (expandTokens
        [.literal ['/'], .var ⟨['x'], none, none⟩,
          .operator ⟨.list ['-'], [⟨['w'], none, none⟩]⟩,
          .operator ⟨.queryParameters, [⟨['q'], none, none⟩, ⟨['l'], some ['d'], none⟩]⟩]
        (Dict.ofList [(['x'], .one ['/', '?']), (['w'], .many [['&'], ['=']]),
          (['q'], .many [[','], []]), (['l'], .one [])])) =
      delimiters (expandTokens
        [.literal ['/'], .var ⟨['x'], none, none⟩,
          .operator ⟨.list ['-'], [⟨['w'], none, none⟩]⟩,
          .operator ⟨.queryParameters, [⟨['q'], none, none⟩, ⟨['l'], some ['d'], none⟩]⟩]
        (Dict.ofList [(['x'], .one ['a']), (['w'], .many [[], ['c']]),
          (['q'], .many [['e'], ['f']])])) :=
  delimiters_expandTokens
    (by
      intro op hop
      simp only [List.mem_cons, reduceCtorEq, Token.operator.injEq, List.not_mem_nil, or_false,
        false_or] at hop
      rcases hop with rfl | rfl <;> decide)
    (by decide)

end Template

end UriRouting
