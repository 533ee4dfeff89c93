import Mathlib.Data.List.Forall2
import UriRouting.Proofs.Text.Fields
import UriRouting.Template.Expansion

/-!
# What an expansion shows of its values

A template puts its own texts and the encoded items of values together, and each operator
does it in another way.  None of them looks at an item: it is encoded, and the rest is
concatenation.  So whatever two expansions are compared by, as long as it goes through
concatenation, they agree if the encoded items agree and the same variables have values.

## 1.  Views

A `TextView` is what two texts are compared by: all of the text (`TextView.whole`), or a
part of it that is found in its pieces one by one.

## 2.  Values

`TextView.Follows` says that what is seen of the encoded items of a value follows from
something that is known about the value, and `Parameters.map_lookup` that what is known
about the defined parameters is known about the values of variables.

## 3.  Two expansions

`TextView.see_expandOperator` is the case distinction over the operators,
`TextView.see_expandTokens` the statement about token sequences.  Seen as a whole, an
expansion depends on the items of the values of its variables, and on nothing else
(`expandTokens_congr_items`).
-/

namespace UriRouting

/-- Lists that agree under a map agree under every map that factors through it. -/
theorem map_eq_map_of_map_eq {α β γ : Type} {f : α → β} {g : α → γ}
    (hfg : ∀ a b, f a = f b → g a = g b) {as bs : List α} (h : as.map f = bs.map f) :
    as.map g = bs.map g := by
  rw [← List.forall₂_eq_eq_eq, List.forall₂_map_left_iff, List.forall₂_map_right_iff] at h ⊢
  exact h.imp hfg

/-! ## 1.  Views -/

/-- A way of looking at texts: what is seen of a text is what is seen of its pieces. -/
structure TextView where
  /-- What is seen of a text. -/
  see : Text → Text
  /-- Pieces are seen one by one. -/
  see_append : ∀ s t, see (s ++ t) = see s ++ see t

namespace TextView

/-- The view of a text as a whole. -/
def whole : TextView := ⟨id, fun _ _ => rfl⟩

@[simp] theorem see_whole (t : Text) : whole.see t = t := rfl

variable (view : TextView)

@[simp] theorem see_nil : view.see [] = [] := by
  have happend := view.see_append [] []
  rw [List.append_nil] at happend
  exact List.self_eq_append_right.1 happend

theorem see_cons_congr (c : Char) {s t : Text} (h : view.see s = view.see t) :
    view.see (c :: s) = view.see (c :: t) := by
  rw [← List.singleton_append, ← List.singleton_append (l := t), view.see_append,
    view.see_append, h]

theorem see_flatMap {α : Type} (as : List α) (f : α → Text) :
    view.see (as.flatMap f) = as.flatMap fun a => view.see (f a) := by
  induction as with
  | nil => exact view.see_nil
  | cons a as ih => rw [List.flatMap_cons, view.see_append, ih, List.flatMap_cons]

theorem see_joined (sep : Text) (ts : List Text) :
    view.see (Text.joined sep ts) = Text.joined (view.see sep) (ts.map view.see) := by
  cases ts with
  | nil => exact view.see_nil
  | cons t ts =>
    rw [Text.joined_cons, List.map_cons, Text.joined_cons, view.see_append, view.see_flatMap,
      List.flatMap_map]
    simp only [view.see_append]

section Congruence

variable {α β : Type} {κ : α → β} {f : α → Text} {as bs : List α}

theorem see_flatMap_congr (hf : ∀ a b, κ a = κ b → view.see (f a) = view.see (f b))
    (h : as.map κ = bs.map κ) : view.see (as.flatMap f) = view.see (bs.flatMap f) := by
  rw [see_flatMap, see_flatMap, List.flatMap_def, List.flatMap_def, map_eq_map_of_map_eq hf h]

theorem see_joined_congr (sep : Text) (hf : ∀ a b, κ a = κ b → view.see (f a) = view.see (f b))
    (h : as.map κ = bs.map κ) :
    view.see (Text.joined sep (as.map f)) = view.see (Text.joined sep (bs.map f)) := by
  rw [see_joined, see_joined, List.map_map, List.map_map]
  exact congrArg (Text.joined (view.see sep)) (map_eq_map_of_map_eq hf h)

end Congruence

end TextView

/-! ## 2.  Values -/

section Values

variable {β : Type} {κ : OneOrMany Text → β} {params params' : Parameters}

namespace Parameters

theorem lookup_eq_or (params : Parameters) (v : Variable) :
    params.lookup v =
      ((params.get? v.name).filter OneOrMany.isDefined).or (v.default.map .one) := by
  unfold lookup
  split
  · rename_i value hvalue
    rw [hvalue, Option.filter_some]
    split <;> rfl
  · rename_i hnone
    rw [hnone]
    rfl

/-- A text that is not empty is the value of its variable. -/
theorem lookup_of_get? {v : Variable} {s : Text} (hs : s ≠ [])
    (h : params.get? v.name = some (.one s)) : params.lookup v = some (.one s) := by
  have hdefined : (OneOrMany.one s).isDefined = true := by
    simpa [OneOrMany.isDefined] using hs
  rw [lookup_eq_or, h, Option.filter_some, if_pos hdefined, Option.some_or]

/-- What is known about a parameter, if it is defined, is known about the value of a
variable: the default is the same. -/
theorem map_lookup {v : Variable}
    (h : ((params.get? v.name).filter OneOrMany.isDefined).map κ =
      ((params'.get? v.name).filter OneOrMany.isDefined).map κ) :
    (params.lookup v).map κ = (params'.lookup v).map κ := by
  rw [lookup_eq_or, lookup_eq_or, Option.map_or, Option.map_or, h]

/-- A variable with what is known about its value. -/
def known (κ : OneOrMany Text → β) (entry : Variable × OneOrMany Text) : Variable × β :=
  (entry.1, κ entry.2)

theorem map_known_defined {vs : List Variable}
    (h : ∀ v ∈ vs, (params.lookup v).map κ = (params'.lookup v).map κ) :
    (params.defined vs).map (known κ) = (params'.defined vs).map (known κ) := by
  have hknown : ∀ p : Parameters, (p.defined vs).map (known κ) =
      vs.filterMap fun v => ((p.lookup v).map κ).map fun b => (v, b) := by
    intro p
    rw [defined, List.map_filterMap]
    refine List.filterMap_congr fun v _ => ?_
    rw [Option.map_map, Option.map_map]
    rfl
  rw [hknown, hknown]
  refine List.filterMap_congr fun v hv => ?_
  rw [h v hv]

theorem defines_of_map_lookup {v : Variable}
    (h : (params.lookup v).map κ = (params'.lookup v).map κ) :
    params.defines v = params'.defines v := by
  rw [defines, defines, ← Option.isSome_map (f := κ), h, Option.isSome_map]

end Parameters

/-- What is seen of the encoded items of a value follows from what is known about it. -/
def TextView.Follows (view : TextView) (κ : OneOrMany Text → β) (encode : Text → Text) : Prop :=
  ∀ a b, κ a = κ b → (a.items.map encode).map view.see = (b.items.map encode).map view.see

end Values

/-! ## 3.  Two expansions -/

namespace TextView

open Parameters Template

variable {view : TextView} {β : Type} {κ : OneOrMany Text → β} {params params' : Parameters}

theorem Follows.see_joinItems {encode : Text → Text} (h : view.Follows κ encode)
    {a b : OneOrMany Text} (hab : κ a = κ b) :
    view.see (joinItems encode a) = view.see (joinItems encode b) := by
  rw [joinItems, joinItems, see_joined, see_joined, h a b hab]

theorem Follows.see_pair (h : view.Follows κ Percent.encode) (a b : Variable × OneOrMany Text)
    (hab : known κ a = known κ b) : view.see (pair a) = view.see (pair b) := by
  obtain ⟨hv, hvalue⟩ := Prod.mk.inj hab
  rw [pair, pair, hv, view.see_append, view.see_append,
    view.see_cons_congr '=' (h.see_joinItems hvalue)]

/-- **What is seen of an operator** follows from its own texts and from what is known
about its values. -/
theorem see_expandOperator {op : Operator} (hencode : view.Follows κ Percent.encode)
    (hreserved : op.form = .reserved → view.Follows κ Percent.encodeReserved)
    (h : ∀ v ∈ op.vars, (params.lookup v).map κ = (params'.lookup v).map κ) :
    view.see (expandOperator op params) = view.see (expandOperator op params') := by
  have hknown := map_known_defined h
  have hitems : ((params.defined op.vars).flatMap fun entry =>
        entry.2.items.map Percent.encode).map view.see =
      ((params'.defined op.vars).flatMap fun entry =>
        entry.2.items.map Percent.encode).map view.see := by
    rw [List.map_flatMap, List.map_flatMap, List.flatMap_def, List.flatMap_def]
    refine congrArg List.flatten (map_eq_map_of_map_eq (fun a b hab => ?_) hknown)
    exact hencode _ _ (Prod.mk.inj hab).2
  have hdefines : ∀ v ∈ op.vars, params.defines v = params'.defines v :=
    fun v hv => defines_of_map_lookup (h v hv)
  obtain ⟨form, vs⟩ := op
  cases form with
  | reserved =>
    refine view.see_joined_congr _ (fun a b hab => ?_) hknown
    exact (hreserved rfl).see_joinItems (Prod.mk.inj hab).2
  | pathParameters =>
    exact view.see_flatMap_congr
      (fun a b hab => view.see_cons_congr ';' (hencode.see_pair a b hab)) hknown
  | queryParameters =>
    simp only [expandOperator]
    cases hdefined : params.defined vs with
    | nil =>
      have hnil : params'.defined vs = [] := by
        rw [hdefined] at hknown
        exact List.map_eq_nil_iff.1 hknown.symm
      rw [hnil]
    | cons entry entries =>
      obtain ⟨entry', entries', hdefined'⟩ : ∃ entry' entries',
          params'.defined vs = entry' :: entries' := by
        refine List.exists_cons_of_ne_nil fun hnil => ?_
        rw [hdefined, hnil] at hknown
        cases hknown
      rw [hdefined, hdefined'] at hknown
      rw [hdefined']
      exact view.see_cons_congr '?' (view.see_joined_congr _ hencode.see_pair hknown)
  | pathSegments =>
    refine view.see_flatMap_congr (fun a b hab => view.see_cons_congr '/' ?_) hknown
    exact hencode.see_joinItems (Prod.mk.inj hab).2
  | join separator => exact view.see_joined_congr separator hencode.see_pair hknown
  | list separator =>
    simp only [expandOperator, see_joined]
    rw [hitems]
  | prefixed arg =>
    refine view.see_flatMap_congr (fun a b hab => ?_) hitems
    rw [view.see_append, view.see_append, hab]
  | suffixed arg =>
    refine view.see_flatMap_congr (fun a b hab => ?_) hitems
    rw [view.see_append, view.see_append, hab]
  | opt arg =>
    have hany : vs.any params.defines = vs.any params'.defines := by
      rw [Bool.eq_iff_iff, List.any_eq_true, List.any_eq_true]
      exact exists_congr fun v => and_congr_right fun hv => by rw [hdefines v hv]
    simp only [expandOperator, hany]
  | neg arg =>
    have hall : vs.all params.defines = vs.all params'.defines := by
      rw [Bool.eq_iff_iff, List.all_eq_true, List.all_eq_true]
      exact forall₂_congr fun v hv => by rw [hdefines v hv]
    simp only [expandOperator, hall]

theorem see_expandToken {token : Token} (hencode : view.Follows κ Percent.encode)
    (hreserved : ∀ op, token = .operator op → op.form = .reserved →
      view.Follows κ Percent.encodeReserved)
    (h : ∀ v ∈ token.vars, (params.lookup v).map κ = (params'.lookup v).map κ) :
    view.see (expandToken params token) = view.see (expandToken params' token) := by
  cases token with
  | literal lit => rfl
  | wildcard => rfl
  | var v =>
    have hv := h v List.mem_cons_self
    simp only [expandToken]
    cases hlookup : params.lookup v with
    | none =>
      rw [hlookup, Option.map_none] at hv
      rw [Option.map_eq_none_iff.1 hv.symm]
    | some value =>
      rw [hlookup, Option.map_some] at hv
      obtain ⟨value', hvalue', hknown⟩ := Option.map_eq_some_iff.1 hv.symm
      rw [hvalue']
      exact hencode.see_joinItems hknown.symm
  | operator op => exact see_expandOperator hencode (hreserved op rfl) h

/-- **What is seen of an expansion** follows from the tokens and from what is known about
the values of their variables. -/
theorem see_expandTokens {tokens : List Token} (hencode : view.Follows κ Percent.encode)
    (hreserved : ∀ op, Token.operator op ∈ tokens → op.form = .reserved →
      view.Follows κ Percent.encodeReserved)
    (h : ∀ v ∈ tokens.flatMap Token.vars, (params.lookup v).map κ = (params'.lookup v).map κ) :
    view.see (expandTokens tokens params) = view.see (expandTokens tokens params') := by
  rw [expandTokens, expandTokens, see_flatMap, see_flatMap]
  refine List.flatMap_congr fun token htoken => see_expandToken hencode ?_ fun v hv => ?_
  · rintro op rfl
    exact hreserved op htoken
  · exact h v (List.mem_flatMap.2 ⟨token, htoken, hv⟩)

/-- The whole of the encoded items follows from the items. -/
theorem whole_follows_items (encode : Text → Text) : whole.Follows OneOrMany.items encode := by
  intro a b hab
  rw [hab]

end TextView

section Items

open Template

variable {params params' : Parameters}

theorem expandToken_congr_items {token : Token}
    (h : ∀ v ∈ token.vars, (params.lookup v).map OneOrMany.items =
      (params'.lookup v).map OneOrMany.items) :
    expandToken params token = expandToken params' token :=
  TextView.see_expandToken (TextView.whole_follows_items _)
    (fun _ _ _ => TextView.whole_follows_items _) h

/-- An expansion depends on the items of the values of its variables alone. -/
theorem expandTokens_congr_items {tokens : List Token}
    (h : ∀ v ∈ tokens.flatMap Token.vars, (params.lookup v).map OneOrMany.items =
      (params'.lookup v).map OneOrMany.items) :
    expandTokens tokens params = expandTokens tokens params' :=
  TextView.see_expandTokens (TextView.whole_follows_items _)
    (fun _ _ _ => TextView.whole_follows_items _) h

end Items

end UriRouting
